import JsxVNode.Tree.Basic
/-!
Why a compilation fails. Each fault has a stable code, the guarantee it protects, a message, an
optional context (the name at fault) and hints. The rendered form is
`[CODE] message (file:line:column)` with one `hint:` line per hint.
-/
namespace JsxVNode

/-- What went wrong. -/
inductive Fault where
  | hooksWithRef (tag : String) (hooks : List String)
  | deprecatedName (name replacement : String)
  | malformedName (name : String)
  | unparsable (message : String)
deriving DecidableEq, Repr

namespace Fault

def code : Fault → String
  | .hooksWithRef .. => "VNC-STRUCTURAL-CONFLICT"
  | .deprecatedName .. => "VNC-DEPRECATED-ATTRIBUTE"
  | .malformedName _ => "VNC-MALFORMED-ATTRIBUTE-NAME"
  | .unparsable _ => "VNC-PARSE-ERROR"

def guarantee : Fault → String
  | .hooksWithRef .. => "Lifecycle hooks are declared either as one aggregated ref object or as individual attributes, never both."
  | .deprecatedName .. => "Retired attribute names fail loudly instead of degrading."
  | .malformedName _ => "Every attribute name is an identifier or a namespace:name pair."
  | .unparsable _ => "Only syntactically valid sources are transformed."

def message : Fault → String
  | .hooksWithRef tag hooks =>
    "<" ++ tag ++ "> combines an aggregated `ref` hooks object with individual hooks (" ++
      ", ".intercalate hooks ++ ")"
  | .deprecatedName name replacement =>
    "`" ++ name ++ "` is deprecated, use `" ++ replacement ++ "` instead"
  | .malformedName name => "Unrecognized attribute name `" ++ name ++ "`"
  | .unparsable message => message

def context : Fault → Option String
  | .hooksWithRef tag _ => some tag
  | .deprecatedName name _ => some name
  | .malformedName name => some name
  | .unparsable _ => none

def hints : Fault → List String
  | .hooksWithRef .. => ["Move the hooks into the `ref` object or drop the `ref` attribute."]
  | .deprecatedName _ replacement => ["Rename the attribute to `" ++ replacement ++ "`."]
  | .malformedName _ => ["Use an identifier or a `namespace:name` pair."]
  | .unparsable _ => []

end Fault

/-- A fault at a place in a file. Faults found inside a tree have no file until the file that
holds the tree is known. -/
structure CompileError where
  fault : Fault
  file : String
  loc : Location
deriving DecidableEq, Repr

namespace CompileError

def found (fault : Fault) (loc : Location) : CompileError := ⟨fault, "", loc⟩

def inFile (e : CompileError) (file : String) : CompileError :=
  if e.file.isEmpty then { e with file := file } else e

def render (e : CompileError) : String :=
  "[" ++ e.fault.code ++ "] " ++ e.fault.message ++ " (" ++ e.file ++ ":" ++
    toString e.loc.line ++ ":" ++ toString e.loc.column ++ ")" ++
    String.join (e.fault.hints.map ("\n  hint: " ++ ·))

end CompileError

def retiredNames : List (String × String) :=
  [("noNormalize", "$HasVNodeChildren"), ("$NoNormalize", "$HasVNodeChildren"),
   ("hasKeyedChildren", "$HasKeyedChildren"), ("hasNonKeyedChildren", "$HasNonKeyedChildren")]

end JsxVNode
