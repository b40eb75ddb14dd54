import JsxVNode.Json.Read
import JsxVNode.Options
/-!
Options as JSON. Every field may be left out and then takes its default; unknown members are
read and ignored; a member given twice is refused. `imports` is `true`, `false` or a module name.
Options are written with their members in declaration order.
-/
namespace JsxVNode

namespace Options

def importsJson : Imports → Json
  | .enabled b => .bool b
  | .module m => .str m

def toJson (o : Options) : Json :=
  .obj [("pragma", Json.optStr o.pragma),
    ("pragmaCreateComponentVNode", Json.optStr o.pragmaCreateComponentVNode),
    ("pragmaFragment", Json.optStr o.pragmaFragment),
    ("pragmaTextVNode", Json.optStr o.pragmaTextVNode),
    ("pragmaNormalizeProps", Json.optStr o.pragmaNormalizeProps),
    ("imports", importsJson o.imports),
    ("defineAllArguments", .bool o.defineAllArguments),
    ("optimizeStaticVNodes", .bool o.optimizeStaticVNodes)]

def fieldNames : List String :=
  ["pragma", "pragmaCreateComponentVNode", "pragmaFragment", "pragmaTextVNode",
    "pragmaNormalizeProps", "imports", "defineAllArguments", "optimizeStaticVNodes"]

def importsOf : Json → Option Imports
  | .bool b => some (.enabled b)
  | .str s => some (.module s)
  | _ => none

def readField (o : Options) (name : String) : JsonReader Options := do
  if name == "pragma" then return { o with pragma := ← JsonReader.optionalString }
  if name == "pragmaCreateComponentVNode" then
    return { o with pragmaCreateComponentVNode := ← JsonReader.optionalString }
  if name == "pragmaFragment" then return { o with pragmaFragment := ← JsonReader.optionalString }
  if name == "pragmaTextVNode" then return { o with pragmaTextVNode := ← JsonReader.optionalString }
  if name == "pragmaNormalizeProps" then
    return { o with pragmaNormalizeProps := ← JsonReader.optionalString }
  if name == "imports" then
    match importsOf (← JsonReader.memberValue) with
    | some i => return { o with imports := i }
    | none => throw { message := "data did not match any variant of untagged enum ImportsOption" }
  if name == "defineAllArguments" then return { o with defineAllArguments := ← JsonReader.boolValue }
  return { o with optimizeStaticVNodes := ← JsonReader.boolValue }

def readMembers : Nat → Options → List String → Bool → JsonReader Options
  | 0, o, _, _ => pure o
  | n + 1, o, seen, first => do
    match ← JsonReader.key first with
    | none => return o
    | some k =>
      if fieldNames.contains k then
        if seen.contains k then throw { message := "duplicate field `" ++ k ++ "`" }
        JsonReader.colon
        let o ← readField o k
        readMembers n o (k :: seen) false
      else
        JsonReader.colon
        JsonReader.ignored
        readMembers n o seen false

/-- Reads the option fields given as an array, in declaration order; missing ones keep their
defaults. -/
def readElements : List String → Options → Bool → JsonReader Options
  | [], o, _ => pure o
  | name :: rest, o, first => do
    let more ← match ← JsonReader.blanks with
      | some 93 => pure false
      | some 44 =>
        if first then pure true
        else
          JsonReader.bump
          match ← JsonReader.blanks with
          | some 93 => JsonReader.failAhead "trailing comma"
          | some _ => pure true
          | none => JsonReader.failAhead "EOF while parsing a value"
      | some _ => if first then pure true else JsonReader.failAhead "expected `,` or `]`"
      | none => JsonReader.failAhead "EOF while parsing a list"
    if !more then return o
    let o ← readField o name
    readElements rest o false

/-- Runs a reading, then an ending step that runs whatever the reading gave; the reading's
error wins, and an error without a position is placed where both stopped. -/
def withEnd {α : Type} (body : JsonReader α) (ending : JsonReader Unit) : JsonReader α := do
  let r ← tryCatch (Except.ok <$> body) fun e => pure (.error e)
  let e ← tryCatch (Except.ok <$> ending) fun e => pure (.error e)
  match r, e with
  | .ok a, .ok () => pure a
  | .error err, _ => throw (← JsonReader.placed err)
  | .ok _, .error err => throw (← JsonReader.placed err)

def reader : JsonReader Options := do
  match ← JsonReader.blanks with
  | none => JsonReader.failAhead "EOF while parsing a value"
  | some 123 =>
    JsonReader.bump
    withEnd (readMembers ((← MonadReader.read).size + 1) {} [] true) JsonReader.endMap
  | some 91 =>
    JsonReader.bump
    withEnd (readElements fieldNames {} true) JsonReader.endList
  | some _ => JsonReader.wrongType "struct CompileOptions"

def fromJsonText (text : String) : Except JsonError Options := JsonReader.runOn reader text

end Options

end JsxVNode
