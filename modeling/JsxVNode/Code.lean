import JsxVNode.Options
/-!
Emitted code as a tree: construction calls with their arguments, array and object literals, the
text the compiler writes into them, the source text of embedded expressions, and the references
to blueprints (a static blueprint's slot, read or built in place, and a template's call). Printing
the tree gives the text of the compiled code; a helper is printed as the options name its callee.
-/
namespace JsxVNode

def slotName (id : Nat) : String := "_bp" ++ toString id

def templateName (id : Nat) : String := "_tpl" ++ toString id

def paramName (i : Nat) : String := "v" ++ toString i

/-- A piece of emitted code. -/
inductive Code where
  | text (s : String)
  | source (s : String)
  | helper (h : Helper)
  | call (callee : Code) (args : List Code)
  | array (items : List Code)
  | object (entries : List Code)
  | entry (key : String) (value : Code)
  | spread (value : Code)
  | expr (parts : List Code)
  | param (index : Nat)
  | cached (id : Nat) (skeleton : Code)
  | template (id : Nat) (args : List Code)
  | paren (code : Code)
deriving Inhabited

namespace Code

mutual
def render (o : Options) : Code → String
  | .text s | .source s => s
  | .helper h => o.callee h
  | .call callee args => callee.render o ++ "(" ++ renderList o ", " args ++ ")"
  | .array items => "[" ++ renderList o ", " items ++ "]"
  | .object entries => "\x7b" ++ renderList o ", " entries ++ "\x7d"
  | .entry key value => key ++ ": " ++ value.render o
  | .spread value => "..." ++ value.render o
  | .expr parts => renderList o "" parts
  | .param i => paramName i
  | .cached id skeleton => slotName id ++ " || (" ++ slotName id ++ " = " ++ skeleton.render o ++ ")"
  | .template id args => templateName id ++ "(" ++ renderList o ", " args ++ ")"
  | .paren code => "(" ++ code.render o ++ ")"

def renderList (o : Options) (sep : String) : List Code → String
  | [] => ""
  | [c] => c.render o
  | c :: rest => c.render o ++ sep ++ renderList o sep rest
end

end Code

end JsxVNode
