import JsxVNode.Source.Parser.Cursor
import JsxVNode.Tree.Literal
/-!
From parsed markup to trees. An embedded expression becomes its source text cut around the
markup found inside it; a string literal or a template without substitutions becomes a string
value, and other plain source is read as a literal when it spells one.
-/
namespace JsxVNode.Source

mutual

/-- The shape of a parsed expression, as far as markup conversion, arrows and assignments look
at it. -/
inductive Form where
  | string (value : String)
  | template (cooked : Option String)
  | name (name : String)
  | paren (innerStart : Nat) (inner : Form)
  | sequence
  /-- A property access outside an optional chain, or an expression under a type assertion or
  a non-null assertion: a place that can be assigned. -/
  | place
  | instantiation
  | assignment (compound : Bool)
  /-- A prefix unary operation (`!`, `-`, `typeof`, `await` and the like), which cannot be the
  base of `**`. -/
  | unary
  | logical (coalesce : Bool)
  | array (elements : List Element) (trailingComma : Option Nat)
  | object (members : List Element) (trailingComma : Option Nat)
  | other

/-- An element of an array literal or a member of an object literal, as destructuring sees it. -/
inductive Element where
  | hole
  | item (start : Nat) (form : Form)
  | spread (dots start : Nat) (form : Form)
  /-- A shorthand property, which names a binding, with where it starts when it has a default
  (`\x7b a = 1 \x7d`), which only a destructuring pattern allows. -/
  | shorthand (defaultAt : Option Nat)
  | method (start : Nat)

end

instance : Inhabited Form := ⟨.other⟩

/-- A parsed expression: its span and shape. -/
structure Expr where
  start : Nat
  stop : Nat
  form : Form := .other
deriving Inhabited

def Form.text? : Form → Option String
  | .string v => some v
  | .template cooked => cooked
  | .paren _ f => f.text?
  | _ => none

def sortSites (sites : Array Site) : List Site :=
  sites.toList.mergeSort fun a b => a.start ≤ b.start

def cutAround (src : Src) (stop : Nat) : Nat → List Site → List ExprPart
  | cursor, [] =>
    if stop > cursor then [.source (src.slice cursor stop)] else []
  | cursor, s :: rest =>
    let before := if s.start > cursor then [.source (src.slice cursor s.start)] else []
    before ++ .tree s.tree s.scope :: cutAround src stop s.stop rest

/-- The parts of an expression spanning `start` to `stop` with the markup sites found in it. An
expression with no text and no site is one empty piece of source. -/
def partsOf (src : Src) (start stop : Nat) (sites : Array Site) : List ExprPart :=
  match cutAround src stop start (sortSites sites) with
  | [] => [.source ""]
  | parts => parts

def valueOf (src : Src) (e : Expr) (sites : Array Site) : Value :=
  match e.form.text? with
  | some v => Value.string v
  | none =>
    let parts := partsOf src e.start e.stop sites
    match plainSource? parts with
    | some code => Value.ofSource code
    | none => .expr parts

/-- The name of an element as written: one identifier, a namespaced name, or a member chain. -/
inductive MarkupName where
  | simple (name : String)
  | namespaced («namespace» : String) (name : String)
  | member (parts : List String)
deriving DecidableEq, Inhabited

/-- Whether the name is a plain identifier starting with an upper-case ASCII letter, `_`, `$` or a
non-ASCII character, and has no dash; such names are references to a binding. -/
def isReferenceName (name : String) : Bool :=
  (match name.toList with
    | c :: _ => c.toNat ≥ 128 || !c.isLower
    | [] => false) && !name.toList.contains '-'

/-- Whether an element name denotes a component: `this`, a member chain, or a name that
`isComponentTag` accepts; a namespaced name never does. -/
def MarkupName.isComponent (n : MarkupName) (tag : String) : Bool :=
  match n with
  | .namespaced _ _ => false
  | .simple name => (!isReferenceName name && name == "this") || isComponentTag tag
  | .member _ => isComponentTag tag

def tagOf (src : Src) (start stop : Nat) : String :=
  String.ofList ((src.slice start stop).toList.filter fun c => !Text.isBlank c)

end JsxVNode.Source
