import JsxVNode.Signature
import JsxVNode.Error
/-!
Classified virtual nodes: what a markup tree becomes once its attributes are sorted into the
positions of a construction call, its children are cleaned up, and its child flags are decided.
Values in a classified node are terms: literals, or expression pieces in which nested markup is
already classified, so that compiling a node only walks the node itself. A nested tree that does
not classify keeps its error, which is raised when the piece is compiled.
-/
namespace JsxVNode

mutual
/-- A value in a classified node. -/
inductive Term where
  | literal (lit : Literal)
  | expr (pieces : List Piece)

/-- A piece of an expression: source text, or nested markup with the scope it was written in. -/
inductive Piece where
  | source (code : String)
  | tree (node : Except CompileError Node) (scope : Scope)

/-- An entry of a props object: a name, how the runtime takes it, and its value. Spreads have an
empty name. -/
inductive Field where
  | mk (name : String) (category : Category) (value : Term)

/-- The child flags of a call: known when compiling, or given by an expression. -/
inductive ChildFlagValue where
  | known (flags : Nat)
  | dynamic (value : Term)

/-- A classified node.
* An element carries its kind flags, class name, props, key, ref, children and how they are
  passed (child flags, whether the runtime normalises them, whether a lone text is passed as a
  string), whether its props need normalising (a spread), and its signature when it has one.
* A component carries its props, key, ref, lifecycle hooks and children, passed as a prop.
* A fragment carries its key, children and how they are passed.
* A text node, and a slot for a run-time value. -/
inductive Node where
  | element (tag : String) (flags : Nat) (className : Option Term) (fields : List Field)
      (key ref : Option Term) (children : List Node) (childFlags : ChildFlagValue)
      (normalizeChildren collapseText normalizeProps : Bool) (signature : Option Signature)
  | component (tag : String) (flags : Nat) (fields : List Field) (key ref : Option Term)
      (hooks : List Field) (children : List Node) (normalizeProps : Bool)
  | fragment (key : Option Term) (children : List Node) (childFlags : ChildFlagValue)
      (normalizeChildren collapseText : Bool) (signature : Option Signature)
  | text (value : String)
  | slot (value : Term)
end

namespace Term

def literal? : Term → Option Literal
  | .literal l => some l
  | .expr _ => none

def isNullish : Term → Bool
  | .literal .null | .literal .undefined => true
  | _ => false

def shape : Term → Shape
  | .literal l => .literal l
  | .expr _ => .slot

def soleTree? : Term → Option (Except CompileError Node)
  | .expr [.tree r _] => some r
  | _ => none

end Term

namespace Field

def name : Field → String
  | .mk n _ _ => n

def category : Field → Category
  | .mk _ c _ => c

def value : Field → Term
  | .mk _ _ v => v

def shape (f : Field) : FieldShape := ⟨f.name, f.category, f.value.shape⟩

end Field

def ChildFlagValue.known? : ChildFlagValue → Option Nat
  | .known n => some n
  | .dynamic _ => none

namespace Node

/-- The signature of a node: stored for elements and fragments, derived for text and slots,
none for components. -/
def signature? : Node → Option Signature
  | .element _ _ _ _ _ _ _ _ _ _ _ s => s
  | .fragment _ _ _ _ _ s => s
  | .text v => some (.text v)
  | .slot _ => some .slot
  | .component .. => none

def key? : Node → Option Term
  | .element _ _ _ _ k _ _ _ _ _ _ _ => k
  | .component _ _ _ k _ _ _ _ => k
  | .fragment k _ _ _ _ _ => k
  | .text _ | .slot _ => none

def isStatic : Node → Bool
  | .element _ _ _ _ _ _ _ _ _ _ _ s | .fragment _ _ _ _ _ s => s.any Signature.isStatic
  | .text _ => true
  | .component .. | .slot _ => false

def isSlot : Node → Bool
  | .slot _ => true
  | _ => false

end Node

end JsxVNode
