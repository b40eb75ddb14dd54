import JsxVNode.Text.Quoted
import JsxVNode.Tree.Basic
import JsxVNode.Flags
/-!
Signatures: the structural identity of a subtree of elements, fragments, text and expression
children. Values known when compiling stay in the signature; every run-time value is a
placeholder. A signature without placeholders and without children left to the runtime to
normalise describes a static subtree, built once; one with placeholders describes a template,
called with the values in order. Two subtrees share a blueprint exactly when their signatures are
equal.
-/
namespace JsxVNode

def Literal.render : Literal → String
  | .str s => Text.quote s
  | .num n => n
  | .bool true => "true"
  | .bool false => "false"
  | .null => "null"
  | .undefined => "undefined"

/-- How an attribute reaches the runtime. -/
inductive Category where
  | prop
  | event
  | hook
  | style
  | spread
deriving DecidableEq, Repr

/-- A value as far as structure goes: a literal, or a placeholder for a run-time value. -/
inductive Shape where
  | literal (lit : Literal)
  | slot
deriving DecidableEq, Repr

/-- One entry of a props object in a signature. -/
structure FieldShape where
  name : String
  category : Category
  value : Shape
deriving DecidableEq, Repr

/-- The structural identity of a subtree. Child flags are `none` when an expression decides them
at run time. -/
inductive Signature where
  | element (tag : String) (flags : Nat) (className : Option Shape) (fields : List FieldShape)
      (key ref : Option Shape) (childFlags : Option Nat) (children : List Signature)
  | fragment (key : Option Shape) (childFlags : Option Nat) (children : List Signature)
  | text (value : String)
  | slot

namespace Signature

mutual
def decEq : (a b : Signature) → Decidable (a = b)
  | .element tag flags cls fields key ref cf cs, .element tag2 flags2 cls2 fields2 key2 ref2 cf2 cs2 =>
    if h : tag = tag2 ∧ flags = flags2 ∧ cls = cls2 ∧ fields = fields2 ∧ key = key2 ∧ ref = ref2 ∧
        cf = cf2 then
      match decEqList cs cs2 with
      | isTrue hc => isTrue (by obtain ⟨rfl, rfl, rfl, rfl, rfl, rfl, rfl⟩ := h; subst hc; rfl)
      | isFalse hc => isFalse (by intro e; cases e; exact hc rfl)
    else isFalse (by intro e; cases e; exact h ⟨rfl, rfl, rfl, rfl, rfl, rfl, rfl⟩)
  | .fragment key cf cs, .fragment key2 cf2 cs2 =>
    if h : key = key2 ∧ cf = cf2 then
      match decEqList cs cs2 with
      | isTrue hc => isTrue (by obtain ⟨rfl, rfl⟩ := h; subst hc; rfl)
      | isFalse hc => isFalse (by intro e; cases e; exact hc rfl)
    else isFalse (by intro e; cases e; exact h ⟨rfl, rfl⟩)
  | .text v, .text v2 =>
    if h : v = v2 then isTrue (by subst h; rfl) else isFalse (by intro e; cases e; exact h rfl)
  | .slot, .slot => isTrue rfl
  | .element .., .fragment .. | .element .., .text .. | .element .., .slot
  | .fragment .., .element .. | .fragment .., .text .. | .fragment .., .slot
  | .text .., .element .. | .text .., .fragment .. | .text .., .slot
  | .slot, .element .. | .slot, .fragment .. | .slot, .text .. => isFalse (by intro e; cases e)

def decEqList : (a b : List Signature) → Decidable (a = b)
  | [], [] => isTrue rfl
  | x :: xs, y :: ys =>
    match decEq x y, decEqList xs ys with
    | isTrue h1, isTrue h2 => isTrue (by subst h1; subst h2; rfl)
    | isFalse h1, _ => isFalse (by intro e; cases e; exact h1 rfl)
    | _, isFalse h2 => isFalse (by intro e; cases e; exact h2 rfl)
  | [], _ :: _ | _ :: _, [] => isFalse (by intro e; cases e)
end

instance : DecidableEq Signature := decEq

end Signature

namespace Shape

def isSlot : Shape → Bool
  | .slot => true
  | .literal _ => false

def render : Shape → String
  | .literal l => l.render
  | .slot => "$"

end Shape

def slotsOf (shapes : List (Option Shape)) : Nat :=
  (shapes.filter fun s => s.any Shape.isSlot).length

namespace Signature

mutual
def slotCount : Signature → Nat
  | .element _ _ className fields key ref childFlags children =>
    slotsOf [className, key, ref] + (fields.filter (·.value.isSlot)).length +
      (if childFlags.isNone then 1 else 0) + slotCountList children
  | .fragment key childFlags children =>
    slotsOf [key] + (if childFlags.isNone then 1 else 0) + slotCountList children
  | .text _ => 0
  | .slot => 1

def slotCountList : List Signature → Nat
  | [] => 0
  | s :: rest => slotCount s + slotCountList rest
end

mutual
def normalizes : Signature → Bool
  | .element _ _ _ _ _ _ childFlags children | .fragment _ childFlags children =>
    childFlags == some ChildFlags.unknown || normalizesList children
  | .text _ | .slot => false

def normalizesList : List Signature → Bool
  | [] => false
  | s :: rest => normalizes s || normalizesList rest
end

def isStatic (s : Signature) : Bool := s.slotCount == 0 && !s.normalizes

def fieldLabel : Category → String
  | .style => "style"
  | .event => "event"
  | _ => "prop"

def renderKeyRef (key ref : Option Shape) : String :=
  (match key with | some k => "|key=" ++ k.render | none => "") ++
    (match ref with | some r => "|ref=" ++ r.render | none => "")

mutual
def render : Signature → String
  | .element tag flags className fields key ref childFlags children =>
    "element:'" ++ tag ++ "'|flags:" ++ toString flags ++
      (match className with | some c => "|class=" ++ c.render | none => "") ++
      String.join (fields.map fun f => "|" ++ fieldLabel f.category ++ ":" ++ f.name ++ "=" ++
        f.value.render) ++
      renderKeyRef key ref ++ renderChildren (childFlagsText childFlags) 0 children ++ ")|/children"
  | .fragment key childFlags children =>
    "fragment" ++ renderKeyRef key none ++ renderChildren (childFlagsText childFlags) 0 children ++
      ")|/children"
  | .text value => "text:" ++ Text.quote value
  | .slot => "slot"

/-- The children part of a signature's text from position `index` on: the child flags, then
the children separated by commas, an expression child written with its index. -/
def renderChildren (flags : String) (index : Nat) : List Signature → String
  | [] => if index == 0 then "|childFlags:" ++ flags ++ "|children(" else ""
  | s :: rest =>
    (if index == 0 then "|childFlags:" ++ flags ++ "|children(" else ",") ++
      (match s with
       | .slot => "slot:" ++ toString index ++ "=" ++ flags
       | _ => render s) ++
      renderChildren flags (index + 1) rest

def childFlagsText : Option Nat → String
  | some n => toString n
  | none => "$"
end

end Signature

end JsxVNode
