import JsxVNode.Source.Parser.Markup
/-!
Which expressions can be assigned to. The operand of `++`, `--` or a compound assignment must
name a place: an identifier or a property access, possibly in parentheses. The target of `=` and
the head of a `for`-`in` or `for`-`of` loop may also be an array or object literal, read as a
destructuring pattern whose elements are targets in turn (an element may carry a default).

A pattern's rest element (`...x`) comes last, with no comma after it. In an array pattern it
takes no default; in an object pattern it must name a place.

Checking a target gives its issues in source order. An issue that is not fatal is recorded and
checking goes on; a fatal one ends it.
-/
namespace JsxVNode.Source

def cannotAssign : String := "Cannot assign to this expression"

def restTrailingComma : String := "A rest parameter or binding pattern may not have a trailing comma."

def restNotLast : String := "A rest element must be last in a destructuring pattern"

def spreadNotLast : String := "Spread must be last element"

def compoundDefault : String := "Only '=' operator can be used for specifying default value."

def invalidRestArgument : String := "Invalid rest operator's argument."

/-- A problem with an assignment target: reading goes on after it unless it is `fatal`. -/
structure TargetIssue where
  diag : Diag
  fatal : Bool

/-- Where an expression starting at `start` fails to name a place. Parentheses are looked
through, except around an array or object literal, which is then the part at fault. -/
def Form.placeError (start : Nat) : Form → Option Nat
  | .name _ | .place => none
  | .paren s inner =>
    match inner with
    | .array _ _ | .object _ _ => some start
    | _ => placeError s inner
  | _ => some start

def Form.placeIssues (start : Nat) (f : Form) : List TargetIssue :=
  match f.placeError start with
  | some p => [⟨⟨cannotAssign, p⟩, true⟩]
  | none => []

def trailingIssues : Option Nat → List TargetIssue
  | some c => [⟨⟨restTrailingComma, c⟩, false⟩]
  | none => []

mutual

/-- The issues of an expression starting at `start` as the target of `=`: a literal array or
object is checked element by element, anything else must name a place. -/
def Form.targetIssues (start : Nat) : Form → List TargetIssue
  | .array elements trailing => Element.arrayIssues elements trailing
  | .object members trailing => Element.objectIssues members trailing
  | f => f.placeIssues start

/-- The issues of the elements of an array pattern. The last element may be a rest element,
whose argument takes no default. -/
def Element.arrayIssues : List Element → Option Nat → List TargetIssue
  | [], _ => []
  | [.spread _ s f], trailing =>
    (match f with
      | .assignment _ => [⟨⟨invalidRestArgument, s⟩, false⟩]
      | _ => []) ++ f.targetIssues s ++ trailingIssues trailing
  | e :: rest, trailing => e.targetIssues ++ Element.arrayIssues rest trailing

/-- The issues of the members of an object pattern. The last member may be a rest element,
whose argument names a place; a literal there is not a pattern. -/
def Element.objectIssues : List Element → Option Nat → List TargetIssue
  | [], _ => []
  | [.spread _ s f], trailing =>
    (match f with
      | .array _ _ | .object _ _ => [⟨⟨invalidRestArgument, s⟩, false⟩, ⟨⟨cannotAssign, s⟩, true⟩]
      | _ => f.placeIssues s) ++ trailingIssues trailing
  | e :: rest, trailing => e.targetIssues ++ Element.objectIssues rest trailing

/-- The issues of one element of a pattern other than a last rest element: an assignment is a
target with a default (given with plain `=`), a shorthand property names a binding, a spread
before the end is out of place, and a method is never a target. -/
def Element.targetIssues : Element → List TargetIssue
  | .hole | .shorthand _ => []
  | .item s f =>
    match f with
    | .assignment compound => if compound then [⟨⟨compoundDefault, s⟩, false⟩] else []
    | _ => f.targetIssues s
  | .spread dots _ _ => [⟨⟨spreadNotLast, dots⟩, true⟩]
  | .method s => [⟨⟨cannotAssign, s⟩, true⟩]

end

mutual

/-- The shorthand properties with defaults that a pattern read as the target of `=` makes
legal: those of its object literals, at any depth of arrays and objects, but not those inside
an element's default value, which is an expression of its own. -/
def Form.patternDefaults : Form → List Nat
  | .array elements _ => Element.listDefaults elements
  | .object members _ => Element.listDefaults members
  | _ => []

def Element.listDefaults : List Element → List Nat
  | [] => []
  | e :: rest => e.defaults ++ Element.listDefaults rest

def Element.defaults : Element → List Nat
  | .shorthand (some p) => [p]
  | .item _ f =>
    match f with
    | .assignment _ => []
    | _ => f.patternDefaults
  | .spread _ _ f => f.patternDefaults
  | _ => []

end

end JsxVNode.Source
