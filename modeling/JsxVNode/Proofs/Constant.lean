import JsxVNode.Proofs.Lockstep
import Mathlib.Logic.Relation
/-!
Static skeletons are constants. A skeleton is built once per file and read at every site of its
signature, so it must not depend on anything that differs between sites. It is made of calls of
the helpers that create elements, fragments and texts, with arrays, objects and the text the
compiler writes itself (flags, tags, literal values). It holds no source text, no embedded
expression, no template parameter and no reference to a blueprint.

Building a static node in place reads nothing of the state but the options, cannot fail, and
changes nothing but the helpers used, recording those its code calls. Every element and fragment
below a static one is static too, and is built the same way.
-/
namespace JsxVNode

def Helper.buildsNode : Helper → Bool
  | .createVNode | .createFragment | .createTextVNode => true
  | _ => false

/-- Code built from constants only: calls of the helpers that create nodes, array and object
literals with their entries, and text the compiler writes itself. -/
inductive Code.Constant : Code → Prop
  | text (s : String) : Code.Constant (.text s)
  | call {h : Helper} {args : List Code} (builds : h.buildsNode = true)
      (all : ∀ a ∈ args, Code.Constant a) : Code.Constant (.call (.helper h) args)
  | array {items : List Code} (all : ∀ c ∈ items, Code.Constant c) : Code.Constant (.array items)
  | object {entries : List Code} (all : ∀ c ∈ entries, Code.Constant c) :
      Code.Constant (.object entries)
  | entry (key : String) {value : Code} (constant : Code.Constant value) :
      Code.Constant (.entry key value)
  | spread {value : Code} (constant : Code.Constant value) : Code.Constant (.spread value)

def Node.children : Node → List Node
  | .element _ _ _ _ _ _ children _ _ _ _ _ => children
  | .component _ _ _ _ _ _ children _ => children
  | .fragment _ children _ _ _ _ => children
  | .text _ | .slot _ => []

/-- `c` is one of the children of `p`. Markup nested in an expression is no child: it is a tree
of its own. -/
def Node.ChildOf (c p : Node) : Prop := c ∈ p.children

def Node.isHoistable : Node → Bool
  | .element .. | .fragment .. => true
  | _ => false

namespace Code.Constant

theorem finishCall {h : Helper} (builds : h.buildsNode = true) {args : List (Option Code)}
    (present : ∀ a ∈ args, ∀ c ∈ a, Code.Constant c) (defaults : List String) (defineAll : Bool) :
    Code.Constant (JsxVNode.finishCall (.helper h) args defaults defineAll) := by
  refine .call builds fun c hc => ?_
  simp only [List.mem_map, Prod.exists] at hc
  obtain ⟨a, i, mem, rfl⟩ := hc
  have written : a ∈ args := by
    obtain ⟨-, -, picked⟩ := List.mem_zipIdx mem
    rw [picked]
    exact List.mem_of_mem_take (List.getElem_mem _)
  cases a with
  | none => exact .text _
  | some c => exact present _ written c rfl

theorem sole {codes : List Code} (all : ∀ c ∈ codes, Code.Constant c) :
    Code.Constant (Code.sole codes) := by
  unfold Code.sole
  split
  · exact all _ (by simp)
  · exact .array all

theorem propsObject {entries : List Code} (all : ∀ c ∈ entries, Code.Constant c) :
    ∀ c ∈ Compile.propsObject entries [], Code.Constant c := by
  unfold Compile.propsObject
  split
  · simp
  · simpa using Code.Constant.object all

end Code.Constant

/-! ### The code of a static signature -/

namespace Signature

variable {o : Options}

theorem constant_optionCode (hole : Nat → Code) {s : Option Shape} (h : slotsOf [s] = 0) :
    ∀ c ∈ Shape.optionCode hole s, Code.Constant c := by
  rcases s with _ | ⟨l | _⟩
  · simp [Shape.optionCode]
  · cases l <;> simp [Shape.optionCode, Shape.code, Code.Constant.text]
  · simp [slotsOf, Shape.isSlot] at h

theorem constant_entries (hole : Nat → Code) {fields : List FieldShape}
    (h : (fields.filter (·.value.isSlot)).length = 0) :
    ∀ c ∈ FieldShape.entries hole fields, Code.Constant c := by
  induction fields generalizing hole with
  | nil => simp [FieldShape.entries]
  | cons f rest ih =>
    obtain ⟨name, category, value⟩ := f
    cases value with
    | slot => simp [Shape.isSlot] at h
    | literal l =>
      have more := ih (shiftHoles hole 0) (by simpa [Shape.isSlot] using h)
      simp only [FieldShape.entries, List.mem_cons, Shape.holes, Shape.isSlot]
      rintro c (rfl | hc)
      · unfold FieldShape.entry
        split
        · exact .spread (.text _)
        · exact .entry _ (.text _)
      · simpa using more c hc

theorem constant_childFlagsCode (hole : Nat → Code) (m : Nat) :
    ∀ c ∈ childFlagsCode hole (some m), Code.Constant c := by
  intro c hc
  rw [childFlagsCode] at hc
  split at hc
  · simp at hc
  · exact Option.mem_some_iff.mp hc ▸ .text _

theorem constant_childrenCode (children : List Signature) (cf : Option Nat) (collapse : Bool)
    {codes : List Code} (all : ∀ c ∈ codes, Code.Constant c) :
    ∀ c ∈ childrenCode children cf collapse codes, Code.Constant c := by
  unfold childrenCode
  split
  · simp
  · split
    · simpa using Code.Constant.text _
    · split <;> simpa using (by first | exact Code.Constant.array all | exact Code.Constant.sole all)
  · split <;> simpa using (by first | exact Code.Constant.sole all | exact Code.Constant.array all)
  · simpa using Code.Constant.array all

mutual
theorem constant_code : ∀ (sig : Signature) (hole : Nat → Code), sig.isStatic = true →
    (sig.code o (fun _ => none) hole).Constant
  | .element tag flags cls fields key ref cf children, hole, static => by
    obtain ⟨hslots, hfields, ⟨m, rfl, hmu⟩, hcount, hnorm⟩ := isStatic_element_iff.mp static
    obtain ⟨hcls, hkey, href⟩ := slotsOf_triple_eq_zero.mp hslots
    have items := constant_codeList children (shiftHoles hole (slotsOf [cls]))
      (allStatic_iff.mp ⟨hcount, hnorm⟩)
    simp only [code, Option.some.injEq, hmu, beq_iff_eq, if_false]
    refine Code.Constant.finishCall rfl ?_ elementDefaults o.defineAllArguments
    simp only [List.mem_append, List.mem_cons, List.not_mem_nil, or_false]
    rintro a ((rfl | rfl | rfl) | rfl | rfl | rfl | rfl | rfl) c hc
    · exact Option.mem_some_iff.mp hc ▸ .text _
    · exact Option.mem_some_iff.mp hc ▸ .text _
    · exact constant_optionCode hole hcls c hc
    · exact constant_childrenCode children _ _ items c hc
    · exact constant_childFlagsCode _ m c hc
    · exact Code.Constant.propsObject (constant_entries _ hfields) c hc
    · exact constant_optionCode _ hkey c hc
    · exact constant_optionCode _ href c hc
  | .fragment key cf children, hole, static => by
    obtain ⟨hkey, ⟨m, rfl, -⟩, hcount, hnorm⟩ := isStatic_fragment_iff.mp static
    have items := constant_codeList children hole (allStatic_iff.mp ⟨hcount, hnorm⟩)
    simp only [code]
    refine Code.Constant.finishCall rfl ?_ fragmentDefaults o.defineAllArguments
    simp only [List.mem_cons, List.not_mem_nil, or_false]
    rintro a (rfl | rfl | rfl) c hc
    · exact constant_childrenCode children _ _ items c hc
    · split at hc
      · simp at hc
      · exact constant_childFlagsCode _ m c hc
    · exact constant_optionCode _ hkey c hc
  | .text _, _, _ => .call rfl (by simpa using Code.Constant.text _)
  | .slot, _, static => by simp [isStatic, slotCount] at static

theorem constant_codeList : ∀ (sigs : List Signature) (hole : Nat → Code),
    (∀ s ∈ sigs, s.isStatic = true) →
      ∀ c ∈ codeList o (fun _ => none) hole sigs, Code.Constant c
  | [], _, _ => by simp [codeList]
  | s :: rest, hole, static => by
    have first := constant_code s hole (static s (by simp))
    have more := constant_codeList rest (shiftHoles hole s.slotCount)
      fun s' hs' => static s' (by simp [hs'])
    simp only [codeList, Option.getD_none, ite_self, List.mem_cons]
    rintro c (rfl | hc)
    · exact first
    · exact more c hc
end

end Signature

/-! ### Below a static node -/

theorem Node.isStatic_of_signature {n : Node} {sig : Signature} (hsig : n.signature? = some sig)
    (static : sig.isStatic = true) : n.isStatic = true := by
  cases n with
  | element => simp_all [Node.signature?, Node.isStatic]
  | fragment => simp_all [Node.signature?, Node.isStatic]
  | text => rfl
  | slot =>
    simp only [Node.signature?, Option.some.injEq] at hsig
    subst hsig
    simp [Signature.isStatic, Signature.slotCount] at static
  | component => cases hsig

theorem Node.signature_of_mem {nodes : List Node} {sigs : List Signature}
    (hsigs : List.Forall₂ (fun n s => n.signature? = some s) nodes sigs) {c : Node}
    (mem : c ∈ nodes) : ∃ s ∈ sigs, c.signature? = some s := by
  induction hsigs with
  | nil => simp at mem
  | cons first _ ih =>
    rcases List.mem_cons.mp mem with rfl | later
    · exact ⟨_, List.mem_cons_self, first⟩
    · obtain ⟨s, hs, found⟩ := ih later
      exact ⟨s, List.mem_cons_of_mem _ hs, found⟩

theorem Node.child_static {p c : Node} (wf : p.wellFormed = true) (static : p.isStatic = true)
    (child : c.ChildOf p) : c.wellFormed = true ∧ c.isStatic = true := by
  cases p with
  | element tag flags cls fields key ref children cf normC collapse normP s =>
    obtain ⟨rfl, -, -, -, -, -, -, wfc, -⟩ := Node.wellFormed_element_iff.mp wf
    simp only [Node.isStatic] at static
    obtain ⟨sig, hsig, hstatic⟩ := (Option.any_eq_true _ _).mp static
    obtain ⟨-, sigs, hsigs, rfl⟩ := elementSignature_eq_some hsig
    obtain ⟨-, -, -, hcount, hnorm⟩ := Signature.isStatic_element_iff.mp hstatic
    obtain ⟨s, mem, hs⟩ := Node.signature_of_mem hsigs child
    exact ⟨wfc c child, Node.isStatic_of_signature hs
      (Signature.allStatic_iff.mp ⟨hcount, hnorm⟩ s mem)⟩
  | fragment key children cf normC collapse s =>
    obtain ⟨rfl, -, -, wfc, -⟩ := Node.wellFormed_fragment_iff.mp wf
    simp only [Node.isStatic] at static
    obtain ⟨sig, hsig, hstatic⟩ := (Option.any_eq_true _ _).mp static
    obtain ⟨sigs, hsigs, rfl⟩ := fragmentSignature_eq_some hsig
    obtain ⟨-, -, hcount, hnorm⟩ := Signature.isStatic_fragment_iff.mp hstatic
    obtain ⟨s, mem, hs⟩ := Node.signature_of_mem hsigs child
    exact ⟨wfc c child, Node.isStatic_of_signature hs
      (Signature.allStatic_iff.mp ⟨hcount, hnorm⟩ s mem)⟩
  | component => simp [Node.isStatic] at static
  | text => simp [Node.ChildOf, Node.children] at child
  | slot => simp [Node.ChildOf, Node.children] at child

theorem Node.descendant_static {v d : Node} (below : Relation.ReflTransGen Node.ChildOf d v)
    (wf : v.wellFormed = true) (static : v.isStatic = true) :
    d.wellFormed = true ∧ d.isStatic = true := by
  induction below using Relation.ReflTransGen.head_induction_on with
  | refl => exact ⟨wf, static⟩
  | head child _ ih =>
    obtain ⟨wf', static'⟩ := ih
    exact Node.child_static wf' static' child

theorem Node.hoistSignature_of_static {n : Node} (hoistable : n.isHoistable = true)
    (static : n.isStatic = true) : ∃ sig, n.hoistSignature? = some sig ∧ sig.isStatic = true := by
  cases n with
  | element => simpa [Node.isStatic, Node.hoistSignature?] using (Option.any_eq_true _ _).mp static
  | fragment => simpa [Node.isStatic, Node.hoistSignature?] using (Option.any_eq_true _ _).mp static
  | _ => simp [Node.isHoistable] at hoistable

namespace Compile

/-- A static skeleton is a closed constant. Every element or fragment at or below a static one
has a static signature, and built in place it gives the code of that signature, from any state,
whether or not a template is being built. That code is a constant: calls of the helpers that
create nodes, on flags, tags and literal values, with no expression, parameter or blueprint in it.
The run cannot fail and changes nothing but the helpers used, adding exactly those the code
calls: no value is bound, no blueprint allocated, no nested markup compiled. -/
theorem static_skeleton_is_constant (scope : Scope) {v : Node} (wf : v.wellFormed = true)
    (static : v.isStatic = true) :
    ∀ d, Relation.ReflTransGen Node.ChildOf d v → d.isHoistable = true →
      ∃ sig, d.hoistSignature? = some sig ∧ sig.isStatic = true ∧ ∀ s : Context,
        (sig.code s.options (fun _ => none) .param).Constant ∧ ∃ used,
          (emitDirect scope .skeleton d).run s =
            .ok (sig.code s.options (fun _ => none) .param) { s with used } ∧
          ∀ h, h ∈ used ↔ h ∈ s.used ∨ Ref.helper h ∈ (sig.code s.options (fun _ => none) .param).refs := by
  intro d below hoistable
  obtain ⟨wfd, staticd⟩ := Node.descendant_static below wf static
  obtain ⟨sig, hsig, hstatic⟩ := Node.hoistSignature_of_static hoistable staticd
  refine ⟨sig, hsig, hstatic, fun s => ⟨Signature.constant_code sig .param hstatic, ?_⟩⟩
  obtain ⟨used, run, recorded, -⟩ :=
    @skeleton_effect scope d sig wfd (Node.signature_of_hoistSignature hsig) hstatic s
  exact ⟨used, run, recorded⟩

theorem static_skeleton_is_constant_paragraph :
    (Node.element "p" 1 none [] none none [.text "static"] (.known 2) false false false
        (some (.element "p" 1 none [] none none (some 2) [.text "static"]))).wellFormed = true ∧
    (Node.element "p" 1 none [] none none [.text "static"] (.known 2) false false false
        (some (.element "p" 1 none [] none none (some 2) [.text "static"]))).isStatic = true ∧
    ∀ d, Relation.ReflTransGen Node.ChildOf d
        (Node.element "p" 1 none [] none none [.text "static"] (.known 2) false false false
          (some (.element "p" 1 none [] none none (some 2) [.text "static"]))) →
      d.isHoistable = true →
      ∃ sig, d.hoistSignature? = some sig ∧ sig.isStatic = true ∧ ∀ s : Context,
        (sig.code s.options (fun _ => none) .param).Constant ∧ ∃ used,
          (emitDirect .function .skeleton d).run s =
            .ok (sig.code s.options (fun _ => none) .param) { s with used } ∧
          ∀ h, h ∈ used ↔ h ∈ s.used ∨ Ref.helper h ∈ (sig.code s.options (fun _ => none) .param).refs :=
  ⟨by decide, by decide, static_skeleton_is_constant .function (by decide) (by decide)⟩

end Compile

end JsxVNode
