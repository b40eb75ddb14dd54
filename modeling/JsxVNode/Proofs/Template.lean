import JsxVNode.Proofs.Substitution
import JsxVNode.Proofs.WellFormed
import Mathlib.Data.List.Forall2
/-!
The code a signature stands for. A signature keeps every part of an element or fragment that the
emitted code depends on, except the run-time values, which it marks as placeholders; so the code
of a subtree is a function of its signature once each placeholder is given code (`hole i` for
the `i`-th placeholder, in the order the code evaluates them) and each static child is given the
code of its site (`site`, which gives none where a child is built in place).

Two instances matter: a skeleton, where every child is built in place and there are no holes, and
a template body, where static children are read from their slots and the holes are the
parameters `v0, v1, …`. The main facts are that a body's parameters are `v0 … v(k-1)` in order,
each once, with `k` the signature's slot count, and that filling them is the same as building the
signature with the values in place.
-/
namespace JsxVNode

def shiftHoles (hole : Nat → Code) (k : Nat) : Nat → Code := fun i => hole (k + i)

namespace Shape

def code (hole : Nat → Code) : Shape → Code
  | .literal l => .text l.render
  | .slot => hole 0

def holes (s : Shape) : Nat := if s.isSlot then 1 else 0

def optionCode (hole : Nat → Code) : Option Shape → Option Code
  | some (.literal .null) | some (.literal .undefined) | none => none
  | some s => some (s.code hole)

end Shape

def FieldShape.entry (hole : Nat → Code) (f : FieldShape) : Code :=
  if f.category == .spread then .spread (f.value.code hole)
  else .entry (Text.quote f.name) (f.value.code hole)

def FieldShape.entries (hole : Nat → Code) : List FieldShape → List Code
  | [] => []
  | f :: rest => f.entry hole :: entries (shiftHoles hole f.value.holes) rest

def childFlagsCode (hole : Nat → Code) : Option Nat → Option Code
  | some n => if n == ChildFlags.none then none else some (.text (toString n))
  | none => some (hole 0)

def wantsArray : Option Nat → Bool
  | some f => f &&& ChildFlags.multiple != 0
  | none => false

namespace Signature

def isHoistable : Signature → Bool
  | .element .. | .fragment .. => true
  | .text _ | .slot => false

def isText : Signature → Bool
  | .text _ => true
  | _ => false

def childrenCode (children : List Signature) (cf : Option Nat) (collapse : Bool)
    (codes : List Code) : Option Code :=
  match children with
  | [] => none
  | [.text t] =>
    if collapse then some (.text (Text.quote t))
    else some (if wantsArray cf then .array codes else Code.sole codes)
  | [c] => some (if c == .slot || !wantsArray cf then Code.sole codes else .array codes)
  | _ => some (.array codes)

def collapses (cf : Option Nat) (children : List Signature) : Bool :=
  cf == some ChildFlags.text && match children with | [.text _] => true | _ => false

mutual
def code (o : Options) (site : Signature → Option Code) (hole : Nat → Code) : Signature → Code
  | .element tag flags cls fields key ref cf children =>
    let head := [some (Code.text (toString flags)), some (Code.text (Text.quote tag)),
      Shape.optionCode hole cls]
    let h₁ := shiftHoles hole (slotsOf [cls])
    if cf == some ChildFlags.unknown then
      let h₂ := shiftHoles h₁ (fields.filter (·.value.isSlot)).length
      let h₃ := shiftHoles h₂ (slotsOf [key])
      let h₄ := shiftHoles h₃ (slotsOf [ref])
      let items := codeList o site h₄ children
      .call (.helper .normalizeChildren)
        [finishCall (.helper .createVNode) (head ++ [none, none,
            Compile.propsObject (FieldShape.entries h₁ fields) [], Shape.optionCode h₂ key,
            Shape.optionCode h₃ ref]) elementDefaults o.defineAllArguments,
          if children.length == 1 then Code.sole items else .array items]
    else
      let h₂ := shiftHoles h₁ (slotCountList children)
      let h₃ := shiftHoles h₂ (if cf.isNone then 1 else 0)
      let h₄ := shiftHoles h₃ (fields.filter (·.value.isSlot)).length
      let h₅ := shiftHoles h₄ (slotsOf [key])
      finishCall (.helper .createVNode) (head ++ [
          childrenCode children cf (collapses cf children) (codeList o site h₁ children),
          childFlagsCode h₂ cf, Compile.propsObject (FieldShape.entries h₃ fields) [],
          Shape.optionCode h₄ key, Shape.optionCode h₅ ref]) elementDefaults o.defineAllArguments
  | .fragment key cf children =>
    let chArg := childrenCode children cf (collapses cf children) (codeList o site hole children)
    let h₁ := shiftHoles hole (slotCountList children)
    let h₂ := shiftHoles h₁ (if cf.isNone then 1 else 0)
    finishCall (.helper .createFragment)
      [chArg, if chArg.isNone then none else childFlagsCode h₁ cf, Shape.optionCode h₂ key]
      fragmentDefaults o.defineAllArguments
  | .text value => .call (.helper .createTextVNode) [.text (Text.quote value)]
  | .slot => hole 0

/-- The code of children, the holes of each after those of the children before; a static
element or fragment is given by its site when it has one. -/
def codeList (o : Options) (site : Signature → Option Code) (hole : Nat → Code) :
    List Signature → List Code
  | [] => []
  | c :: rest =>
    (if c.isHoistable && c.isStatic then (site c).getD (code o site hole c)
      else code o site hole c) :: codeList o site (shiftHoles hole (slotCount c)) rest
end

end Signature

/-! ### Calls -/

def optionParams (c : Option Code) : List Nat := (c.map Code.params).getD []

@[simp] theorem optionParams_none : optionParams none = [] := rfl

@[simp] theorem optionParams_some (c : Code) : optionParams (some c) = c.params := rfl

theorem lt_writtenCount {α : Type} {args : List (Option α)} {i : Nat} {b : α}
    (h : args[i]? = some (some b)) (defineAll : Bool) : i < writtenCount args defineAll := by
  cases defineAll with
  | true => simpa [writtenCount] using (List.getElem?_eq_some_iff.mp h).1
  | false =>
    have written : i + 1 ∈ args.zipIdx.filterMap fun p => p.1.map fun _ => p.2 + 1 := by
      simp only [List.mem_filterMap, Option.map_eq_some_iff]
      exact ⟨(some b, i), List.mem_zipIdx_iff_getElem?.mpr (by simpa using h), b, rfl, rfl⟩
    simp only [writtenCount, Bool.false_eq_true, if_false, List.foldl_max]
    exact Nat.lt_of_succ_le (Nat.le_trans (List.le_max?_getD_of_mem written) (Nat.le_max_right _ _))

theorem drop_writtenCount {α : Type} (args : List (Option α)) (defineAll : Bool) :
    ∀ a ∈ args.drop (writtenCount args defineAll), a = none := by
  intro a ha
  obtain ⟨j, hj⟩ := List.getElem?_of_mem ha
  rw [List.getElem?_drop] at hj
  cases a with
  | none => rfl
  | some b => exact absurd (lt_writtenCount hj defineAll) (by omega)

theorem writtenCount_map {α β : Type} (f : α → β) (args : List (Option α)) (defineAll : Bool) :
    writtenCount (args.map (Option.map f)) defineAll = writtenCount args defineAll := by
  cases defineAll <;> simp [writtenCount, List.zipIdx_map, List.filterMap_map, Function.comp_def]

theorem flatMap_finishCall {β : Type} (f : Code → List β) (text : ∀ s, f (.text s) = [])
    (call : ∀ callee args, f (.call callee args) = f callee ++ args.flatMap f) (callee : Code)
    (args : List (Option Code)) (defaults : List String) (defineAll : Bool) :
    f (finishCall callee args defaults defineAll) =
      f callee ++ args.flatMap fun a => (a.map f).getD [] := by
  have absent := drop_writtenCount args defineAll
  have rest : (args.drop (writtenCount args defineAll)).flatMap (fun a => (a.map f).getD []) = [] := by
    simp only [List.flatMap_eq_nil_iff]
    intro a ha
    simp [absent a ha]
  conv => rhs; rw [← List.take_append_drop (writtenCount args defineAll) args]
  rw [List.flatMap_append, rest, List.append_nil, finishCall, call, List.flatMap_map]
  have plain : ∀ (a : Option Code) (i : Nat),
      f (a.getD (.text (defaults.getD i ""))) = (a.map f).getD [] := by
    intro a i
    cases a with
    | none => exact text _
    | some c => rfl
  simp only [plain]
  conv => rhs; rw [← List.zipIdx_map_fst 0 (List.take _ args), List.flatMap_map]

theorem params_finishCall (callee : Code) (args : List (Option Code)) (defaults : List String)
    (defineAll : Bool) : (finishCall callee args defaults defineAll).params =
      callee.params ++ args.flatMap optionParams :=
  flatMap_finishCall Code.params (fun _ => rfl) (fun callee args => Code.params_call args callee) callee
    args defaults defineAll

theorem finishCall_subst (σ : Nat → Code) (callee : Code) (args : List (Option Code))
    (defaults : List String) (defineAll : Bool) :
    (finishCall callee args defaults defineAll).subst σ =
      finishCall (callee.subst σ) (args.map (Option.map (Code.subst σ))) defaults defineAll := by
  simp only [finishCall, Code.subst, Code.substList_eq_map, writtenCount_map, List.map_map]
  congr 1
  rw [← List.map_take, List.zipIdx_map, List.map_map]
  apply List.map_congr_left
  intro ⟨a, i⟩ _
  cases a <;> rfl

/-! ### Signatures that classifying builds -/

mutual
def Signature.wellFormed : Signature → Bool
  | .element _ _ _ _ _ _ _ children => Signature.allWellFormed children
  | .fragment _ cf children => (!children.isEmpty || cf.isSome) && Signature.allWellFormed children
  | .text _ | .slot => true

def Signature.allWellFormed : List Signature → Bool
  | [] => true
  | s :: rest => Signature.wellFormed s && Signature.allWellFormed rest
end

theorem mapM_signature_eq_some {nodes : List Node} {sigs : List Signature}
    (h : nodes.mapM Node.signature? = some sigs) :
    List.Forall₂ (fun n s => n.signature? = some s) nodes sigs := by
  induction nodes generalizing sigs with
  | nil => cases h; exact .nil
  | cons n rest ih =>
    simp only [List.mapM_cons, Option.bind_eq_bind, Option.bind_eq_some_iff] at h
    obtain ⟨s, hs, more, hmore, h⟩ := h
    cases h
    exact .cons hs (ih hmore)

theorem elementSignature_eq_some {tag : String} {flags : Nat} {cls key ref : Option Term}
    {fields : List Field} {children : List Node} {cf : ChildFlagValue} {normP : Bool}
    {sig : Signature} (h : elementSignature tag flags cls fields key ref children cf normP = some sig) :
    normP = false ∧ ∃ sigs, List.Forall₂ (fun n s => n.signature? = some s) children sigs ∧
      sig = .element tag flags (cls.map Term.shape) (fields.map Field.shape) (key.map Term.shape)
        (ref.map Term.shape) cf.known? sigs := by
  simp only [elementSignature] at h
  split at h
  · cases h
  · rename_i plain
    obtain ⟨sigs, hsigs, rfl⟩ := Option.map_eq_some_iff.mp h
    exact ⟨Bool.eq_false_iff.mpr plain, sigs, mapM_signature_eq_some hsigs, rfl⟩

theorem fragmentSignature_eq_some {key : Option Term} {children : List Node} {cf : ChildFlagValue}
    {sig : Signature} (h : fragmentSignature key children cf = some sig) :
    ∃ sigs, List.Forall₂ (fun n s => n.signature? = some s) children sigs ∧
      sig = .fragment (key.map Term.shape)
        (if sigs.isEmpty then some ChildFlags.none else cf.known?) sigs := by
  obtain ⟨sigs, hsigs, rfl⟩ := Option.map_eq_some_iff.mp h
  exact ⟨sigs, mapM_signature_eq_some hsigs, rfl⟩

mutual
theorem Node.signature_wellFormed : ∀ {n : Node} {sig : Signature}, n.wellFormed = true →
    n.signature? = some sig → sig.wellFormed = true
  | .element .., _, wf, h => by
    obtain ⟨rfl, -, -, -, -, -, -, children, -⟩ := Node.wellFormed_element_iff.mp wf
    obtain ⟨-, sigs, hsigs, rfl⟩ := elementSignature_eq_some h
    simpa [Signature.wellFormed] using Node.signatures_wellFormed children hsigs
  | .fragment .., _, wf, h => by
    obtain ⟨rfl, -, -, children, -⟩ := Node.wellFormed_fragment_iff.mp wf
    obtain ⟨sigs, hsigs, rfl⟩ := fragmentSignature_eq_some h
    have := Node.signatures_wellFormed children hsigs
    cases sigs <;> simp_all [Signature.wellFormed]
  | .text _, _, _, h | .slot _, _, _, h => by
    simp only [Node.signature?, Option.some.injEq] at h
    subst h
    rfl
  | .component .., _, _, h => by cases h

theorem Node.signatures_wellFormed : ∀ {nodes : List Node} {sigs : List Signature},
    (∀ n ∈ nodes, n.wellFormed = true) → List.Forall₂ (fun n s => n.signature? = some s) nodes sigs →
    Signature.allWellFormed sigs = true
  | [], [], _, .nil => rfl
  | _ :: _, _ :: _, wf, .cons h rest => by
    simp only [Signature.allWellFormed, Bool.and_eq_true]
    exact ⟨Node.signature_wellFormed (wf _ (by simp)) h,
      Node.signatures_wellFormed (fun n hn => wf n (by simp [hn])) rest⟩
end

/-! ### The parameters of a body -/

section Parameters
open Code

@[simp] theorem shiftHoles_zero (hole : Nat → Code) : shiftHoles hole 0 = hole := by
  funext i
  simp [shiftHoles]

@[simp] theorem shiftHoles_shiftHoles (hole : Nat → Code) (k m : Nat) :
    shiftHoles (shiftHoles hole k) m = shiftHoles hole (k + m) := by
  funext i
  simp [shiftHoles, Nat.add_assoc]

theorem params_shapeCode (k : Nat) (s : Shape) :
    (s.code (shiftHoles .param k)).params = List.range' k s.holes := by
  cases s <;> rfl

theorem params_optionCode (k : Nat) (o : Option Shape) :
    optionParams (Shape.optionCode (shiftHoles .param k) o) = List.range' k (slotsOf [o]) := by
  rcases o with _ | ⟨l | _⟩
  · rfl
  · cases l <;> rfl
  · rfl

theorem params_entries (k : Nat) (fields : List FieldShape) :
    (FieldShape.entries (shiftHoles .param k) fields).flatMap params =
      List.range' k (fields.filter (·.value.isSlot)).length := by
  induction fields generalizing k with
  | nil => rfl
  | cons f rest ih =>
    have entry : (f.entry (shiftHoles .param k)).params = List.range' k f.value.holes := by
      unfold FieldShape.entry
      split <;> simp [← params_shapeCode]
    rcases f with ⟨name, category, _ | _⟩ <;>
      simp_all [FieldShape.entries, Shape.holes, Shape.isSlot, List.range'_succ]

theorem params_childFlagsCode (k : Nat) (cf : Option Nat) :
    optionParams (childFlagsCode (shiftHoles .param k) cf) =
      List.range' k (if cf.isNone then 1 else 0) := by
  rcases cf with _ | n
  · rfl
  · simp only [childFlagsCode]
    split <;> rfl

theorem params_propsObject (entries : List Code) :
    optionParams (Compile.propsObject entries []) = entries.flatMap params := by
  unfold Compile.propsObject
  split
  · simp_all
  · simp

theorem params_sole (codes : List Code) : (Code.sole codes).params = codes.flatMap params := by
  unfold Code.sole
  split <;> simp

theorem range'_append_of_eq {s m t n : Nat} (h : t = s + m) :
    List.range' s m ++ List.range' t n = List.range' s (m + n) := by
  rw [h, List.range'_append_1]

theorem params_childrenCode (children : List Signature) (cf : Option Nat) (collapse : Bool)
    (codes : List Code) (none : children = [] → codes = [])
    (text : ∀ t, children = [.text t] → codes.flatMap params = []) :
    optionParams (Signature.childrenCode children cf collapse codes) = codes.flatMap params := by
  unfold Signature.childrenCode
  split
  · simp [none rfl]
  · split
    · simp [text _ rfl]
    · split <;> simp [params_sole]
  · split <;> simp [params_sole]
  · simp

theorem childrenCode_isNone (children : List Signature) (cf : Option Nat) (collapse : Bool)
    (codes : List Code) :
    (Signature.childrenCode children cf collapse codes).isNone = children.isEmpty := by
  unfold Signature.childrenCode
  split
  · rfl
  · split <;> rfl
  · rfl
  · cases children <;> simp_all

theorem slotsOf_cons (s t : Option Shape) (rest : List (Option Shape)) :
    slotsOf (s :: t :: rest) = slotsOf [s] + slotsOf (t :: rest) := by
  cases h : s.any Shape.isSlot <;> simp [slotsOf, h, Nat.add_comm]

theorem slotCount_eq_zero_of_isStatic {sig : Signature} (h : sig.isStatic = true) :
    sig.slotCount = 0 := by
  simp_all [Signature.isStatic]

def SitesPlain (site : Signature → Option Code) : Prop :=
  ∀ c x, c.isStatic = true → site c = some x → x.params = []

variable {o : Options} {site : Signature → Option Code}

mutual
theorem params_code (plain : SitesPlain site) : ∀ (sig : Signature) (k : Nat),
    sig.wellFormed = true → (sig.code o site (shiftHoles .param k)).params = List.range' k sig.slotCount
  | .element tag flags cls fields key ref cf children, k, wf => by
    have hchildren := params_codeList plain children
    simp only [Signature.wellFormed] at wf
    simp only [Signature.code]
    split
    · rename_i normalised
      have unknown : cf = some ChildFlags.unknown := by simpa using normalised
      simp only [params_call, params_helper, params_finishCall, List.flatMap_cons,
        List.flatMap_nil, List.append_nil, List.flatMap_append, optionParams_some, params_text,
        optionParams_none, List.nil_append, shiftHoles_shiftHoles, params_optionCode,
        params_propsObject, params_entries, apply_ite, params_sole, params_array, hchildren _ wf,
        ite_self, List.range'_append_1]
      rw [range'_append_of_eq (by omega)]
      congr 1
      simp only [Signature.slotCount, slotsOf_cons, unknown, Option.isNone_some, Bool.false_eq_true,
        if_false]
      omega
    · simp only [params_finishCall, List.flatMap_cons, List.flatMap_nil, List.append_nil,
        List.flatMap_append, optionParams_some, params_text, List.nil_append, params_helper,
        shiftHoles_shiftHoles, params_optionCode, params_propsObject, params_entries,
        params_childFlagsCode, List.range'_append_1]
      rw [params_childrenCode _ _ _ _ (by rintro rfl; rfl) (by rintro t rfl; rfl), hchildren _ wf]
      simp only [List.range'_append_1]
      congr 1
      simp only [Signature.slotCount, slotsOf_cons]
      omega
  | .fragment key cf children, k, wf => by
    simp only [Signature.wellFormed, Bool.and_eq_true, Bool.or_eq_true, Bool.not_eq_true',
      List.isEmpty_eq_false_iff] at wf
    have hchildren := params_codeList plain children k wf.2
    simp only [Signature.code, params_finishCall, List.flatMap_cons, List.flatMap_nil,
      List.append_nil, params_helper, List.nil_append, shiftHoles_shiftHoles, params_optionCode]
    rw [params_childrenCode _ _ _ _ (by rintro rfl; rfl) (by rintro t rfl; rfl), hchildren]
    simp only [childrenCode_isNone]
    cases children with
    | nil =>
      obtain ⟨n, rfl⟩ := Option.isSome_iff_exists.mp (wf.1.resolve_left (by simp))
      simp [Signature.slotCount, Signature.slotCountList, slotsOf]
    | cons c rest =>
      simp only [List.isEmpty_cons, Bool.false_eq_true, if_false, params_childFlagsCode,
        List.range'_append_1]
      congr 1
      simp only [Signature.slotCount]
      omega
  | .text _, k, _ => rfl
  | .slot, k, _ => rfl

theorem params_codeList (plain : SitesPlain site) : ∀ (sigs : List Signature) (k : Nat),
    Signature.allWellFormed sigs = true →
      (Signature.codeList o site (shiftHoles .param k) sigs).flatMap params =
        List.range' k (Signature.slotCountList sigs)
  | [], _, _ => rfl
  | c :: rest, k, wf => by
    simp only [Signature.allWellFormed, Bool.and_eq_true] at wf
    have first : (if c.isHoistable && c.isStatic then (site c).getD (c.code o site (shiftHoles .param k))
        else c.code o site (shiftHoles .param k)).params = List.range' k c.slotCount := by
      split
      · rename_i hs
        have zero := slotCount_eq_zero_of_isStatic (Bool.and_eq_true _ _ ▸ hs).2
        cases hx : site c with
        | none => simpa using params_code plain c k wf.1
        | some x => simp [plain c x (Bool.and_eq_true _ _ ▸ hs).2 hx, zero]
      · exact params_code plain c k wf.1
    simp only [Signature.codeList, List.flatMap_cons, first, shiftHoles_shiftHoles,
      params_codeList plain rest (k + c.slotCount) wf.2, List.range'_append_1,
      Signature.slotCountList]
end

end Parameters

/-! ### Filling a body -/

section Filling
open Code
variable (σ : Nat → Code)

def substHoles (hole : Nat → Code) : Nat → Code := fun i => (hole i).subst σ

@[simp] theorem substHoles_shiftHoles (hole : Nat → Code) (k : Nat) :
    substHoles σ (shiftHoles hole k) = shiftHoles (substHoles σ hole) k := rfl

theorem shapeCode_subst (hole : Nat → Code) (s : Shape) :
    (s.code hole).subst σ = s.code (substHoles σ hole) := by
  cases s <;> rfl

theorem optionCode_subst (hole : Nat → Code) (o : Option Shape) :
    (Shape.optionCode hole o).map (subst σ) = Shape.optionCode (substHoles σ hole) o := by
  rcases o with _ | ⟨l | _⟩
  · rfl
  · cases l <;> rfl
  · rfl

theorem entries_subst (hole : Nat → Code) (fields : List FieldShape) :
    (FieldShape.entries hole fields).map (subst σ) =
      FieldShape.entries (substHoles σ hole) fields := by
  induction fields generalizing hole with
  | nil => rfl
  | cons f rest ih =>
    simp only [FieldShape.entries, List.map_cons, ih]
    refine congrArg (· :: _) ?_
    unfold FieldShape.entry
    split <;> simp [subst, shapeCode_subst]

theorem childFlagsCode_subst (hole : Nat → Code) (cf : Option Nat) :
    (childFlagsCode hole cf).map (subst σ) = childFlagsCode (substHoles σ hole) cf := by
  rcases cf with _ | n
  · rfl
  · simp only [childFlagsCode]
    split <;> rfl

theorem propsObject_subst (entries : List Code) :
    (Compile.propsObject entries []).map (subst σ) = Compile.propsObject (entries.map (subst σ)) [] := by
  unfold Compile.propsObject
  split <;> simp_all [subst]

theorem sole_subst (codes : List Code) : (Code.sole codes).subst σ = Code.sole (codes.map (subst σ)) := by
  unfold Code.sole
  split
  · rfl
  · rename_i notOne
    cases codes with
    | nil => rfl
    | cons c rest =>
      cases rest with
      | nil => exact absurd rfl (notOne c)
      | cons d more => simp [subst]

theorem childrenCode_subst (children : List Signature) (cf : Option Nat) (collapse : Bool)
    (codes : List Code) :
    (Signature.childrenCode children cf collapse codes).map (subst σ) =
      Signature.childrenCode children cf collapse (codes.map (subst σ)) := by
  unfold Signature.childrenCode
  split
  · rfl
  · split
    · rfl
    · split <;> simp [subst, sole_subst]
  · split <;> simp [subst, sole_subst]
  · simp [subst]

variable {o : Options} {site : Signature → Option Code}

mutual
/-- Substituting in the code of a signature is substituting in its holes: the sites and the
rest of the code have no parameters. -/
theorem code_subst (plain : SitesPlain site) : ∀ (sig : Signature) (hole : Nat → Code),
    (sig.code o site hole).subst σ = sig.code o site (substHoles σ hole)
  | .element tag flags cls fields key ref cf children, hole => by
    have hchildren := codeList_subst plain children
    simp only [Signature.code]
    split
    · simp [subst, finishCall_subst, optionCode_subst, propsObject_subst, entries_subst, apply_ite,
        sole_subst, hchildren]
    · simp [subst, finishCall_subst, optionCode_subst, propsObject_subst, entries_subst,
        childFlagsCode_subst, childrenCode_subst, hchildren]
  | .fragment key cf children, hole => by
    simp only [Signature.code, childrenCode_isNone]
    simp [subst, finishCall_subst, optionCode_subst, childFlagsCode_subst,
      childrenCode_subst, codeList_subst plain children, apply_ite]
  | .text _, _ => rfl
  | .slot, _ => rfl

theorem codeList_subst (plain : SitesPlain site) : ∀ (sigs : List Signature) (hole : Nat → Code),
    (Signature.codeList o site hole sigs).map (subst σ) =
      Signature.codeList o site (substHoles σ hole) sigs
  | [], _ => rfl
  | c :: rest, hole => by
    simp only [Signature.codeList, List.map_cons, codeList_subst plain rest, substHoles_shiftHoles]
    refine congrArg (· :: _) ?_
    split
    · rename_i hs
      cases hx : site c with
      | none => simpa using code_subst plain c hole
      | some x => simpa using subst_of_params_eq_nil (plain c x (Bool.and_eq_true _ _ ▸ hs).2 hx)
    · exact code_subst plain c hole
end

theorem fill_code (plain : SitesPlain site) (sig : Signature) (args : List Code) :
    (sig.code o site .param).fill args = sig.code o site (fun i => args.getD i (.param i)) := by
  rw [fill, code_subst _ plain]
  congr 1

theorem params_body (plain : SitesPlain site) {sig : Signature} (wf : sig.wellFormed = true) :
    (sig.code o site .param).params = List.range sig.slotCount := by
  simpa [List.range_eq_range'] using params_code plain sig 0 wf

end Filling

end JsxVNode
