import JsxVNode.Proofs.Frame
import JsxVNode.Proofs.Template
/-!
Static skeletons. Inside a skeleton nothing is cached again: a static element or fragment is
emitted in place, reading nothing of the state but the options and only recording the helpers
it calls. Its code is then the code of its signature with every child built in place, so the
skeleton of a static signature is one text at every site and at every point of a compilation.

`Records o x a` says that `x`, run with options `o`, gives `a` from every state and changes
only the helpers used, the same way from every state; it is closed under `bind`.
-/
namespace JsxVNode

/-! ### How children and nested nodes are emitted -/

section Shapes

theorem Compile.childrenArg_eq {children : List Node} {sigs : List Signature}
    (wf : ∀ n ∈ children, n.wellFormed = true)
    (hsigs : List.Forall₂ (fun n s => n.signature? = some s) children sigs) (cf : ChildFlagValue)
    (collapse : Bool) (items : Compile (List Code)) :
    Compile.childrenArg children cf collapse items =
      if children.isEmpty || (collapse && loneText children) then
        pure (Signature.childrenCode sigs cf.known? collapse [])
      else (Signature.childrenCode sigs cf.known? collapse ·) <$> items := by
  have wants : Compile.childrenArg.wantsArray cf = wantsArray cf.known? := by cases cf <;> rfl
  rcases hsigs with _ | ⟨hn, _ | ⟨_, _⟩⟩
  · rfl
  · rename_i n sig
    have wfn := wf n (by simp)
    cases n with
    | text t =>
      cases hn
      cases collapse <;>
        simp [Compile.childrenArg, Signature.childrenCode, loneText, wants, bind_pure_comp]
    | slot v =>
      cases hn
      simp [Compile.childrenArg, Signature.childrenCode, loneText, Node.isSlot, bind_pure_comp]
    | element tag flags cls fields key ref cs cf' normC collapse' normP s =>
      obtain ⟨rfl, -⟩ := Node.wellFormed_element_iff.mp wfn
      obtain ⟨-, _, -, rfl⟩ := elementSignature_eq_some hn
      simp [Compile.childrenArg, Signature.childrenCode, loneText, Node.isSlot, wants,
        bind_pure_comp]
    | fragment key cs cf' normC collapse' s =>
      obtain ⟨rfl, -⟩ := Node.wellFormed_fragment_iff.mp wfn
      obtain ⟨_, -, rfl⟩ := fragmentSignature_eq_some hn
      simp [Compile.childrenArg, Signature.childrenCode, loneText, Node.isSlot, wants,
        bind_pure_comp]
    | component => cases hn
  · simp [Compile.childrenArg, Signature.childrenCode, loneText, bind_pure_comp]

theorem collapses_eq_signature {children : List Node} {sigs : List Signature}
    (hsigs : List.Forall₂ (fun n s => n.signature? = some s) children sigs)
    (wf : ∀ n ∈ children, n.wellFormed = true) (cf : ChildFlagValue) :
    collapses cf children = Signature.collapses cf.known? sigs := by
  rcases hsigs with _ | ⟨hn, _ | ⟨_, _⟩⟩
  · rfl
  · rename_i n sig
    have wfn := wf n (by simp)
    cases n with
    | text t => cases hn; rfl
    | slot v => cases hn; rfl
    | element =>
      obtain ⟨rfl, -⟩ := Node.wellFormed_element_iff.mp wfn
      obtain ⟨-, _, -, rfl⟩ := elementSignature_eq_some hn
      simp [collapses, Signature.collapses, loneText]
    | fragment =>
      obtain ⟨rfl, -⟩ := Node.wellFormed_fragment_iff.mp wfn
      obtain ⟨_, -, rfl⟩ := fragmentSignature_eq_some hn
      simp [collapses, Signature.collapses, loneText]
    | component => cases hn
  · simp [collapses, Signature.collapses, loneText]

theorem childrenCode_unread {children : List Node} {sigs : List Signature}
    (hsigs : List.Forall₂ (fun n s => n.signature? = some s) children sigs) {cf : Option Nat}
    {collapse : Bool} (unread : (children.isEmpty || (collapse && loneText children)) = true)
    (codes codes' : List Code) :
    Signature.childrenCode sigs cf collapse codes = Signature.childrenCode sigs cf collapse codes' := by
  rcases hsigs with _ | ⟨hn, _ | ⟨_, _⟩⟩
  · rfl
  · rename_i n sig
    cases n with
    | text t =>
      cases hn
      simp_all [loneText, Signature.childrenCode]
    | _ => simp [loneText] at unread
  · simp [loneText] at unread

theorem Compile.hoisted_skeleton (scope : Scope) (n : Node) (direct : Nesting → Compile Code) :
    Compile.hoisted scope .skeleton n direct = Compile.options >>= fun _ => direct .skeleton := by
  simp only [Compile.hoisted]
  congr 1
  funext _
  split <;> simp

end Shapes

/-! ### Static signatures -/

namespace Signature

theorem isStatic_element_iff {tag : String} {flags : Nat} {cls key ref : Option Shape}
    {fields : List FieldShape} {cf : Option Nat} {children : List Signature} :
    (Signature.element tag flags cls fields key ref cf children).isStatic = true ↔
      slotsOf [cls, key, ref] = 0 ∧ (fields.filter (·.value.isSlot)).length = 0 ∧
        (∃ m, cf = some m ∧ m ≠ ChildFlags.unknown) ∧ slotCountList children = 0 ∧
          normalizesList children = false := by
  cases cf <;> simp [isStatic, slotCount, normalizes]
  tauto

theorem isStatic_fragment_iff {key : Option Shape} {cf : Option Nat} {children : List Signature} :
    (Signature.fragment key cf children).isStatic = true ↔
      slotsOf [key] = 0 ∧ (∃ m, cf = some m ∧ m ≠ ChildFlags.unknown) ∧
        slotCountList children = 0 ∧ normalizesList children = false := by
  cases cf <;> simp [isStatic, slotCount, normalizes]
  tauto

theorem allStatic_iff {sigs : List Signature} :
    slotCountList sigs = 0 ∧ normalizesList sigs = false ↔ ∀ s ∈ sigs, s.isStatic = true := by
  induction sigs with
  | nil => simp [slotCountList, normalizesList]
  | cons s rest ih =>
    rw [List.forall_mem_cons, ← ih]
    simp only [slotCountList, normalizesList, isStatic, Nat.add_eq_zero_iff, Bool.or_eq_false_iff,
      Bool.and_eq_true, beq_iff_eq, Bool.not_eq_true']
    tauto

end Signature

theorem literal_of_slotsOf {t : Option Term} (h : slotsOf [t.map Term.shape] = 0) :
    ∀ v ∈ t, ∃ l, v = .literal l := by
  rintro (l | pieces) hv
  · exact ⟨l, rfl⟩
  · simp_all [slotsOf, Term.shape, Shape.isSlot]

theorem literal_of_fieldShapes {fields : List Field}
    (h : ((fields.map Field.shape).filter (·.value.isSlot)).length = 0) :
    ∀ f ∈ fields, ∃ l, f.value = .literal l := by
  intro ⟨_, _, v⟩ hf
  cases v with
  | literal l => exact ⟨l, rfl⟩
  | expr _ =>
    simp only [List.length_eq_zero_iff, List.filter_eq_nil_iff, List.mem_map] at h
    exact absurd (h _ ⟨_, hf, rfl⟩) (by simp [Field.shape, Term.shape, Shape.isSlot])

theorem slotsOf_triple_eq_zero {a b c : Option Shape} :
    slotsOf [a, b, c] = 0 ↔ slotsOf [a] = 0 ∧ slotsOf [b] = 0 ∧ slotsOf [c] = 0 := by
  rw [slotsOf_cons, slotsOf_cons]
  omega

/-! ### Runs that only record helpers -/

namespace Compile

/-- `x` gives `a` from every state with options `o`, and changes nothing but the helpers used,
by the same record `U` from every state. -/
def Records (o : Options) {α : Type} (x : Compile α) (a : α) : Prop :=
  ∃ U : List Helper → List Helper, ∀ s : Context, s.options = o →
    x.run s = .ok a { s with used := U s.used }

section Records
variable {o : Options} {α β : Type}

theorem Records.pure {a b : α} (h : a = b) : Records o (pure a : Compile α) b :=
  ⟨id, fun _ _ => h ▸ rfl⟩

theorem Records.bind {x : Compile α} {f : α → Compile β} {a : α} {b : β} (hx : Records o x a)
    (hf : Records o (f a) b) : Records o (x >>= f) b := by
  obtain ⟨U, hU⟩ := hx
  obtain ⟨V, hV⟩ := hf
  refine ⟨V ∘ U, fun s hs => ?_⟩
  rw [EStateM.run_bind, hU s hs]
  exact hV { s with used := U s.used } hs

theorem Records.map {x : Compile α} {a : α} (f : α → β) (hx : Records o x a) :
    Records o (f <$> x) (f a) := by
  rw [map_eq_pure_bind]
  exact hx.bind (Records.pure rfl)

theorem useHelper_records (h : Helper) : Records o (useHelper h) (.helper h) := by
  refine ⟨fun used => if used.contains h then used else used ++ [h], fun s _ => ?_⟩
  rw [run_useHelper]
  by_cases recorded : h ∈ s.used <;> simp [recorded]

theorem options_records : Records o options o :=
  ⟨id, fun s hs => by subst hs; rfl⟩

theorem emitOptional_records (hole : Nat → Code) {t : Option Term} (lit : ∀ v ∈ t, ∃ l, v = .literal l) :
    Records o (emitOptional t) (Shape.optionCode hole (t.map Term.shape)) := by
  rcases t with _ | v
  · exact Records.pure rfl
  · obtain ⟨l, rfl⟩ := lit v rfl
    cases l <;> exact Records.pure rfl

theorem emitFieldEntries_records (hole : Nat → Code) {fields : List Field}
    (lit : ∀ f ∈ fields, ∃ l, f.value = .literal l) :
    Records o (emitFieldEntries fields) (FieldShape.entries hole (fields.map Field.shape)) := by
  induction fields generalizing hole with
  | nil => exact Records.pure rfl
  | cons f rest ih =>
    obtain ⟨name, category, value⟩ := f
    obtain ⟨l, rfl⟩ := lit (.mk name category value) (by simp)
    simp only [emitFieldEntries, emitValue, pure_bind]
    refine (ih (shiftHoles hole 0) fun f hf => lit f (by simp [hf])).bind (Records.pure ?_)
    simp only [List.map_cons, FieldShape.entries, Field.shape, Field.name, Field.category,
      Field.value, Term.shape, Shape.holes, Shape.isSlot, FieldShape.entry, Shape.code]
    rfl

theorem emitChildFlags_records (hole : Nat → Code) (m : Nat) :
    Records o (emitChildFlags (.known m)) (childFlagsCode hole (some m)) :=
  Records.pure rfl

theorem childrenArg_records {children : List Node} {sigs : List Signature}
    (wf : ∀ n ∈ children, n.wellFormed = true)
    (hsigs : List.Forall₂ (fun n s => n.signature? = some s) children sigs) (cf : ChildFlagValue)
    (collapse : Bool) {items : Compile (List Code)} {codes : List Code} (h : Records o items codes) :
    Records o (childrenArg children cf collapse items)
      (Signature.childrenCode sigs cf.known? collapse codes) := by
  rw [childrenArg_eq wf hsigs]
  split
  · exact Records.pure (childrenCode_unread hsigs ‹_› _ _)
  · exact h.map _

end Records

/-! ### The skeleton of a static node -/

variable {o : Options} {scope : Scope}

mutual
theorem skeleton_records : ∀ (n : Node) {sig : Signature} (hole : Nat → Code),
    n.wellFormed = true → n.signature? = some sig → sig.isStatic = true →
      Records o (emitDirect scope .skeleton n) (sig.code o (fun _ => none) hole)
  | .element tag flags cls fields key ref children cf normC collapse normP s, sig, hole, wf, hsig,
      static => by
    obtain ⟨rfl, rfl, rfl, -, -, -, -, wfc, -⟩ := Node.wellFormed_element_iff.mp wf
    obtain ⟨hnormP, sigs, hsigs, rfl⟩ := elementSignature_eq_some hsig
    obtain ⟨hslots, hfields, ⟨m, hm, hmu⟩, hcount, hnorm⟩ := Signature.isStatic_element_iff.mp static
    obtain ⟨hcls, hkey, href⟩ := slotsOf_triple_eq_zero.mp (by simpa using hslots)
    obtain rfl : cf = .known m := by cases cf <;> simp_all [ChildFlagValue.known?]
    have items := skeletons_records children hole wfc hsigs
      (Signature.allStatic_iff.mp ⟨hcount, hnorm⟩)
    simp only [emitDirect, ChildFlagValue.known?, beq_iff_eq, Option.some.injEq, hmu,
      Bool.false_eq_true, if_false, hnormP, wrapIf, pure_bind]
    refine (useHelper_records _).bind ((emitOptional_records hole (literal_of_slotsOf hcls)).bind ?_)
    refine (childrenArg_records wfc hsigs _ _ items).bind ?_
    refine (emitChildFlags_records hole m).bind
      ((emitFieldEntries_records hole (literal_of_fieldShapes hfields)).bind ?_)
    refine (emitOptional_records hole (literal_of_slotsOf hkey)).bind
      ((emitOptional_records hole (literal_of_slotsOf href)).bind (options_records.bind ?_))
    refine Records.pure ?_
    simp [Signature.code, ChildFlagValue.known?, hmu, hcount, hcls, hkey, hfields,
      collapses_eq_signature hsigs wfc]
  | .fragment key children cf normC collapse s, sig, hole, wf, hsig, static => by
    obtain ⟨rfl, rfl, -, wfc, -⟩ := Node.wellFormed_fragment_iff.mp wf
    obtain ⟨sigs, hsigs, rfl⟩ := fragmentSignature_eq_some hsig
    obtain ⟨hkey, ⟨m, hm, hmu⟩, hcount, hnorm⟩ := Signature.isStatic_fragment_iff.mp static
    have items := skeletons_records children hole wfc hsigs
      (Signature.allStatic_iff.mp ⟨hcount, hnorm⟩)
    simp only [emitDirect]
    refine (useHelper_records _).bind ((childrenArg_records wfc hsigs _ _ items).bind ?_)
    simp only [childrenCode_isNone]
    by_cases empty : sigs = []
    · subst empty
      obtain rfl := List.forall₂_nil_right_iff.mp hsigs
      simp only [List.isEmpty_nil, if_true, pure_bind]
      refine (emitOptional_records hole (literal_of_slotsOf hkey)).bind (options_records.bind ?_)
      exact Records.pure (by simp [Signature.code, Signature.childrenCode, Signature.slotCountList])
    · obtain rfl : cf = .known m := by
        cases cf <;> simp_all [ChildFlagValue.known?, List.isEmpty_iff]
      simp only [List.isEmpty_iff, empty, if_false]
      refine (emitChildFlags_records hole m).bind
        ((emitOptional_records hole (literal_of_slotsOf hkey)).bind (options_records.bind ?_))
      refine Records.pure ?_
      simp [Signature.code, ChildFlagValue.known?, hcount, collapses_eq_signature hsigs wfc, List.isEmpty_iff,
        empty, childrenCode_isNone]
  | .text value, sig, hole, _, hsig, _ => by
    cases hsig
    simp only [emitDirect]
    exact (useHelper_records _).bind (Records.pure rfl)
  | .slot _, sig, _, _, hsig, static => by
    cases hsig
    simp [Signature.isStatic, Signature.slotCount] at static
  | .component .., _, _, _, hsig, _ => by cases hsig

theorem skeletons_records : ∀ (ns : List Node) {sigs : List Signature} (hole : Nat → Code),
    (∀ n ∈ ns, n.wellFormed = true) → List.Forall₂ (fun n s => n.signature? = some s) ns sigs →
      (∀ s ∈ sigs, s.isStatic = true) →
        Records o (emitNodes scope .skeleton ns) (Signature.codeList o (fun _ => none) hole sigs)
  | [], [], _, _, .nil, _ => Records.pure rfl
  | n :: rest, sig :: sigs, hole, wf, .cons hn hrest, static => by
    have first := skeleton_records n hole (wf n (by simp)) hn (static sig (by simp))
    have more := skeletons_records rest (shiftHoles hole sig.slotCount)
      (fun m hm => wf m (by simp [hm])) hrest fun s hs => static s (by simp [hs])
    simp only [emitNodes, hoisted_skeleton, bind_assoc]
    refine options_records.bind (first.bind (more.bind (Records.pure ?_)))
    simp [Signature.codeList]
end

end Compile

end JsxVNode
