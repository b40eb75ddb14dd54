import JsxVNode.Proofs.Skeleton
/-!
Template bodies. While a template is built, each run-time value of a subtree is recorded as the
next argument and replaced by the parameter that stands for it; inline, with no template being
built, the same emission writes the value itself. Otherwise the two runs do the same thing: they
reach the same state, and each gives the code of the subtree's signature, with the parameters as
its holes in one and the values in the other. Static children are read from their slots, so the
code is the one the table of blueprints gives, and stays so as the table grows.

`Collects o n F G x y` relates a run of `x` that builds a template to a run of `y` that does not:
`x` records `n` values, `F` gives its code from the holes and the table, and `G` that of `y`. It
is closed under `bind`, so an emission function is handled one statement of its `do` block at a
time.
-/
namespace JsxVNode

def Blueprint.sites (bs : List Blueprint) (sig : Signature) : Option Code :=
  (bs.find? (·.signature = sig)).map fun b => .cached b.id b.skeleton

theorem Blueprint.sites_of_lookup {s : Context} {sig : Signature} {b : Blueprint}
    (found : s.lookup sig = some b) {bs : List Blueprint} (grown : s.blueprints <+: bs) :
    Blueprint.sites bs sig = some (.cached b.id b.skeleton) := by
  obtain ⟨more, rfl⟩ := grown
  simp only [Context.lookup] at found
  simp [Blueprint.sites, List.find?_append, found]

@[simp] theorem Context.lookup_with_used (s : Context) (used : List Helper) (sig : Signature) :
    ({ s with used } : Context).lookup sig = s.lookup sig := rfl

@[simp] theorem Context.lookup_with_params (s : Context) (params : Option (List Code))
    (sig : Signature) : ({ s with params } : Context).lookup sig = s.lookup sig := rfl

theorem getD_append_length_add {l₁ l₂ : List Code} {i : Nat} (h : i < l₂.length) (d d' : Code) :
    (l₁ ++ l₂).getD (l₁.length + i) d = l₂.getD i d' := by
  simp [List.getD_eq_getElem?_getD, List.getElem?_append_right, List.getElem?_eq_getElem h]

theorem getD_append_of_lt {l₁ l₂ : List Code} {i : Nat} (h : i < l₁.length) (d : Code) :
    (l₁ ++ l₂).getD i d = l₁.getD i d := by
  simp [List.getD_eq_getElem?_getD, List.getElem?_append_left h]

namespace Compile

/-- What a run of `x` from `s` to `t`, building a template with arguments `ps`, collected: the
values `vals`, one per hole of its code `a`; and what `y` does from `s` with no template built. -/
structure Collected (o : Options) (n : Nat) {α : Type} (F G : (Nat → Code) → List Blueprint → α)
    (y : Compile α) (s : Context) (ps : List Code) (a : α) (t : Context) (vals : List Code) :
    Prop where
  length : vals.length = n
  params : t.params = some (ps ++ vals)
  options : t.options = o
  earlier : s.blueprints <+: t.blueprints
  code : ∀ bs, t.blueprints <+: bs → a = F (shiftHoles .param ps.length) bs
  inline : ∃ b, y.run { s with params := none } = .ok b { t with params := none } ∧
    ∀ hole bs, (∀ i < n, hole i = vals.getD i (.param i)) → t.blueprints <+: bs → b = G hole bs

/-- Every successful run of `x` that builds a template collects `n` values, and `y` gives the same
code with the values in place. -/
def Collects (o : Options) (n : Nat) {α : Type} (F G : (Nat → Code) → List Blueprint → α)
    (x y : Compile α) : Prop :=
  ∀ s ps a t, s.options = o → s.params = some ps → x.run s = .ok a t →
    ∃ vals, Collected o n F G y s ps a t vals

section Collects
variable {o : Options} {α β : Type}

theorem Collects.pure (a b : α) :
    Collects o 0 (fun _ _ => a) (fun _ _ => b) (Pure.pure a) (Pure.pure b) := by
  intro s ps a' t ho hp run
  cases run
  exact ⟨[], rfl, by simp [hp], ho, List.prefix_refl _, fun _ _ => rfl, b, rfl, fun _ _ _ _ => rfl⟩

theorem Collects.of_eq {n n' : Nat} {F F' : (Nat → Code) → List Blueprint → α} {x y : Compile α}
    (h : Collects o n F F x y) (count : n = n') (code : ∀ hole bs, F hole bs = F' hole bs) :
    Collects o n' F' F' x y := by
  subst count
  intro s ps a t ho hp run
  obtain ⟨vals, c⟩ := h s ps a t ho hp run
  obtain ⟨b, yrun, inline⟩ := c.inline
  exact ⟨vals, c.length, c.params, c.options, c.earlier, fun bs hbs => (c.code bs hbs).trans (code _ _),
    b, yrun, fun hole bs agree hbs => (inline hole bs agree hbs).trans (code _ _)⟩

theorem Collects.of_records {x : Compile α} {a : α} (hx : Records o x a) :
    Collects o 0 (fun _ _ => a) (fun _ _ => a) x x := by
  obtain ⟨U, hU⟩ := hx
  intro s ps a' t ho hp run
  rw [hU s ho] at run
  cases run
  refine ⟨[], rfl, by simp [hp], ho, List.prefix_refl _, fun _ _ => rfl, a, ?_, fun _ _ _ _ => rfl⟩
  exact hU _ ho

theorem Collects.bind {n m : Nat} {x y : Compile α} {f g : α → Compile β}
    {F G : (Nat → Code) → List Blueprint → α} {P Q : α → (Nat → Code) → List Blueprint → β}
    (hxy : Collects o n F G x y)
    (hfg : ∀ a b, (∃ hole bs, a = F hole bs) → (∃ hole bs, b = G hole bs) →
      Collects o m (P a) (Q b) (f a) (g b)) :
    Collects o (n + m) (fun hole bs => P (F hole bs) (shiftHoles hole n) bs)
      (fun hole bs => Q (G hole bs) (shiftHoles hole n) bs) (x >>= f) (y >>= g) := by
  intro s ps c t ho hp run
  obtain ⟨a, t₁, hx, run⟩ := run_bind_eq_ok run
  obtain ⟨v₁, first⟩ := hxy s ps a t₁ ho hp hx
  obtain ⟨b, yrun, inline₁⟩ := first.inline
  have known : ∃ hole bs, a = F hole bs := ⟨_, _, first.code _ (List.prefix_refl _)⟩
  have known' : ∃ hole bs, b = G hole bs :=
    ⟨_, _, inline₁ (fun i => v₁.getD i (.param i)) _ (fun _ _ => rfl) (List.prefix_refl _)⟩
  obtain ⟨v₂, second⟩ := hfg a b known known' t₁ (ps ++ v₁) c t first.options first.params run
  obtain ⟨c', grun, inline₂⟩ := second.inline
  refine ⟨v₁ ++ v₂, by simp [first.length, second.length], by simp [second.params],
    second.options, first.earlier.trans second.earlier, ?_, c', ?_, ?_⟩
  · intro bs hbs
    rw [second.code bs hbs, first.code bs (second.earlier.trans hbs), List.length_append,
      first.length, shiftHoles_shiftHoles]
  · rw [EStateM.run_bind, yrun]
    exact grun
  · intro hole bs agree hbs
    have agree₁ : ∀ i < n, hole i = v₁.getD i (.param i) := fun i hi => by
      rw [agree i (by omega), getD_append_of_lt (first.length ▸ hi)]
    have agree₂ : ∀ i < m, shiftHoles hole n i = v₂.getD i (.param i) := fun i hi => by
      rw [shiftHoles, agree (n + i) (by omega), ← first.length,
        getD_append_length_add (second.length ▸ hi)]
    rw [inline₂ _ bs agree₂ hbs, inline₁ hole bs agree₁ (second.earlier.trans hbs)]

theorem Collects.records_bind {n : Nat} {x : Compile α} {a : α} {f g : α → Compile β}
    {F G : (Nat → Code) → List Blueprint → β} (hx : Records o x a)
    (hfg : Collects o n F G (f a) (g a)) : Collects o n F G (x >>= f) (x >>= g) := by
  have h := (Collects.of_records hx).bind (P := fun _ => F) (Q := fun _ => G) (f := f) (g := g)
    (m := n) fun a' b' ⟨_, _, ha⟩ ⟨_, _, hb⟩ => by subst ha hb; exact hfg
  simpa using h

theorem Collects.map {n : Nat} {x y : Compile α} {F G : (Nat → Code) → List Blueprint → α}
    (φ : α → β) (hxy : Collects o n F G x y) :
    Collects o n (fun hole bs => φ (F hole bs)) (fun hole bs => φ (G hole bs)) (φ <$> x)
      (φ <$> y) := by
  rw [map_eq_pure_bind, map_eq_pure_bind]
  exact hxy.bind fun a b _ _ => Collects.pure (φ a) (φ b)

end Collects

/-! ### Values -/

section Values
variable {o : Options}

theorem bindParam_collects (code : Code) :
    Collects o 1 (fun hole _ => hole 0) (fun hole _ => hole 0) (bindParam code) (bindParam code) := by
  intro s ps a t ho hp run
  rw [run_bindParam, hp] at run
  cases run
  refine ⟨[code], rfl, rfl, ho, List.prefix_refl _, fun _ _ => by simp [shiftHoles], code, ?_, ?_⟩
  · rw [run_bindParam]
  · intro hole _ agree _
    simpa using (agree 0 Nat.one_pos).symm

theorem expr_collects (pieces : List Piece) :
    Collects o 1 (fun hole _ => hole 0) (fun hole _ => hole 0)
      (suspended (emitPieces pieces) >>= fun parts => bindParam (.expr parts))
      (suspended (emitPieces pieces) >>= fun parts => bindParam (.expr parts)) := by
  intro s ps a t ho hp run
  rw [EStateM.run_bind, run_suspended] at run
  cases inner : (emitPieces pieces).run { s with params := none } with
  | error e s' => rw [inner] at run; cases run
  | ok parts s' =>
    rw [inner] at run
    simp only [run_bindParam, hp] at run
    cases run
    have grows : ({ s with params := none } : Context).Grows s' := by
      simpa [inner] using (emit_grows.2.2.1 pieces).run { s with params := none }
    refine ⟨[.expr parts], rfl, rfl, grows.options.trans ho, grows.earlier,
      fun _ _ => by simp [shiftHoles], .expr parts, ?_, ?_⟩
    · simp only [EStateM.run_bind, run_suspended, inner, run_bindParam]
    · intro hole _ agree _
      simpa using (agree 0 Nat.one_pos).symm

theorem emitValue_collects (v : Term) :
    Collects o v.shape.holes (fun hole _ => v.shape.code hole) (fun hole _ => v.shape.code hole)
      (emitValue v) (emitValue v) := by
  cases v with
  | literal l => exact Collects.pure _ _
  | expr pieces => exact expr_collects pieces

theorem emitParam_collects (v : Term) :
    Collects o 1 (fun hole _ => hole 0) (fun hole _ => hole 0) (emitParam v) (emitParam v) := by
  cases v with
  | literal l => exact bindParam_collects _
  | expr pieces => exact expr_collects pieces

theorem emitOptional_collects (t : Option Term) :
    Collects o (slotsOf [t.map Term.shape]) (fun hole _ => Shape.optionCode hole (t.map Term.shape))
      (fun hole _ => Shape.optionCode hole (t.map Term.shape)) (emitOptional t) (emitOptional t) := by
  rcases t with _ | v
  · exact Collects.pure _ _
  · simp only [emitOptional]
    split
    · rename_i nullish
      rcases v with ⟨_ | _ | _ | _ | _ | _⟩ | pieces <;> simp [Term.isNullish] at nullish <;>
        exact Collects.pure _ _
    · rename_i present
      refine ((emitValue_collects v).bind fun a b _ _ => Collects.pure (some a) (some b)).of_eq
        ?_ fun hole bs => ?_
      · cases v <;> rfl
      · rcases v with ⟨_ | _ | _ | _ | _ | _⟩ | pieces <;>
          simp_all [Term.isNullish, Term.shape, Shape.optionCode]

theorem emitFieldEntries_collects (fields : List Field) :
    Collects o ((fields.map Field.shape).filter (·.value.isSlot)).length
      (fun hole _ => FieldShape.entries hole (fields.map Field.shape))
      (fun hole _ => FieldShape.entries hole (fields.map Field.shape))
      (emitFieldEntries fields) (emitFieldEntries fields) := by
  induction fields with
  | nil => exact Collects.pure _ _
  | cons f rest ih =>
    obtain ⟨name, category, value⟩ := f
    simp only [emitFieldEntries]
    refine ((emitValue_collects value).bind fun a b _ _ => ih.bind fun more more' _ _ =>
      Collects.pure
        ((if category == .spread then .spread a else .entry (Text.quote name) a) :: more)
        ((if category == .spread then .spread b else .entry (Text.quote name) b) :: more')).of_eq
      ?_ fun hole bs => ?_
    · cases value <;> simp [Field.shape, Field.value, Term.shape, Shape.holes, Shape.isSlot]
      omega
    · simp [FieldShape.entries, FieldShape.entry, Field.shape, Field.name, Field.category,
        Field.value, Shape.holes]

theorem emitChildFlags_collects (cf : ChildFlagValue) :
    Collects o (if cf.known?.isNone then 1 else 0) (fun hole _ => childFlagsCode hole cf.known?)
      (fun hole _ => childFlagsCode hole cf.known?) (emitChildFlags cf) (emitChildFlags cf) := by
  cases cf with
  | known m => exact Collects.pure _ _
  | dynamic v =>
    exact ((emitParam_collects v).bind fun a b _ _ => Collects.pure (some a) (some b)).of_eq rfl
      fun _ _ => rfl

end Values

/-! ### Nodes inside a template -/

section Nodes
variable {o : Options} {scope : Scope}

theorem slotCountList_of_unread {children : List Node} {sigs : List Signature}
    (hsigs : List.Forall₂ (fun n s => n.signature? = some s) children sigs) {collapse : Bool}
    (unread : (children.isEmpty || (collapse && loneText children)) = true) :
    Signature.slotCountList sigs = 0 := by
  rcases hsigs with _ | ⟨hn, _ | ⟨_, _⟩⟩
  · rfl
  · rename_i n sig
    cases n with
    | text t => cases hn; rfl
    | _ => simp [loneText] at unread
  · simp [loneText] at unread

theorem childrenArg_collects {children : List Node} {sigs : List Signature}
    (wf : ∀ n ∈ children, n.wellFormed = true)
    (hsigs : List.Forall₂ (fun n s => n.signature? = some s) children sigs) (cf : ChildFlagValue)
    (collapse : Bool) {items : Compile (List Code)}
    {C : (Nat → Code) → List Blueprint → List Code}
    (h : Collects o (Signature.slotCountList sigs) C C items items) :
    Collects o (Signature.slotCountList sigs)
      (fun hole bs => Signature.childrenCode sigs cf.known? collapse (C hole bs))
      (fun hole bs => Signature.childrenCode sigs cf.known? collapse (C hole bs))
      (childrenArg children cf collapse items) (childrenArg children cf collapse items) := by
  rw [childrenArg_eq wf hsigs]
  split
  · rename_i unread
    exact (Collects.pure _ _).of_eq (slotCountList_of_unread hsigs unread).symm
      fun _ _ => childrenCode_unread hsigs unread _ _
  · exact h.map _

theorem cachedSite_collects {n : Node} {sig : Signature} (wf : n.wellFormed = true)
    (hsig : n.signature? = some sig) (static : sig.isStatic = true)
    (D : (Nat → Code) → List Blueprint → Code) :
    Collects o 0 (fun hole bs => (Blueprint.sites bs sig).getD (D hole bs))
      (fun hole bs => (Blueprint.sites bs sig).getD (D hole bs))
      (cachedSite sig (emitDirect scope .skeleton n)) (cachedSite sig (emitDirect scope .skeleton n)) := by
  obtain ⟨U, hU⟩ := @skeleton_records o scope n sig .param wf hsig static
  intro s ps a t ho hp run
  rw [run_cachedSite] at run
  cases found : s.lookup sig with
  | some b =>
    rw [found] at run
    cases run
    refine ⟨[], rfl, by simp [hp], ho, List.prefix_refl _,
      fun bs hbs => by simp [Blueprint.sites_of_lookup found hbs], .cached b.id b.skeleton, ?_, ?_⟩
    · simp [run_cachedSite, found]
    · intro _ bs _ hbs
      simp [Blueprint.sites_of_lookup found hbs]
  | none =>
    rw [found, hU s ho] at run
    simp only [Context.lookup_with_used, found] at run
    cases run
    have stored : ∀ bs, s.blueprints ++ [⟨sig, s.blueprints.length, sig.code o (fun _ => none) .param, 0⟩] <+: bs →
        Blueprint.sites bs sig = some (.cached s.blueprints.length (sig.code o (fun _ => none) .param)) := by
      intro bs hbs
      refine Blueprint.sites_of_lookup (s := { s with blueprints := _ })
        (b := ⟨sig, s.blueprints.length, sig.code o (fun _ => none) .param, 0⟩) ?_ hbs
      simp only [Context.lookup] at found ⊢
      simp [List.find?_append, found]
    refine ⟨[], rfl, by simp [hp], ho, List.prefix_append _ _, fun bs hbs => by simp [stored bs hbs],
      .cached s.blueprints.length (sig.code o (fun _ => none) .param), ?_,
      fun _ bs _ hbs => by simp [stored bs hbs]⟩
    rw [run_cachedSite]
    simp only [Context.lookup_with_params, found, hU { s with params := none } ho]
    simp only [Context.lookup] at found ⊢
    simp only [found]

theorem Node.hoistSignature_eq {n : Node} {sig : Signature} (wf : n.wellFormed = true)
    (hsig : n.signature? = some sig) :
    n.hoistSignature? = if sig.isHoistable then some sig else none := by
  cases n with
  | element =>
    obtain ⟨rfl, -⟩ := Node.wellFormed_element_iff.mp wf
    simp only [Node.signature?, elementSignature] at hsig
    split at hsig
    · cases hsig
    · obtain ⟨_, -, rfl⟩ := Option.map_eq_some_iff.mp hsig
      simp [Node.hoistSignature?, elementSignature, Signature.isHoistable, *]
  | fragment =>
    obtain ⟨rfl, -⟩ := Node.wellFormed_fragment_iff.mp wf
    simp only [Node.signature?, fragmentSignature] at hsig
    obtain ⟨_, hsigs, rfl⟩ := Option.map_eq_some_iff.mp hsig
    simp [Node.hoistSignature?, fragmentSignature, Signature.isHoistable, hsigs]
  | text | slot => cases hsig; rfl
  | component => cases hsig

/-- A child inside a template: a static element or fragment is read from its slot, any other
node is emitted in place. -/
theorem hoisted_collects (cache : shouldCache o scope = true) {n : Node} {sig : Signature}
    (wf : n.wellFormed = true) (hsig : n.signature? = some sig)
    (direct : Collects o sig.slotCount (fun hole bs => sig.code o (Blueprint.sites bs) hole)
      (fun hole bs => sig.code o (Blueprint.sites bs) hole) (emitDirect scope .template n)
      (emitDirect scope .template n)) :
    Collects o sig.slotCount
      (fun hole bs => if sig.isHoistable && sig.isStatic then
        (Blueprint.sites bs sig).getD (sig.code o (Blueprint.sites bs) hole)
        else sig.code o (Blueprint.sites bs) hole)
      (fun hole bs => if sig.isHoistable && sig.isStatic then
        (Blueprint.sites bs sig).getD (sig.code o (Blueprint.sites bs) hole)
        else sig.code o (Blueprint.sites bs) hole)
      (hoisted scope .template n fun nest => emitDirect scope nest n)
      (hoisted scope .template n fun nest => emitDirect scope nest n) := by
  rw [hoisted]
  refine Collects.records_bind options_records ?_
  rw [Node.hoistSignature_eq wf hsig]
  by_cases hoistable : sig.isHoistable
  · by_cases static : sig.isStatic
    · simp only [hoistable, static, if_true, cache, Bool.and_self]
      exact (cachedSite_collects wf hsig static _).of_eq
        (slotCount_eq_zero_of_isStatic static).symm fun _ _ => rfl
    · simp only [hoistable, static, if_true, if_false, cache, Bool.and_false,
        Bool.false_eq_true]
      exact direct
  · simp only [hoistable, if_false, Bool.false_and, Bool.false_eq_true]
    exact direct

mutual
theorem direct_collects (cache : shouldCache o scope = true) : ∀ (n : Node) {sig : Signature},
    n.wellFormed = true → n.signature? = some sig →
      Collects o sig.slotCount (fun hole bs => sig.code o (Blueprint.sites bs) hole)
        (fun hole bs => sig.code o (Blueprint.sites bs) hole) (emitDirect scope .template n)
        (emitDirect scope .template n)
  | .element tag flags cls fields key ref children cf normC collapse normP s, sig, wf, hsig => by
    obtain ⟨rfl, rfl, rfl, -, -, -, -, wfc, -⟩ := Node.wellFormed_element_iff.mp wf
    obtain ⟨hnormP, sigs, hsigs, rfl⟩ := elementSignature_eq_some hsig
    have items := nodes_collects cache children wfc hsigs
    rw [collapses_eq_signature hsigs wfc]
    simp only [emitDirect, hnormP, wrapIf, Bool.false_eq_true, if_false, bind_pure]
    by_cases unknown : cf.known? = some ChildFlags.unknown
    · simp only [unknown, beq_self_eq_true, if_true, pure_bind]
      refine Collects.records_bind (useHelper_records _) ?_
      apply Collects.of_eq
      case h =>
        apply (emitOptional_collects cls).bind
        intro clsArg clsArg' _ _
        apply (emitFieldEntries_collects fields).bind
        intro entries entries' _ _
        apply (emitOptional_collects key).bind
        intro keyArg keyArg' _ _
        apply (emitOptional_collects ref).bind
        intro refArg refArg' _ _
        apply Collects.records_bind options_records
        apply items.bind
        intro codes codes' _ _
        exact Collects.records_bind (useHelper_records _) (Collects.pure _ _)
      case count =>
        simp [Signature.slotCount, slotsOf_cons]
        omega
      case code =>
        intro hole bs
        simp [Signature.code, List.Forall₂.length_eq hsigs]
    · have known : (cf.known? == some ChildFlags.unknown) = false := by simpa using unknown
      simp only [known, Bool.false_eq_true, if_false]
      refine Collects.records_bind (useHelper_records _) ?_
      apply Collects.of_eq
      case h =>
        apply (emitOptional_collects cls).bind
        intro clsArg clsArg' _ _
        apply (childrenArg_collects wfc hsigs cf _ items).bind
        intro chArg chArg' _ _
        apply (emitChildFlags_collects cf).bind
        intro cfArg cfArg' _ _
        apply (emitFieldEntries_collects fields).bind
        intro entries entries' _ _
        apply (emitOptional_collects key).bind
        intro keyArg keyArg' _ _
        apply (emitOptional_collects ref).bind
        intro refArg refArg' _ _
        exact Collects.records_bind options_records (Collects.pure _ _)
      case count =>
        simp [Signature.slotCount, slotsOf_cons]
        omega
      case code =>
        intro hole bs
        simp [Signature.code, unknown]
  | .fragment key children cf normC collapse s, sig, wf, hsig => by
    obtain ⟨rfl, rfl, -, wfc, -⟩ := Node.wellFormed_fragment_iff.mp wf
    obtain ⟨sigs, hsigs, rfl⟩ := fragmentSignature_eq_some hsig
    have items := nodes_collects cache children wfc hsigs
    rw [collapses_eq_signature hsigs wfc]
    simp only [emitDirect]
    refine Collects.records_bind (useHelper_records _) ?_
    by_cases empty : sigs = []
    · subst empty
      obtain rfl := List.forall₂_nil_right_iff.mp hsigs
      simp only [childrenArg, pure_bind, Option.isNone_none, if_true]
      apply Collects.of_eq
      case h =>
        apply (emitOptional_collects key).bind
        intro keyArg keyArg' _ _
        exact Collects.records_bind options_records (Collects.pure _ _)
      case count => simp [Signature.slotCount, Signature.slotCountList]
      case code =>
        intro hole bs
        simp [Signature.code, Signature.childrenCode, Signature.slotCountList]
    · have written : ∀ codes, (Signature.childrenCode sigs cf.known?
          (Signature.collapses cf.known? sigs) codes).isNone = false := by
        simpa [childrenCode_isNone, List.isEmpty_iff] using empty
      apply Collects.of_eq
      case h =>
        apply (childrenArg_collects wfc hsigs cf _ items).bind
        intro chArg chArg' ⟨_, _, hch⟩ ⟨_, _, hch'⟩
        have present : chArg.isNone = false := hch ▸ written _
        have present' : chArg'.isNone = false := hch' ▸ written _
        simp only [present, present', Bool.false_eq_true, if_false]
        apply (emitChildFlags_collects cf).bind
        intro cfArg cfArg' _ _
        apply (emitOptional_collects key).bind
        intro keyArg keyArg' _ _
        exact Collects.records_bind options_records (Collects.pure _ _)
      case count =>
        simp [Signature.slotCount, List.isEmpty_iff, empty]
        omega
      case code =>
        intro hole bs
        simp [Signature.code, List.isEmpty_iff, empty, childrenCode_isNone]
  | .text value, sig, _, hsig => by
    cases hsig
    simp only [emitDirect]
    exact Collects.records_bind (useHelper_records _) (Collects.pure _ _)
  | .slot v, sig, _, hsig => by
    cases hsig
    exact emitParam_collects v
  | .component .., _, _, hsig => by cases hsig

theorem nodes_collects (cache : shouldCache o scope = true) : ∀ (ns : List Node) {sigs : List Signature},
    (∀ n ∈ ns, n.wellFormed = true) → List.Forall₂ (fun n s => n.signature? = some s) ns sigs →
      Collects o (Signature.slotCountList sigs)
        (fun hole bs => Signature.codeList o (Blueprint.sites bs) hole sigs)
        (fun hole bs => Signature.codeList o (Blueprint.sites bs) hole sigs)
        (emitNodes scope .template ns) (emitNodes scope .template ns)
  | [], [], _, .nil => Collects.pure _ _
  | n :: rest, sig :: sigs, wf, .cons hn hrest => by
    have first := hoisted_collects cache (wf n (by simp)) hn
      (direct_collects cache n (wf n (by simp)) hn)
    have more := nodes_collects cache rest (fun m hm => wf m (by simp [hm])) hrest
    simp only [emitNodes]
    exact (first.bind fun code code' _ _ => more.bind fun codes codes' _ _ =>
      Collects.pure (code :: codes) (code' :: codes')).of_eq (by simp [Signature.slotCountList])
      fun hole bs => by simp [Signature.codeList]
end

end Nodes

end Compile

end JsxVNode
