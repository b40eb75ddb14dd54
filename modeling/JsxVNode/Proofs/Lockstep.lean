import JsxVNode.Proofs.Renaming
import JsxVNode.Proofs.Declarations
import JsxVNode.Proofs.Validation
/-!
Two compilations in lockstep. The same computation run from two states that differ in the order
their blueprints were allocated behaves the same way up to the ids: both runs succeed or both fail
with the same error, the second result is the first with its ids renamed, and what one run adds
to its state, a signature or a helper, the other adds or had already. The renaming is fixed in
advance; a value's renaming is only asked for where the renaming is aligned with the tables the
runs reach, so that it can be chosen at the end of a whole compilation.

`Lockstep ρ E r x₁ x₂` is that judgement, from any two paired states knowing `E`: `E` gathers
the renamings of the values computed so far, and `r` renames a result. It is closed under `bind`,
so the emitter's cases chain it one statement at a time. The sites are where the two runs can
part: one finds a blueprint the other allocates. A static skeleton is the same code wherever it
is built and records exactly the helpers it names, which a settled state already records for
every static blueprint; a template body is built at every site either way.
-/
namespace JsxVNode

namespace Context

/-- A state fit for comparison: the blueprint of a static signature holds the signature's
skeleton, and that skeleton names only helpers recorded as used. -/
def Settled (s : Context) : Prop :=
  ∀ b ∈ s.blueprints, b.signature.isStatic = true →
    b.skeleton = b.signature.code s.options (fun _ => none) .param ∧ s.Declares b.skeleton

def signatures (s : Context) : List Signature := s.blueprints.map (·.signature)

/-- Two settled states under the same options, where, whenever `ρ` is aligned with their tables,
`E` holds and the arguments the second collects are those of the first renamed. -/
structure Paired (ρ : Nat → Nat) (E : Prop) (s₁ s₂ : Context) : Prop where
  settled₁ : s₁.Settled
  settled₂ : s₂.Settled
  options : s₂.options = s₁.options
  aligned : Aligns ρ s₁.blueprints s₂.blueprints →
    E ∧ s₂.params = s₁.params.map (List.map (Code.rename ρ))

/-- Two runs, one from `s₁` to `t₁` and one from `s₂` to `t₂`, grow their states alike: a
signature or a helper that one adds, the other adds too or had already. -/
structure GrowAlike (s₁ s₂ t₁ t₂ : Context) : Prop where
  grows₁ : s₁.Grows t₁
  grows₂ : s₂.Grows t₂
  signatures : ∀ sig,
    sig ∈ t₁.signatures ∨ sig ∈ s₂.signatures ↔ sig ∈ t₂.signatures ∨ sig ∈ s₁.signatures
  used : ∀ h, h ∈ t₁.used ∨ h ∈ s₂.used ↔ h ∈ t₂.used ∨ h ∈ s₁.used

theorem Grows.withUsed {s : Context} {used : List Helper} (more : s.used ⊆ used) :
    s.Grows { s with used } :=
  ⟨rfl, rfl, List.prefix_refl _, more, id, id⟩

theorem Grows.mapParams {s : Context} (f : List Code → List Code) :
    s.Grows { s with params := s.params.map f } :=
  ⟨rfl, rfl, List.prefix_refl _, List.Subset.refl _, id, fun none => by simp [none]⟩

namespace Settled
variable {s : Context}

theorem withUsed (settled : s.Settled) {used : List Helper} (more : s.used ⊆ used) :
    ({ s with used } : Context).Settled := fun b hb static =>
  ⟨(settled b hb static).1, (settled b hb static).2.mono (List.Subset.refl _) more⟩

theorem withParams (settled : s.Settled) (params : Option (List Code)) :
    ({ s with params } : Context).Settled :=
  settled

theorem snoc (settled : s.Settled) {b : Blueprint}
    (declared : b.signature.isStatic = true →
      b.skeleton = b.signature.code s.options (fun _ => none) .param ∧ s.Declares b.skeleton) :
    ({ s with blueprints := s.blueprints ++ [b] } : Context).Settled := by
  intro b' hb' static
  rcases List.mem_append.mp hb' with old | new
  · exact ⟨(settled b' old static).1, (settled b' old static).2.snoc b⟩
  · rw [List.mem_singleton.mp new] at static ⊢
    exact ⟨(declared static).1, (declared static).2.snoc b⟩

end Settled

@[simp] theorem signatures_withParams (s : Context) (params : Option (List Code)) :
    ({ s with params } : Context).signatures = s.signatures := rfl

namespace Paired
variable {ρ : Nat → Nat} {E F : Prop} {s₁ s₂ : Context}

theorem weaken (paired : s₁.Paired ρ E s₂) (imp : E → F) : s₁.Paired ρ F s₂ :=
  ⟨paired.settled₁, paired.settled₂, paired.options, fun aligned =>
    ⟨imp (paired.aligned aligned).1, (paired.aligned aligned).2⟩⟩

theorem suspend (paired : s₁.Paired ρ E s₂) :
    ({ s₁ with params := none } : Context).Paired ρ E { s₂ with params := none } :=
  ⟨paired.settled₁.withParams _, paired.settled₂.withParams _, paired.options,
    fun aligned => ⟨(paired.aligned aligned).1, rfl⟩⟩

theorem begin (paired : s₁.Paired ρ E s₂) :
    ({ s₁ with params := some [] } : Context).Paired ρ E { s₂ with params := some [] } :=
  ⟨paired.settled₁.withParams _, paired.settled₂.withParams _, paired.options,
    fun aligned => ⟨(paired.aligned aligned).1, rfl⟩⟩

end Paired

namespace GrowAlike
variable {s₁ s₂ t₁ t₂ u₁ u₂ : Context}

theorem refl (s₁ s₂ : Context) : GrowAlike s₁ s₂ s₁ s₂ :=
  ⟨.refl s₁, .refl s₂, fun _ => Or.comm, fun _ => Or.comm⟩

theorem or_trans {a₁ a₂ b₁ b₂ c₁ c₂ : Prop} (bc₁ : b₁ → c₁) (bc₂ : b₂ → c₂)
    (first : b₁ ∨ a₂ ↔ b₂ ∨ a₁) (second : c₁ ∨ b₂ ↔ c₂ ∨ b₁) : c₁ ∨ a₂ ↔ c₂ ∨ a₁ := by
  -- one direction, used twice with the two sides swapped
  have half : ∀ {a₁ a₂ b₁ b₂ c₁ c₂ : Prop}, (b₂ → c₂) → (b₁ ∨ a₂ → b₂ ∨ a₁) →
      (c₁ ∨ b₂ → c₂ ∨ b₁) → c₁ ∨ a₂ → c₂ ∨ a₁ := by
    intro a₁ a₂ b₁ b₂ c₁ c₂ bc₂ first second held
    rcases held with c | a
    · rcases second (.inl c) with c' | b
      · exact .inl c'
      · exact (first (.inl b)).imp bc₂ id
    · exact (first (.inr a)).imp bc₂ id
  exact ⟨half bc₂ first.mp second.mp, half bc₁ first.mpr second.mpr⟩

theorem trans (first : GrowAlike s₁ s₂ t₁ t₂) (second : GrowAlike t₁ t₂ u₁ u₂) :
    GrowAlike s₁ s₂ u₁ u₂ := by
  have kept : ∀ {s t : Context}, s.Grows t → ∀ {sig}, sig ∈ s.signatures → sig ∈ t.signatures :=
    fun g _ h => List.map_subset _ g.earlier.subset h
  refine ⟨first.grows₁.trans second.grows₁, first.grows₂.trans second.grows₂, fun sig => ?_,
    fun h => ?_⟩
  · exact or_trans (kept second.grows₁) (kept second.grows₂) (first.signatures sig)
      (second.signatures sig)
  · exact or_trans (@second.grows₁.used h) (@second.grows₂.used h) (first.used h) (second.used h)

theorem of_used {s₁ s₂ : Context} {u₁ u₂ : List Helper} {H : Helper → Prop}
    (mem₁ : ∀ h, h ∈ u₁ ↔ h ∈ s₁.used ∨ H h) (mem₂ : ∀ h, h ∈ u₂ ↔ h ∈ s₂.used ∨ H h) :
    GrowAlike s₁ s₂ { s₁ with used := u₁ } { s₂ with used := u₂ } := by
  refine ⟨.withUsed fun h hh => (mem₁ h).mpr (.inl hh), .withUsed fun h hh => (mem₂ h).mpr (.inl hh),
    fun _ => Or.comm, fun h => ?_⟩
  simp only [mem₁, mem₂]
  tauto

theorem restore {p₁ p₂ : Option (List Code)}
    (alike : GrowAlike { s₁ with params := p₁ } { s₂ with params := p₂ } t₁ t₂) :
    GrowAlike s₁ s₂ { t₁ with params := s₁.params } { t₂ with params := s₂.params } :=
  ⟨alike.grows₁.restore, alike.grows₂.restore, alike.signatures, alike.used⟩

end GrowAlike

theorem Paired.restore {ρ : Nat → Nat} {E F : Prop} {s₁ s₂ t₁ t₂ : Context}
    {p₁ p₂ : Option (List Code)} (paired : s₁.Paired ρ E s₂)
    (alike : GrowAlike { s₁ with params := p₁ } { s₂ with params := p₂ } t₁ t₂)
    (after : t₁.Paired ρ F t₂) :
    ({ t₁ with params := s₁.params } : Context).Paired ρ F { t₂ with params := s₂.params } := by
  refine ⟨after.settled₁.withParams _, after.settled₂.withParams _, after.options,
    fun aligned => ⟨(after.aligned aligned).1, ?_⟩⟩
  exact (paired.aligned (aligned.mono alike.grows₁.earlier.subset alike.grows₂.earlier.subset)).2

end Context

namespace Compile
variable {α β : Type}

/-- How two runs end in lockstep under `ρ`, from `s₁` and `s₂` knowing `E`: both succeed, and
the states stay paired knowing besides that the second result is the first renamed by `r`; or
both fail with the same error, the states paired. Either way the states grow alike. -/
def Ends (ρ : Nat → Nat) (E : Prop) (r : α → α) (s₁ s₂ : Context) :
    EStateM.Result CompileError Context α → EStateM.Result CompileError Context α → Prop
  | .ok a₁ t₁, .ok a₂ t₂ => t₁.Paired ρ (E ∧ a₂ = r a₁) t₂ ∧ Context.GrowAlike s₁ s₂ t₁ t₂
  | .error e₁ t₁, .error e₂ t₂ => e₁ = e₂ ∧ t₁.Paired ρ E t₂ ∧ Context.GrowAlike s₁ s₂ t₁ t₂
  | _, _ => False

/-- `x₁` and `x₂` run in lockstep under `ρ` knowing `E`: from any two paired states they end as
`Ends` says. -/
def Lockstep (ρ : Nat → Nat) (E : Prop) (r : α → α) (x₁ x₂ : Compile α) : Prop :=
  ∀ s₁ s₂, s₁.Paired ρ E s₂ → Ends ρ E r s₁ s₂ (x₁.run s₁) (x₂.run s₂)

section Rules
variable {ρ : Nat → Nat} {E : Prop} {ra : α → α} {rb : β → β}

theorem Ends.then {s₁ s₂ t₁ t₂ : Context} {A : Prop} {r₁ r₂ : EStateM.Result CompileError Context β}
    (alike : Context.GrowAlike s₁ s₂ t₁ t₂) (next : Ends ρ (E ∧ A) rb t₁ t₂ r₁ r₂) :
    Ends ρ E rb s₁ s₂ r₁ r₂ := by
  cases r₁ <;> cases r₂ <;> simp only [Ends] at next ⊢
  · exact ⟨next.1.weaken fun known => ⟨known.1.1, known.2⟩, alike.trans next.2⟩
  · exact ⟨next.1, next.2.1.weaken And.left, alike.trans next.2.2⟩

theorem Lockstep.bind_of {x₁ x₂ : Compile α} {f₁ f₂ : α → Compile β} {Q : α → Prop}
    (hx : Lockstep ρ E ra x₁ x₂) (post₁ : ∀ s a t, x₁.run s = .ok a t → Q a)
    (post₂ : ∀ s a t, x₂.run s = .ok a t → Q a)
    (hf : ∀ a₁ a₂, Q a₁ → Q a₂ → Lockstep ρ (E ∧ a₂ = ra a₁) rb (f₁ a₁) (f₂ a₂)) :
    Lockstep ρ E rb (x₁ >>= f₁) (x₂ >>= f₂) := by
  intro s₁ s₂ paired
  have first := hx s₁ s₂ paired
  simp only [EStateM.run_bind]
  cases run₁ : x₁.run s₁ with
  | ok a₁ t₁ =>
    cases run₂ : x₂.run s₂ with
    | ok a₂ t₂ =>
      rw [run₁, run₂] at first
      exact (hf a₁ a₂ (post₁ _ _ _ run₁) (post₂ _ _ _ run₂) t₁ t₂ first.1).then first.2
    | error e₂ t₂ => rw [run₁, run₂] at first; simp only [Ends] at first
  | error e₁ t₁ =>
    cases run₂ : x₂.run s₂ with
    | ok a₂ t₂ => rw [run₁, run₂] at first; simp only [Ends] at first
    | error e₂ t₂ => rw [run₁, run₂] at first; exact first

theorem Lockstep.bind {x₁ x₂ : Compile α} {f₁ f₂ : α → Compile β} (hx : Lockstep ρ E ra x₁ x₂)
    (hf : ∀ a₁ a₂, Lockstep ρ (E ∧ a₂ = ra a₁) rb (f₁ a₁) (f₂ a₂)) :
    Lockstep ρ E rb (x₁ >>= f₁) (x₂ >>= f₂) :=
  hx.bind_of (Q := fun _ => True) (fun _ _ _ _ => trivial) (fun _ _ _ _ => trivial)
    fun a₁ a₂ _ _ => hf a₁ a₂

theorem Lockstep.pure {a₁ a₂ : α} (h : E → a₂ = ra a₁) :
    Lockstep ρ E ra (Pure.pure a₁ : Compile α) (Pure.pure a₂) := by
  intro s₁ s₂ paired
  simp only [EStateM.run_pure, Ends]
  exact ⟨paired.weaken fun e => ⟨e, h e⟩, .refl s₁ s₂⟩

theorem Lockstep.throw (e : CompileError) : Lockstep ρ E ra (throw e : Compile α) (throw e) := by
  intro s₁ s₂ paired
  exact ⟨rfl, paired, .refl s₁ s₂⟩

theorem Lockstep.ite {c : Prop} [Decidable c] {x₁ x₂ y₁ y₂ : Compile α}
    (hx : c → Lockstep ρ E ra x₁ x₂) (hy : ¬c → Lockstep ρ E ra y₁ y₂) :
    Lockstep ρ E ra (if c then x₁ else y₁) (if c then x₂ else y₂) := by
  by_cases h : c
  · simpa only [if_pos h] using hx h
  · simpa only [if_neg h] using hy h

theorem Lockstep.none :
    Lockstep ρ E (Option.map (Code.rename ρ)) (Pure.pure none : Compile (Option Code))
      (Pure.pure none) :=
  Lockstep.pure fun _ => rfl

theorem Lockstep.options_bind {f₁ f₂ : Options → Compile β}
    (hf : ∀ o, Lockstep ρ E rb (f₁ o) (f₂ o)) :
    Lockstep ρ E rb (options >>= f₁) (options >>= f₂) := by
  intro s₁ s₂ paired
  simp only [EStateM.run_bind, run_options]
  rw [paired.options]
  exact hf s₁.options s₁ s₂ paired

end Rules

/-! ### The steps of the state monad -/

section Steps
variable {ρ : Nat → Nat} {E : Prop}

theorem run_useHelper_used (h : Helper) (s : Context) : ∃ used,
    (useHelper h).run s = .ok (.helper h) { s with used } ∧ ∀ h', h' ∈ used ↔ h' ∈ s.used ∨ h' = h := by
  rw [run_useHelper]
  by_cases recorded : h ∈ s.used
  · refine ⟨s.used, by simp [recorded], fun h' => ⟨.inl, ?_⟩⟩
    rintro (old | rfl)
    · exact old
    · exact recorded
  · exact ⟨s.used ++ [h], by simp [recorded], by simp⟩

theorem useHelper_lockstep (h : Helper) : Lockstep ρ E (Code.rename ρ) (useHelper h) (useHelper h) := by
  intro s₁ s₂ paired
  obtain ⟨u₁, run₁, mem₁⟩ := run_useHelper_used h s₁
  obtain ⟨u₂, run₂, mem₂⟩ := run_useHelper_used h s₂
  rw [run₁, run₂]
  simp only [Ends]
  refine ⟨⟨paired.settled₁.withUsed fun h' hh => (mem₁ h').mpr (.inl hh),
    paired.settled₂.withUsed fun h' hh => (mem₂ h').mpr (.inl hh), paired.options,
    fun aligned => ⟨⟨(paired.aligned aligned).1, rfl⟩, (paired.aligned aligned).2⟩⟩,
    Context.GrowAlike.of_used mem₁ mem₂⟩

theorem ofExcept_lockstep {α : Type} (r : Except CompileError α) :
    Lockstep ρ E id (ofExcept r) (ofExcept r) := by
  cases r with
  | error e => exact Lockstep.throw e
  | ok a => exact Lockstep.pure fun _ => rfl

theorem run_bindParam_map (code : Code) (s : Context) :
    (bindParam code).run s = .ok (match s.params with | some ps => .param ps.length | none => code)
      { s with params := s.params.map (· ++ [code]) } := by
  rw [run_bindParam]
  cases collecting : s.params with
  | some ps => rfl
  | none => simp only [Option.map_none]; rw [← collecting]

theorem bindParam_lockstep {c₁ c₂ : Code} (codes : E → c₂ = c₁.rename ρ) :
    Lockstep ρ E (Code.rename ρ) (bindParam c₁) (bindParam c₂) := by
  intro s₁ s₂ paired
  rw [run_bindParam_map, run_bindParam_map]
  simp only [Ends]
  refine ⟨⟨paired.settled₁.withParams _, paired.settled₂.withParams _, paired.options,
    fun aligned => ?_⟩, ⟨.mapParams _, .mapParams _, fun _ => Or.comm, fun _ => Or.comm⟩⟩
  obtain ⟨e, params⟩ := paired.aligned aligned
  have renamed := codes e
  simp only at params ⊢
  rw [params]
  cases s₁.params with
  | none => exact ⟨⟨e, renamed⟩, rfl⟩
  | some ps => exact ⟨⟨e, by simp⟩, by simp [renamed]⟩

theorem suspended_lockstep {α : Type} {r : α → α} {x₁ x₂ : Compile α} (hx : Lockstep ρ E r x₁ x₂) :
    Lockstep ρ E r (suspended x₁) (suspended x₂) := by
  intro s₁ s₂ paired
  have inner := hx _ _ paired.suspend
  rw [run_suspended, run_suspended]
  cases run₁ : x₁.run { s₁ with params := none } <;>
    cases run₂ : x₂.run { s₂ with params := none } <;>
    rw [run₁, run₂] at inner <;> simp only [Ends] at inner ⊢
  · exact ⟨paired.restore inner.2 inner.1, inner.2.restore⟩
  · exact ⟨inner.1, paired.restore inner.2.2 inner.2.1, inner.2.2.restore⟩

theorem wrapIf_lockstep (cond : Bool) (h : Helper) {c₁ c₂ : Code} (codes : E → c₂ = c₁.rename ρ) :
    Lockstep ρ E (Code.rename ρ) (wrapIf cond h c₁) (wrapIf cond h c₂) := by
  unfold wrapIf
  refine Lockstep.ite (fun _ => (useHelper_lockstep h).bind fun _ _ => Lockstep.pure ?_)
    fun _ => Lockstep.pure codes
  rintro ⟨e, rfl⟩
  simp [codes e]

theorem childrenArg_lockstep (nodes : List Node) (cf : ChildFlagValue) (collapse : Bool)
    {items : Compile (List Code)}
    (hi : ∀ E, Lockstep ρ E (List.map (Code.rename ρ)) items items) :
    Lockstep ρ E (Option.map (Code.rename ρ)) (childrenArg nodes cf collapse items)
      (childrenArg nodes cf collapse items) := by
  unfold childrenArg
  split
  · exact Lockstep.pure fun _ => rfl
  · refine Lockstep.ite (fun _ => Lockstep.pure fun _ => rfl)
      fun _ => (hi E).bind fun _ _ => Lockstep.pure ?_
    rintro ⟨-, rfl⟩
    split <;> simp [sole_rename]
  · refine (hi E).bind fun _ _ => Lockstep.pure ?_
    rintro ⟨-, rfl⟩
    split <;> simp [sole_rename]
  · refine (hi E).bind fun _ _ => Lockstep.pure ?_
    rintro ⟨-, rfl⟩
    simp

theorem attempt_lockstep {r : α → α} {x₁ x₂ : Compile α} (hx : Lockstep ρ E r x₁ x₂) :
    Lockstep ρ E (Except.map r) (attempt x₁) (attempt x₂) := by
  intro s₁ s₂ paired
  have ends := hx s₁ s₂ paired
  simp only [run_attempt]
  cases run₁ : x₁.run s₁ <;> cases run₂ : x₂.run s₂ <;> rw [run₁, run₂] at ends <;>
    simp only [Ends] at ends ⊢
  · exact ⟨ends.1.weaken fun ⟨known, same⟩ => ⟨known, by rw [same]; rfl⟩, ends.2⟩
  · obtain ⟨rfl, paired', alike⟩ := ends
    exact ⟨paired'.weaken fun known => ⟨known, rfl⟩, alike⟩

end Steps

/-! ### What a static skeleton records -/

theorem refs_finishCall (callee : Code) (args : List (Option Code)) (defaults : List String)
    (defineAll : Bool) :
    (finishCall callee args defaults defineAll).refs =
      callee.refs ++ args.flatMap fun a => (a.map Code.refs).getD [] :=
  flatMap_finishCall Code.refs (fun _ => rfl) (fun callee args => Code.refs_call args callee) callee
    args defaults defineAll

theorem refs_sole {codes : List Code} {c : Code} (hc : c ∈ codes) {r : Ref} (hr : r ∈ c.refs) :
    r ∈ (Code.sole codes).refs := by
  unfold Code.sole
  split
  · simp_all
  · simp only [Code.refs_array, List.mem_flatMap]
    exact ⟨c, hc, hr⟩

theorem Node.eq_text_of_signature {n : Node} {t : String} (wf : n.wellFormed = true)
    (h : n.signature? = some (.text t)) : n = .text t := by
  cases n with
  | text v => cases h; rfl
  | slot => cases h
  | component => cases h
  | element =>
    obtain ⟨rfl, -⟩ := Node.wellFormed_element_iff.mp wf
    obtain ⟨-, _, -, h⟩ := elementSignature_eq_some h
    cases h
  | fragment =>
    obtain ⟨rfl, -⟩ := Node.wellFormed_fragment_iff.mp wf
    obtain ⟨_, -, h⟩ := fragmentSignature_eq_some h
    cases h

theorem refs_childrenCode {children : List Node} {sigs : List Signature}
    (wf : ∀ n ∈ children, n.wellFormed = true)
    (hsigs : List.Forall₂ (fun n s => n.signature? = some s) children sigs) {cf : Option Nat}
    {collapse : Bool} (read : (children.isEmpty || (collapse && loneText children)) = false)
    {codes : List Code} {c : Code} (hc : c ∈ codes) {r : Ref} (hr : r ∈ c.refs) :
    ∃ x ∈ Signature.childrenCode sigs cf collapse codes, r ∈ x.refs := by
  have inArray : r ∈ (Code.array codes).refs := by
    simp only [Code.refs_array, List.mem_flatMap]
    exact ⟨c, hc, hr⟩
  have inSole := refs_sole hc hr
  rcases hsigs with _ | ⟨hn, _ | ⟨_, _⟩⟩
  · simp at read
  · rename_i n sig
    cases sig with
    | text t =>
      obtain rfl := Node.eq_text_of_signature (wf n (by simp)) hn
      obtain rfl : collapse = false := by simpa [loneText] using read
      simp only [Signature.childrenCode, Bool.false_eq_true, if_false]
      exact ⟨_, rfl, by split <;> assumption⟩
    | _ => exact ⟨_, rfl, by split <;> assumption⟩
  · simp only [Signature.childrenCode]
    exact ⟨_, rfl, inArray⟩

theorem refs_code_element {tag : String} {flags : Nat} {cls key ref : Option Shape}
    {fields : List FieldShape} {children : List Signature} {m : Nat} (hmu : m ≠ ChildFlags.unknown)
    (o : Options) (site : Signature → Option Code) (hole : Nat → Code) {r : Ref}
    (hr : r = Ref.helper .createVNode ∨ ∃ x ∈ Signature.childrenCode children (some m)
      (Signature.collapses (some m) children)
      (Signature.codeList o site (shiftHoles hole (slotsOf [cls])) children), r ∈ x.refs) :
    r ∈ ((Signature.element tag flags cls fields key ref (some m) children).code o site hole).refs := by
  simp only [Signature.code]
  rw [if_neg (by simpa using hmu), refs_finishCall]
  rcases hr with rfl | ⟨x, hx, hr⟩
  · simp
  · simp only [List.mem_append, List.mem_flatMap]
    exact .inr ⟨some x, by simp [Option.mem_def.mp hx], by simpa using hr⟩

theorem refs_code_fragment {key : Option Shape} {cf : Option Nat} {children : List Signature}
    (o : Options) (site : Signature → Option Code) (hole : Nat → Code) {r : Ref}
    (hr : r = Ref.helper .createFragment ∨ ∃ x ∈ Signature.childrenCode children cf
      (Signature.collapses cf children) (Signature.codeList o site hole children), r ∈ x.refs) :
    r ∈ ((Signature.fragment key cf children).code o site hole).refs := by
  simp only [Signature.code]
  rw [refs_finishCall]
  rcases hr with rfl | ⟨x, hx, hr⟩
  · simp
  · simp only [List.mem_append, List.mem_flatMap]
    exact .inr ⟨some x, by simp [Option.mem_def.mp hx], by simpa using hr⟩

def RecordsOnly (P : Helper → Prop) {α : Type} (x : Compile α) : Prop :=
  ∀ s a t, x.run s = .ok a t → ∀ h ∈ t.used, h ∈ s.used ∨ P h

section RecordsOnly
variable {P Q : Helper → Prop}

theorem RecordsOnly.pure (a : α) : RecordsOnly P (Pure.pure a : Compile α) := by
  intro s a' t run h hh
  rw [EStateM.run_pure] at run
  cases run
  exact .inl hh

theorem RecordsOnly.bind_of {x : Compile α} {f : α → Compile β} {R : α → Prop}
    (hx : RecordsOnly P x) (post : ∀ s a t, x.run s = .ok a t → R a)
    (hf : ∀ a, R a → RecordsOnly P (f a)) : RecordsOnly P (x >>= f) := by
  intro s b u run h hh
  obtain ⟨a, t, first, rest⟩ := run_bind_eq_ok run
  rcases hf a (post s a t first) t b u rest h hh with earlier | allowed
  · exact hx s a t first h earlier
  · exact .inr allowed

theorem RecordsOnly.bind {x : Compile α} {f : α → Compile β} (hx : RecordsOnly P x)
    (hf : ∀ a, RecordsOnly P (f a)) : RecordsOnly P (x >>= f) :=
  hx.bind_of (R := fun _ => True) (fun _ _ _ _ => trivial) fun a _ => hf a

theorem RecordsOnly.mono {x : Compile α} (hx : RecordsOnly P x) (imp : ∀ h, P h → Q h) :
    RecordsOnly Q x :=
  fun s a t run h hh => (hx s a t run h hh).imp_right (imp h)

theorem RecordsOnly.ite {c : Prop} [Decidable c] {x y : Compile α} (hx : c → RecordsOnly P x)
    (hy : ¬c → RecordsOnly P y) : RecordsOnly P (if c then x else y) := by
  split
  · exact hx ‹_›
  · exact hy ‹_›

theorem useHelper_recordsOnly {h : Helper} (allowed : P h) : RecordsOnly P (useHelper h) := by
  intro s a t run h' hh
  obtain ⟨used, run', mem⟩ := run_useHelper_used h s
  rw [run'] at run
  cases run
  rcases (mem h').mp hh with old | rfl
  · exact .inl old
  · exact .inr allowed

theorem options_recordsOnly : RecordsOnly P options := by
  intro s a t run h hh
  rw [run_options] at run
  cases run
  exact .inl hh

theorem emitOptional_recordsOnly {t : Option Term} (lit : ∀ v ∈ t, ∃ l, v = .literal l) :
    RecordsOnly P (emitOptional t) := by
  rcases t with _ | v
  · exact RecordsOnly.pure _
  · obtain ⟨l, rfl⟩ := lit v rfl
    simp only [emitOptional, emitValue]
    exact RecordsOnly.ite (fun _ => RecordsOnly.pure _)
      fun _ => (RecordsOnly.pure _).bind fun _ => RecordsOnly.pure _

theorem emitFieldEntries_recordsOnly {fields : List Field}
    (lit : ∀ f ∈ fields, ∃ l, f.value = .literal l) : RecordsOnly P (emitFieldEntries fields) := by
  induction fields with
  | nil => exact RecordsOnly.pure _
  | cons f rest ih =>
    obtain ⟨name, category, value⟩ := f
    obtain ⟨l, rfl⟩ := lit (.mk name category value) (by simp)
    simp only [emitFieldEntries, emitValue, pure_bind]
    exact (ih fun f hf => lit f (by simp [hf])).bind fun _ => RecordsOnly.pure _

end RecordsOnly

section Skeleton
variable {o : Options} {scope : Scope}

mutual
theorem skeleton_recordsOnly : ∀ (n : Node) {sig : Signature} (hole : Nat → Code),
    n.wellFormed = true → n.signature? = some sig → sig.isStatic = true →
      RecordsOnly (fun h => Ref.helper h ∈ (sig.code o (fun _ => none) hole).refs)
        (emitDirect scope .skeleton n)
  | .element tag flags cls fields key ref children cf normC collapse normP s, sig, hole, wf, hsig,
      static => by
    obtain ⟨rfl, rfl, rfl, -, -, -, -, wfc, -⟩ := Node.wellFormed_element_iff.mp wf
    obtain ⟨hnormP, sigs, hsigs, rfl⟩ := elementSignature_eq_some hsig
    obtain ⟨hslots, hfields, ⟨m, hm, hmu⟩, hcount, hnorm⟩ := Signature.isStatic_element_iff.mp static
    obtain ⟨hcls, hkey, href⟩ := slotsOf_triple_eq_zero.mp (by simpa using hslots)
    obtain rfl : cf = .known m := by cases cf <;> simp_all [ChildFlagValue.known?]
    have items := skeletons_recordsOnly children (shiftHoles hole (slotsOf [cls.map Term.shape])) wfc
      hsigs (Signature.allStatic_iff.mp ⟨hcount, hnorm⟩)
    have named := fun {r : Ref} => @refs_code_element tag flags (cls.map Term.shape)
      (key.map Term.shape) (ref.map Term.shape) (fields.map Field.shape) sigs m hmu o (fun _ => none)
      hole r
    simp only [emitDirect, ChildFlagValue.known?, beq_iff_eq, Option.some.injEq, hmu,
      Bool.false_eq_true, if_false, hnormP, wrapIf, pure_bind]
    refine (useHelper_recordsOnly (named (.inl rfl))).bind fun _ =>
      (emitOptional_recordsOnly (literal_of_slotsOf hcls)).bind fun _ => ?_
    rw [childrenArg_eq wfc hsigs]
    refine (RecordsOnly.ite (fun _ => RecordsOnly.pure _) fun read => ?_).bind fun _ => ?_
    · rw [map_eq_pure_bind]
      refine (items.mono fun h ⟨c, hc, hh⟩ => named (.inr ?_)).bind fun _ => RecordsOnly.pure _
      have same := collapses_eq_signature hsigs wfc (.known m)
      simp only [ChildFlagValue.known?] at same
      rw [← same]
      exact refs_childrenCode wfc hsigs (Bool.eq_false_iff.mpr read) hc hh
    · exact (RecordsOnly.pure _).bind fun _ =>
        (emitFieldEntries_recordsOnly (literal_of_fieldShapes hfields)).bind fun _ =>
          (emitOptional_recordsOnly (literal_of_slotsOf hkey)).bind fun _ =>
            (emitOptional_recordsOnly (literal_of_slotsOf href)).bind fun _ =>
              options_recordsOnly.bind fun _ => RecordsOnly.pure _
  | .fragment key children cf normC collapse s, sig, hole, wf, hsig, static => by
    obtain ⟨rfl, rfl, -, wfc, -⟩ := Node.wellFormed_fragment_iff.mp wf
    obtain ⟨sigs, hsigs, rfl⟩ := fragmentSignature_eq_some hsig
    obtain ⟨hkey, ⟨m, hm, hmu⟩, hcount, hnorm⟩ := Signature.isStatic_fragment_iff.mp static
    have items := skeletons_recordsOnly children hole wfc hsigs
      (Signature.allStatic_iff.mp ⟨hcount, hnorm⟩)
    have named := fun {r : Ref} => @refs_code_fragment (key.map Term.shape)
      (if sigs.isEmpty then some ChildFlags.none else cf.known?) sigs o (fun _ => none) hole r
    have empty : children.isEmpty = sigs.isEmpty := by
      cases hsigs <;> rfl
    simp only [emitDirect]
    refine (useHelper_recordsOnly (named (.inl rfl))).bind fun _ => ?_
    refine RecordsOnly.bind_of ?_ (childrenArg_isNone children cf _ _) fun chArg absent => ?_
    · rw [childrenArg_eq wfc hsigs]
      refine RecordsOnly.ite (fun _ => RecordsOnly.pure _) fun read => ?_
      rw [map_eq_pure_bind]
      refine (items.mono fun h ⟨c, hc, hh⟩ => named (.inr ?_)).bind fun _ => RecordsOnly.pure _
      have present : sigs.isEmpty = false := by
        simpa [← empty] using (Bool.or_eq_false_iff.mp (Bool.eq_false_iff.mpr read)).1
      simp only [present, Bool.false_eq_true, if_false]
      rw [← collapses_eq_signature hsigs wfc cf]
      exact refs_childrenCode wfc hsigs (Bool.eq_false_iff.mpr read) hc hh
    · refine RecordsOnly.ite (fun _ => (RecordsOnly.pure _).bind fun _ =>
        (emitOptional_recordsOnly (literal_of_slotsOf hkey)).bind fun _ =>
          options_recordsOnly.bind fun _ => RecordsOnly.pure _) fun some => ?_
      have present : sigs.isEmpty = false := by
        rw [← empty, ← absent]
        exact Bool.eq_false_iff.mpr some
      obtain rfl : cf = .known m := by
        cases cf <;> simp_all [ChildFlagValue.known?]
      exact (RecordsOnly.pure _).bind fun _ =>
        (emitOptional_recordsOnly (literal_of_slotsOf hkey)).bind fun _ =>
          options_recordsOnly.bind fun _ => RecordsOnly.pure _
  | .text value, sig, hole, _, hsig, _ => by
    cases hsig
    simp only [emitDirect]
    exact (useHelper_recordsOnly (by simp [Signature.code])).bind fun _ => RecordsOnly.pure _
  | .slot _, sig, _, _, hsig, static => by
    cases hsig
    simp [Signature.isStatic, Signature.slotCount] at static
  | .component .., _, _, _, hsig, _ => by cases hsig

theorem skeletons_recordsOnly : ∀ (ns : List Node) {sigs : List Signature} (hole : Nat → Code),
    (∀ n ∈ ns, n.wellFormed = true) → List.Forall₂ (fun n s => n.signature? = some s) ns sigs →
      (∀ s ∈ sigs, s.isStatic = true) →
        RecordsOnly (fun h => ∃ c ∈ Signature.codeList o (fun _ => none) hole sigs,
          Ref.helper h ∈ c.refs) (emitNodes scope .skeleton ns)
  | [], [], _, _, .nil, _ => RecordsOnly.pure _
  | n :: rest, sig :: sigs, hole, wf, .cons hn hrest, static => by
    have first := skeleton_recordsOnly n hole (wf n (by simp)) hn (static sig (by simp))
    have more := skeletons_recordsOnly rest (shiftHoles hole sig.slotCount)
      (fun m hm => wf m (by simp [hm])) hrest fun s hs => static s (by simp [hs])
    have head : Signature.codeList o (fun _ => none) hole (sig :: sigs) =
        sig.code o (fun _ => none) hole ::
          Signature.codeList o (fun _ => none) (shiftHoles hole sig.slotCount) sigs := by
      simp [Signature.codeList]
    simp only [emitNodes, hoisted_skeleton, bind_assoc]
    rw [head]
    exact options_recordsOnly.bind fun _ =>
      (first.mono fun h hh => ⟨_, List.mem_cons_self, hh⟩).bind fun _ =>
        (more.mono fun h ⟨c, hc, hh⟩ => ⟨c, List.mem_cons_of_mem _ hc, hh⟩).bind fun _ =>
          RecordsOnly.pure _
end

/-- A static node built in place gives the code of its signature, records exactly the helpers
that code names, and ends in a state that declares it. -/
theorem skeleton_effect {n : Node} {sig : Signature} (wf : n.wellFormed = true)
    (hsig : n.signature? = some sig) (static : sig.isStatic = true) (s : Context) :
    ∃ used, (emitDirect scope .skeleton n).run s =
        .ok (sig.code s.options (fun _ => none) .param) { s with used } ∧
      (∀ h, h ∈ used ↔ h ∈ s.used ∨ Ref.helper h ∈ (sig.code s.options (fun _ => none) .param).refs) ∧
      ({ s with used } : Context).Declares (sig.code s.options (fun _ => none) .param) := by
  obtain ⟨U, hU⟩ := @skeleton_records s.options scope n sig .param wf hsig static
  let s₀ : Context := { options := s.options, used := s.used }
  have closed : s₀.Closed := ⟨⟨[], by simp [s₀], by simp⟩, by simp [s₀], by simp [s₀]⟩
  have outcome := emit_yields.1 scope .skeleton n wf [] s₀ closed (by simp)
  rw [hU s₀ rfl] at outcome
  have declared : ({ s with used := U s.used } : Context).Declares
      (sig.code s.options (fun _ => none) .param) :=
    (outcome.2 _ (by simp)).mono (by simp [s₀]) (List.Subset.refl _)
  have grown : s.used ⊆ U s.used := by
    have step := (emit_grows.1 scope .skeleton n).run s
    rw [hU s rfl] at step
    exact step.used
  refine ⟨U s.used, hU s rfl, fun h => ⟨fun hh =>
    skeleton_recordsOnly n .param wf hsig static s _ _ (hU s rfl) h hh, ?_⟩, declared⟩
  rintro (old | named)
  · exact grown old
  · exact declared _ named

end Skeleton

/-! ### Sites -/

section Sites
variable {ρ : Nat → Nat} {E : Prop} {scope : Scope}

theorem cachedSite_side {n : Node} {sig : Signature} (wf : n.wellFormed = true)
    (hsig : n.hoistSignature? = some sig) (static : sig.isStatic = true) {s : Context}
    (settled : s.Settled) :
    ∃ id t, (cachedSite sig (emitDirect scope .skeleton n)).run s =
        .ok (.cached id (sig.code s.options (fun _ => none) .param)) t ∧
      t.Settled ∧ s.Grows t ∧ t.params = s.params ∧
      (∃ b ∈ t.blueprints, b.signature = sig ∧ b.id = id) ∧
      (∀ x, x ∈ t.signatures ↔ x ∈ s.signatures ∨ x = sig) ∧
      ∀ h, h ∈ t.used ↔ h ∈ s.used ∨
        Ref.helper h ∈ (sig.code s.options (fun _ => none) .param).refs := by
  have signature := Node.signature_of_hoistSignature hsig
  obtain ⟨used, built, mem, declared⟩ := @skeleton_effect scope _ _ wf signature static s
  have grown : s.used ⊆ used := fun h hh => (mem h).mpr (.inl hh)
  rw [run_cachedSite]
  cases found : s.lookup sig with
  | some b =>
    obtain ⟨held, named⟩ := Context.lookup_some found
    obtain ⟨skeleton, names⟩ := settled b held (named ▸ static)
    rw [named] at skeleton
    refine ⟨b.id, s, by dsimp only; rw [skeleton], settled, .refl s, rfl, ⟨b, held, named, rfl⟩,
      fun x => ⟨.inl, ?_⟩, fun h => ⟨.inl, ?_⟩⟩
    · rintro (old | rfl)
      · exact old
      · exact List.mem_map.mpr ⟨b, held, named⟩
    · rintro (old | hh)
      · exact old
      · exact names _ (skeleton ▸ hh)
  | none =>
    rw [built]
    simp only [Context.lookup_with_used, found]
    refine ⟨s.blueprints.length, _, rfl, (settled.withUsed grown).snoc fun _ => ⟨rfl, declared⟩,
      (Context.Grows.withUsed grown).trans (.snoc _ _ _ found), rfl,
      ⟨_, List.mem_append_right _ (List.mem_singleton_self _), rfl, rfl⟩, fun x => ?_, mem⟩
    simp [Context.signatures]

theorem cachedSite_lockstep {n : Node} {sig : Signature} (wf : n.wellFormed = true)
    (hsig : n.hoistSignature? = some sig) (static : sig.isStatic = true) :
    Lockstep ρ E (Code.rename ρ) (cachedSite sig (emitDirect scope .skeleton n))
      (cachedSite sig (emitDirect scope .skeleton n)) := by
  intro s₁ s₂ paired
  obtain ⟨id₁, t₁, run₁, settled₁, grows₁, params₁, ⟨b₁, held₁, named₁, rfl⟩, sigs₁, used₁⟩ :=
    @cachedSite_side scope _ _ wf hsig static _ paired.settled₁
  obtain ⟨id₂, t₂, run₂, settled₂, grows₂, params₂, ⟨b₂, held₂, named₂, rfl⟩, sigs₂, used₂⟩ :=
    @cachedSite_side scope _ _ wf hsig static _ paired.settled₂
  rw [paired.options] at run₂ used₂
  rw [run₁, run₂]
  simp only [Ends]
  refine ⟨⟨settled₁, settled₂, by rw [grows₁.options, grows₂.options, paired.options],
    fun aligned => ?_⟩, ⟨grows₁, grows₂, fun x => ?_, fun h => ?_⟩⟩
  · obtain ⟨e, params⟩ := paired.aligned (aligned.mono grows₁.earlier.subset grows₂.earlier.subset)
    refine ⟨⟨e, ?_⟩, by rw [params₁, params₂, params]⟩
    simp [aligned b₁ held₁ b₂ held₂ (named₁.trans named₂.symm)]
  · rw [sigs₁, sigs₂]
    tauto
  · rw [used₁, used₂]
    tauto

theorem templateSite_side {sig : Signature} (dynamic : sig.isStatic = false)
    {build : Compile Code} {s s' : Context} {body : Code}
    (run : build.run { s with params := some [] } = .ok body s') (settled : s'.Settled) :
    ∃ id t, (templateSite sig build).run s = .ok (.template id (s'.params.getD [])) t ∧
      t.Settled ∧ ({ s' with params := s.params } : Context).Grows t ∧ t.params = s.params ∧
      t.used = s'.used ∧ (∃ b ∈ t.blueprints, b.signature = sig ∧ b.id = id) ∧
      ∀ x, x ∈ t.signatures ↔ x ∈ s'.signatures ∨ x = sig := by
  rw [run_templateSite, run]
  dsimp only
  cases found : ({ s' with params := s.params } : Context).lookup sig with
  | some b =>
    obtain ⟨held, named⟩ := Context.lookup_some found
    refine ⟨b.id, _, rfl, settled.withParams _, .refl _, rfl, rfl, ⟨b, held, named, rfl⟩,
      fun x => ⟨.inl, ?_⟩⟩
    rintro (old | rfl)
    · exact old
    · exact List.mem_map.mpr ⟨b, held, named⟩
  | none =>
    refine ⟨_, _, rfl, (settled.withParams _).snoc fun static => by simp [dynamic] at static,
      .snoc _ _ _ found, rfl, rfl, ⟨_, List.mem_append_right _ (List.mem_singleton_self _), rfl, rfl⟩,
      fun x => ?_⟩
    simp [Context.signatures]

theorem templateSite_lockstep {sig : Signature} (dynamic : sig.isStatic = false)
    {build : Compile Code} (hb : Lockstep ρ E (Code.rename ρ) build build) :
    Lockstep ρ E (Code.rename ρ) (templateSite sig build) (templateSite sig build) := by
  intro s₁ s₂ paired
  have inner := hb _ _ paired.begin
  cases run₁ : build.run { s₁ with params := some [] } with
  | ok body₁ s₁' =>
    cases run₂ : build.run { s₂ with params := some [] } with
    | ok body₂ s₂' =>
      rw [run₁, run₂] at inner
      simp only [Ends] at inner
      obtain ⟨built, alike⟩ := inner
      obtain ⟨id₁, t₁, site₁, settled₁, grows₁, params₁, used₁, ⟨b₁, held₁, named₁, rfl⟩, sigs₁⟩ :=
        templateSite_side dynamic run₁ built.settled₁
      obtain ⟨id₂, t₂, site₂, settled₂, grows₂, params₂, used₂, ⟨b₂, held₂, named₂, rfl⟩, sigs₂⟩ :=
        templateSite_side dynamic run₂ built.settled₂
      rw [site₁, site₂]
      simp only [Ends]
      refine ⟨⟨settled₁, settled₂, by rw [grows₁.options, grows₂.options]; exact built.options,
        fun aligned => ?_⟩, alike.restore.trans ⟨grows₁, grows₂, fun x => ?_, fun h => ?_⟩⟩
      · have later := aligned.mono grows₁.earlier.subset grows₂.earlier.subset
        obtain ⟨⟨e, -⟩, args⟩ := built.aligned later
        have before := (paired.aligned
          (later.mono alike.grows₁.earlier.subset alike.grows₂.earlier.subset)).2
        refine ⟨⟨e, ?_⟩, by rw [params₁, params₂, before]⟩
        rw [args, Code.rename_template, aligned b₁ held₁ b₂ held₂ (named₁.trans named₂.symm)]
        cases s₁'.params <;> simp
      · rw [sigs₁, sigs₂, Context.signatures_withParams, Context.signatures_withParams]
        tauto
      · rw [used₁, used₂]
        tauto
    | error e₂ s₂' =>
      rw [run₁, run₂] at inner
      simp only [Ends] at inner
  | error e₁ s₁' =>
    cases run₂ : build.run { s₂ with params := some [] } with
    | ok body₂ s₂' =>
      rw [run₁, run₂] at inner
      simp only [Ends] at inner
    | error e₂ s₂' =>
      rw [run₁, run₂] at inner
      simp only [Ends] at inner
      rw [run_templateSite, run_templateSite, run₁, run₂]
      simp only [Ends]
      exact ⟨inner.1, paired.restore inner.2.2 inner.2.1, inner.2.2.restore⟩

theorem hoisted_lockstep (nesting : Nesting) {n : Node} (wf : n.wellFormed = true)
    (direct : ∀ nest E, Lockstep ρ E (Code.rename ρ) (emitDirect scope nest n)
      (emitDirect scope nest n)) :
    Lockstep ρ E (Code.rename ρ) (hoisted scope nesting n fun nest => emitDirect scope nest n)
      (hoisted scope nesting n fun nest => emitDirect scope nest n) := by
  refine Lockstep.options_bind fun o => ?_
  dsimp only
  split
  · rename_i sig hsig
    exact Lockstep.ite (fun _ => Lockstep.ite (fun static => cachedSite_lockstep wf hsig static)
      fun dynamic => Lockstep.ite
        (fun _ => templateSite_lockstep (Bool.eq_false_iff.mpr dynamic) (direct .template E))
        fun _ => direct nesting E) fun _ => direct nesting E
  · exact direct nesting E

theorem rooted_lockstep {n : Node} (wf : n.wellFormed = true)
    (direct : ∀ nest E, Lockstep ρ E (Code.rename ρ) (emitDirect scope nest n)
      (emitDirect scope nest n)) :
    Lockstep ρ E (Code.rename ρ) (rooted scope n fun nest => emitDirect scope nest n)
      (rooted scope n fun nest => emitDirect scope nest n) := by
  refine Lockstep.options_bind fun _ => (hoisted_lockstep .site wf direct).bind fun _ _ =>
    Lockstep.pure ?_
  rintro ⟨-, rfl⟩
  split <;> simp

end Sites

/-! ### Every emission runs in lockstep -/

/-- Every emission of a classified node runs in lockstep under any renaming, knowing anything.
The induction follows the emitter's own recursion, one `Lockstep.bind` per statement of each `do`
block; the code a case assembles is the renamed code because its parts are. -/
theorem emit_lockstep (ρ : Nat → Nat) :
    (∀ scope nesting n, n.wellFormed = true → ∀ E,
      Lockstep ρ E (Code.rename ρ) (emitDirect scope nesting n) (emitDirect scope nesting n)) ∧
    (∀ v, v.wellFormed = true → ∀ E, Lockstep ρ E (Code.rename ρ) (emitParam v) (emitParam v)) ∧
    (∀ pieces, Piece.allWellFormed pieces = true → ∀ E,
      Lockstep ρ E (List.map (Code.rename ρ)) (emitPieces pieces) (emitPieces pieces)) ∧
    (∀ scope nodes, (∀ n ∈ nodes, n.wellFormed = true) → ∀ E,
      Lockstep ρ E (List.map (Code.rename ρ)) (emitComponentChildren scope nodes)
        (emitComponentChildren scope nodes)) ∧
    (∀ cf, cf.wellFormed = true → ∀ E,
      Lockstep ρ E (Option.map (Code.rename ρ)) (emitChildFlags cf) (emitChildFlags cf)) ∧
    (∀ scope nesting nodes, (∀ n ∈ nodes, n.wellFormed = true) → ∀ E,
      Lockstep ρ E (List.map (Code.rename ρ)) (emitNodes scope nesting nodes)
        (emitNodes scope nesting nodes)) ∧
    (∀ fields, (∀ f ∈ fields, f.value.wellFormed = true) → ∀ E,
      Lockstep ρ E (List.map (Code.rename ρ)) (emitFieldEntries fields) (emitFieldEntries fields)) ∧
    (∀ v, v.wellFormed = true → ∀ E, Lockstep ρ E (Code.rename ρ) (emitValue v) (emitValue v)) ∧
    (∀ o, (∀ t ∈ o, t.wellFormed = true) → ∀ E,
      Lockstep ρ E (Option.map (Code.rename ρ)) (emitOptional o) (emitOptional o)) := by
  refine emitDirect.mutual_induct
    (fun scope nesting n => n.wellFormed = true → ∀ E,
      Lockstep ρ E (Code.rename ρ) (emitDirect scope nesting n) (emitDirect scope nesting n))
    (fun v => v.wellFormed = true → ∀ E, Lockstep ρ E (Code.rename ρ) (emitParam v) (emitParam v))
    (fun pieces => Piece.allWellFormed pieces = true → ∀ E,
      Lockstep ρ E (List.map (Code.rename ρ)) (emitPieces pieces) (emitPieces pieces))
    (fun scope nodes => (∀ n ∈ nodes, n.wellFormed = true) → ∀ E,
      Lockstep ρ E (List.map (Code.rename ρ)) (emitComponentChildren scope nodes)
        (emitComponentChildren scope nodes))
    (fun cf => cf.wellFormed = true → ∀ E,
      Lockstep ρ E (Option.map (Code.rename ρ)) (emitChildFlags cf) (emitChildFlags cf))
    (fun scope nesting nodes => (∀ n ∈ nodes, n.wellFormed = true) → ∀ E,
      Lockstep ρ E (List.map (Code.rename ρ)) (emitNodes scope nesting nodes)
        (emitNodes scope nesting nodes))
    (fun fields => (∀ f ∈ fields, f.value.wellFormed = true) → ∀ E,
      Lockstep ρ E (List.map (Code.rename ρ)) (emitFieldEntries fields) (emitFieldEntries fields))
    (fun v => v.wellFormed = true → ∀ E, Lockstep ρ E (Code.rename ρ) (emitValue v) (emitValue v))
    (fun o => (∀ t ∈ o, t.wellFormed = true) → ∀ E,
      Lockstep ρ E (Option.map (Code.rename ρ)) (emitOptional o) (emitOptional o))
    ?_ ?_ ?_ ?_ ?_ ?_ ?_ ?_ ?_ ?_ ?_ ?_ ?_ ?_ ?_ ?_ ?_ ?_ ?_ ?_ ?_ ?_ ?_ ?_ ?_
  · intro l _ E
    exact bindParam_lockstep fun _ => rfl
  · intro pieces ih wf E
    refine (suspended_lockstep (ih (by simpa [Term.wellFormed] using wf) E)).bind fun _ _ =>
      bindParam_lockstep ?_
    rintro ⟨-, rfl⟩
    simp
  · intro l _ E
    exact Lockstep.pure fun _ => rfl
  · intro pieces ih wf E
    refine (suspended_lockstep (ih (by simpa [Term.wellFormed] using wf) E)).bind fun _ _ =>
      bindParam_lockstep ?_
    rintro ⟨-, rfl⟩
    simp
  · intro f _ E
    exact Lockstep.pure fun _ => by split <;> rfl
  · intro v ih wf E
    refine (ih (by simpa [ChildFlagValue.wellFormed] using wf) E).bind fun _ _ => Lockstep.pure ?_
    rintro ⟨-, rfl⟩
    rfl
  · intro scope nesting tag flags cls fields key ref children cf normC collapse normP sig
      hcls hfields hkey href hchildren hcf wf E
    obtain ⟨-, -, -, wcls, wfields, wkey, wref, wchildren, wcf⟩ := Node.wellFormed_element_iff.mp wf
    cases normC <;> simp only [emitDirect, Bool.false_eq_true, if_false, if_true]
    · -- children passed as they are
      refine (useHelper_lockstep _).bind fun _ _ => (hcls wcls _).bind fun _ _ => ?_
      refine (childrenArg_lockstep _ _ _ (hchildren wchildren)).bind fun _ _ =>
        (hcf wcf _).bind fun _ _ => ?_
      refine (hfields wfields _).bind fun _ _ => (hkey wkey _).bind fun _ _ =>
        (href wref _).bind fun _ _ => ?_
      refine Lockstep.options_bind fun _ => (Lockstep.pure ?_).bind fun _ _ =>
        wrapIf_lockstep _ _ fun known => known.2
      rintro ⟨⟨⟨⟨⟨⟨⟨-, rfl⟩, rfl⟩, rfl⟩, rfl⟩, rfl⟩, rfl⟩, rfl⟩
      simp [finishCall_rename, propsObject_rename]
    · -- children normalised by the runtime, passed last
      refine (useHelper_lockstep _).bind fun _ _ => (hcls wcls _).bind fun _ _ => ?_
      refine Lockstep.none.bind fun _ _ => Lockstep.none.bind fun _ _ => ?_
      refine (hfields wfields _).bind fun _ _ => (hkey wkey _).bind fun _ _ =>
        (href wref _).bind fun _ _ => ?_
      refine Lockstep.options_bind fun _ => (hchildren wchildren _).bind fun _ _ => ?_
      refine (useHelper_lockstep _).bind fun _ _ => (Lockstep.pure ?_).bind fun _ _ =>
        wrapIf_lockstep _ _ fun known => known.2
      rintro ⟨⟨⟨⟨⟨⟨⟨⟨⟨-, rfl⟩, rfl⟩, rfl⟩, rfl⟩, rfl⟩, rfl⟩, rfl⟩, rfl⟩, rfl⟩
      simp [finishCall_rename, propsObject_rename, apply_ite, sole_rename]
  · intro scope nesting tag flags fields key ref hooks children normP hchildren hfields hkey href
      hhooks wf E
    obtain ⟨-, wfields, wkey, wref, whooks, wchildren⟩ := Node.wellFormed_component_iff.mp wf
    refine (useHelper_lockstep _).bind fun _ _ => (hchildren wchildren _).bind fun items₁ _ => ?_
    refine (hfields wfields _).bind fun _ _ => (hkey wkey _).bind fun _ _ => ?_
    dsimp only
    refine Lockstep.ite (fun _ => ?_) fun _ => ?_
    · refine (href wref _).bind fun _ _ => Lockstep.options_bind fun _ =>
        wrapIf_lockstep _ _ ?_
      rintro ⟨⟨⟨⟨⟨-, rfl⟩, rfl⟩, rfl⟩, rfl⟩, rfl⟩
      rcases items₁ with _ | ⟨a, _ | ⟨b, rest⟩⟩ <;> simp [finishCall_rename, propsObject_rename]
    · refine (hhooks whooks _).bind fun _ _ =>
        (Lockstep.pure ?_ : Lockstep ρ _ (Option.map (Code.rename ρ)) _ _).bind fun _ _ =>
          Lockstep.options_bind fun _ => wrapIf_lockstep _ _ ?_
      · rintro ⟨-, rfl⟩
        simp [propsObject_rename]
      · rintro ⟨⟨⟨⟨⟨⟨-, rfl⟩, rfl⟩, rfl⟩, rfl⟩, -⟩, rfl⟩
        rcases items₁ with _ | ⟨a, _ | ⟨b, rest⟩⟩ <;> simp [finishCall_rename, propsObject_rename]
  · intro scope nesting key children cf normC collapse sig hchildren hkey hcf wf E
    obtain ⟨-, -, wkey, wchildren, wcf⟩ := Node.wellFormed_fragment_iff.mp wf
    refine (useHelper_lockstep _).bind fun _ _ => ?_
    refine (childrenArg_lockstep _ _ _ (hchildren wchildren)).bind_of
      (childrenArg_isNone _ _ _ _) (childrenArg_isNone _ _ _ _) fun ch₁ ch₂ absent₁ absent₂ => ?_
    have same : ch₂.isNone = ch₁.isNone := absent₂.trans absent₁.symm
    dsimp only
    rw [same]
    refine Lockstep.ite (fun _ => Lockstep.none.bind fun _ _ =>
      (hkey wkey _).bind fun _ _ => Lockstep.options_bind fun _ => Lockstep.pure ?_)
      fun _ => (hcf wcf _).bind fun _ _ => (hkey wkey _).bind fun _ _ =>
        Lockstep.options_bind fun _ => Lockstep.pure ?_
    · rintro ⟨⟨⟨⟨-, rfl⟩, rfl⟩, rfl⟩, rfl⟩
      simp [finishCall_rename]
    · rintro ⟨⟨⟨⟨-, rfl⟩, rfl⟩, rfl⟩, rfl⟩
      simp [finishCall_rename]
  · intro scope nesting value _ E
    refine (useHelper_lockstep _).bind fun _ _ => Lockstep.pure ?_
    rintro ⟨-, rfl⟩
    simp
  · intro scope nesting v ih wf E
    exact ih (by simpa [Node.wellFormed] using wf) E
  · intro _ E
    exact Lockstep.pure fun _ => rfl
  · intro code rest ih wf E
    refine (ih (by simpa [Piece.allWellFormed] using wf) E).bind fun _ _ => Lockstep.pure ?_
    rintro ⟨-, rfl⟩
    simp
  · intro e scope tail _ E
    exact Lockstep.throw e
  · intro n scope rest ihn ih wf E
    simp only [Piece.allWellFormed, Bool.and_eq_true] at wf
    refine (rooted_lockstep wf.1 fun nest => ihn nest wf.1).bind fun _ _ =>
      (ih wf.2 _).bind fun _ _ => Lockstep.pure ?_
    rintro ⟨⟨-, rfl⟩, rfl⟩
    simp
  · intro v nullish _ E
    simp only [emitOptional, nullish, if_true]
    exact Lockstep.pure fun _ => rfl
  · intro v present ih wf E
    simp only [emitOptional, present]
    refine (ih (wf v rfl) E).bind fun _ _ => Lockstep.pure ?_
    rintro ⟨-, rfl⟩
    rfl
  · intro _ E
    exact Lockstep.pure fun _ => rfl
  · intro _ E
    exact Lockstep.pure fun _ => rfl
  · intro name category value rest ihv ih wf E
    refine (ihv (wf (.mk name category value) (by simp)) E).bind fun _ _ =>
      (ih (fun f hf => wf f (by simp [hf])) _).bind fun _ _ => Lockstep.pure ?_
    rintro ⟨⟨-, rfl⟩, rfl⟩
    split <;> simp
  · intro scope _ E
    exact Lockstep.pure fun _ => rfl
  · intro scope rest t ih wf E
    refine (Lockstep.pure fun _ => rfl : Lockstep ρ E (Code.rename ρ) _ _).bind fun _ _ =>
      (ih (fun n hn => wf n (by simp [hn])) _).bind fun _ _ => Lockstep.pure ?_
    rintro ⟨⟨-, rfl⟩, rfl⟩
    simp
  · intro scope n rest notText ih ihn wf E
    simp only [emitComponentChildren]
    refine (hoisted_lockstep .site (wf n (by simp)) fun nest => ihn nest (wf n (by simp))).bind
      fun _ _ => (ih (fun m hm => wf m (by simp [hm])) _).bind fun _ _ => Lockstep.pure ?_
    rintro ⟨⟨-, rfl⟩, rfl⟩
    simp
  · intro scope nesting _ E
    exact Lockstep.pure fun _ => rfl
  · intro scope nesting n rest ihn ih wf E
    refine (hoisted_lockstep nesting (wf n (by simp)) fun nest => ihn nest (wf n (by simp))).bind
      fun _ _ => (ih (fun m hm => wf m (by simp [hm])) _).bind fun _ _ => Lockstep.pure ?_
    rintro ⟨⟨-, rfl⟩, rfl⟩
    simp

theorem tree_lockstep {ρ : Nat → Nat} {E : Prop} (t : Tree) (scope : Scope) :
    Lockstep ρ E (Code.rename ρ) (Compile.tree t scope) (Compile.tree t scope) := by
  have classified : ∀ s n s', (ofExcept (classify t)).run s = .ok n s' → classify t = .ok n := by
    intro s n s' run
    rw [run_ofExcept] at run
    split at run <;> simp_all
  refine (ofExcept_lockstep (classify t)).bind_of classified classified fun n₁ n₂ h₁ h₂ => ?_
  obtain rfl : n₁ = n₂ := Except.ok.inj (h₁.symm.trans h₂)
  have wf := classify_wellFormed.1 t n₁ h₁
  exact rooted_lockstep wf fun nest _ => (emit_lockstep ρ).1 scope nest n₁ wf _

end Compile

end JsxVNode
