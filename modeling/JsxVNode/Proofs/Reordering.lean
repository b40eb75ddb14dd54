import JsxVNode.Proofs.Lockstep
/-!
Compiling a file's trees in any order. Steps share the compilation state only through the
blueprint table and the helpers recorded as used, and both are shared up to the order in which
things were added: a step that finds a blueprint gives the code of the step that built it, under
the id the table gave it. So any two orders of the same steps give, under one bijective renaming
of blueprint ids, the same outcome for every step and the same declarations: the same helpers
line, and the same blueprints with their ids and template bodies renamed. The renaming matches
the two final tables by signature.

From any state between steps, a step adds to the signatures and used helpers exactly what it adds
to a fresh state, its footprint; a run of steps ends with the union of its steps' footprints,
which does not depend on their order.
-/
namespace JsxVNode

namespace Context

/-- A state between two steps of a file compiled under `o`: no template is being built, and its
table is numbered, complete and settled. -/
structure Between (o : Options) (s : Context) : Prop where
  options : s.options = o
  idle : s.params = none
  numbered : Numbered s.blueprints
  sound : s.Sound
  settled : s.Settled

@[simp] theorem signatures_ofOptions (o : Options) : (ofOptions o).signatures = [] := rfl

@[simp] theorem used_ofOptions (o : Options) : (ofOptions o).used = [] := rfl

theorem between_ofOptions (o : Options) : (ofOptions o).Between o :=
  ⟨rfl, rfl, by simp [Numbered, ofOptions], ⟨[], by simp [ofOptions], by simp⟩,
    by simp [Settled, ofOptions]⟩

theorem Between.paired {o : Options} {s₁ s₂ : Context} (h₁ : s₁.Between o) (h₂ : s₂.Between o)
    (ρ : Nat → Nat) : s₁.Paired ρ True s₂ :=
  ⟨h₁.settled, h₂.settled, h₂.options.trans h₁.options.symm,
    fun _ => ⟨trivial, by rw [h₁.idle, h₂.idle]; rfl⟩⟩

theorem declarations_blueprints (s : Context) : s.declarations.blueprints = s.blueprints := rfl

theorem declarations_helpers_congr {s₁ s₂ : Context} (used : ∀ h, h ∈ s₁.used ↔ h ∈ s₂.used)
    (options : s₁.options = s₂.options) (bound : s₁.bound = s₂.bound) :
    s₁.declarations.helpers = s₂.declarations.helpers := by
  have filtered : Helper.all.filter s₁.used.contains = Helper.all.filter s₂.used.contains :=
    List.filter_congr fun h _ => by simp [used h]
  simp only [declarations, filtered, options, bound]

end Context

namespace Compile

def footprint (o : Options) (step : Tree × Scope) : Context :=
  final ((attempt (tree step.1 step.2)).run (Context.ofOptions o))

theorem attempt_ok {α : Type} (x : Compile α) (s : Context) :
    ∃ a t, (attempt x).run s = .ok a t := by
  rw [run_attempt]
  cases x.run s <;> simp

theorem final_attempt {α : Type} (x : Compile α) (s : Context) :
    final ((attempt x).run s) = final (x.run s) := by
  rw [run_attempt]
  cases x.run s <;> rfl

section Step
variable {o : Options} {s s₁ s₂ s' : Context} {t : Tree} {scope : Scope}
  {a : Except CompileError Code}

/-- One step from two states between steps: both succeed and grow their states alike, and their
outcomes correspond under any renaming aligned with the tables they reach. -/
theorem step_alike (h₁ : s₁.Between o) (h₂ : s₂.Between o) (ρ : Nat → Nat) (t : Tree)
    (scope : Scope) :
    ∃ a₁ t₁ a₂ t₂, (attempt (tree t scope)).run s₁ = .ok a₁ t₁ ∧
      (attempt (tree t scope)).run s₂ = .ok a₂ t₂ ∧
      t₁.Paired ρ (a₂ = a₁.map (Code.rename ρ)) t₂ ∧ Context.GrowAlike s₁ s₂ t₁ t₂ := by
  have ends := attempt_lockstep (tree_lockstep t scope) s₁ s₂ (h₁.paired h₂ ρ)
  obtain ⟨a₁, t₁, run₁⟩ := attempt_ok (tree t scope) s₁
  obtain ⟨a₂, t₂, run₂⟩ := attempt_ok (tree t scope) s₂
  rw [run₁, run₂] at ends
  exact ⟨a₁, t₁, a₂, t₂, run₁, run₂, ends.1.weaken And.right, ends.2⟩

theorem step_grows (run : (attempt (tree t scope)).run s = .ok a s') : s.Grows s' := by
  have grows := (tree_grows t scope).run s
  rwa [← final_attempt, run] at grows

theorem step_between (h : s.Between o) (run : (attempt (tree t scope)).run s = .ok a s') :
    s'.Between o := by
  obtain ⟨a₁, t₁, _, _, run₁, -, paired, -⟩ := step_alike h h id t scope
  have grows := step_grows run
  have sound := tree_completes t scope s h.sound
  rw [← final_attempt, run] at sound
  obtain ⟨-, rfl⟩ : a = a₁ ∧ s' = t₁ := by simpa [run] using run₁
  exact ⟨grows.options.trans h.options, grows.params h.idle, grows.numbered h.numbered, sound,
    paired.settled₁⟩

/-- A step adds to the signatures and the helpers of a state between steps what it adds to a
fresh state. -/
theorem step_footprint (h : s.Between o) (run : (attempt (tree t scope)).run s = .ok a s') :
    (∀ sig, sig ∈ s'.signatures ↔ sig ∈ s.signatures ∨ sig ∈ (footprint o (t, scope)).signatures) ∧
    ∀ u, u ∈ s'.used ↔ u ∈ s.used ∨ u ∈ (footprint o (t, scope)).used := by
  obtain ⟨a₁, t₁, a₂, t₂, run₁, run₂, -, alike⟩ :=
    step_alike h (Context.between_ofOptions o) id t scope
  obtain ⟨-, rfl⟩ : a = a₁ ∧ s' = t₁ := by simpa [run] using run₁
  have fresh : footprint o (t, scope) = t₂ := by
    simp only [footprint, run₂]
    rfl
  rw [fresh]
  constructor
  · intro sig
    simpa [or_comm] using alike.signatures sig
  · intro u
    simpa [or_comm] using alike.used u

end Step

/-! ### Runs of steps -/

/-- What a run of the steps `l` from `s` to `t` with outcomes `outs` gives: an outcome for each
step, each the outcome of that step from some state between steps whose blueprints `t` keeps;
and the signatures and helpers of `s` together with the footprints of the steps. -/
structure StepsRun (o : Options) (l : List (Tree × Scope)) (s : Context)
    (outs : List (Except CompileError Code)) (t : Context) : Prop where
  length : outs.length = l.length
  between : t.Between o
  grows : s.Grows t
  signatures : ∀ sig,
    sig ∈ t.signatures ↔ sig ∈ s.signatures ∨ ∃ p ∈ l, sig ∈ (footprint o p).signatures
  used : ∀ u, u ∈ t.used ↔ u ∈ s.used ∨ ∃ p ∈ l, u ∈ (footprint o p).used
  outcomes : ∀ q ∈ l.zip outs, ∃ s' t', s'.Between o ∧
    (attempt (tree q.1.1 q.1.2)).run s' = .ok q.2 t' ∧ t'.blueprints <+: t.blueprints

/-- Steps from a state between steps always succeed, as `StepsRun` says. -/
theorem run_steps {o : Options} :
    ∀ (l : List (Tree × Scope)) (s : Context), s.Between o →
      ∃ outs t, (steps l).run s = .ok outs t ∧ StepsRun o l s outs t
  | [], s, h => ⟨[], s, rfl, rfl, h, .refl s, by simp, by simp, by simp⟩
  | (tr, sc) :: rest, s, h => by
    obtain ⟨a, s', run⟩ := attempt_ok (tree tr sc) s
    have grows := step_grows run
    have foot := step_footprint h run
    obtain ⟨outs, t, run', r⟩ := run_steps rest s' (step_between h run)
    refine ⟨a :: outs, t, ?_, ⟨by simp [r.length], r.between, grows.trans r.grows, ?_, ?_, ?_⟩⟩
    · simp only [steps, EStateM.run_bind, run, run']
      rfl
    · intro sig
      simp [r.signatures, foot.1, or_assoc]
    · intro u
      simp [r.used, foot.2, or_assoc]
    · rintro q (_ | ⟨_, mem⟩)
      · exact ⟨s, s', h, run, r.grows.earlier⟩
      · exact r.outcomes q mem

/-- Compiling a file's trees in any two orders, from a fresh state under any options, gives the
same outcome for each tree, its code or its error, under one bijective renaming of blueprint ids;
and the same declarations: the same helpers line, and the same blueprints with their ids and
template bodies renamed, which are what the slots and templates lines list. -/
theorem steps_commute_up_to_renaming (o : Options) {l₁ l₂ : List (Tree × Scope)}
    (perm : l₁.Perm l₂) :
    ∃ out₁ final₁ out₂ final₂, (steps l₁).run (Context.ofOptions o) = .ok out₁ final₁ ∧
      (steps l₂).run (Context.ofOptions o) = .ok out₂ final₂ ∧
      out₁.length = l₁.length ∧ out₂.length = l₂.length ∧
      ∃ π : Nat → Nat, π.Bijective ∧
        (∀ p ∈ l₁.zip out₁, ∀ q ∈ l₂.zip out₂, p.1 = q.1 → q.2 = p.2.map (Code.rename π)) ∧
        final₂.declarations.helpers = final₁.declarations.helpers ∧
        final₂.declarations.blueprints.Perm
          (final₁.declarations.blueprints.map (Blueprint.rename π)) := by
  have fresh := Context.between_ofOptions o
  obtain ⟨out₁, final₁, run₁, r₁⟩ := run_steps l₁ _ fresh
  obtain ⟨out₂, final₂, run₂, r₂⟩ := run_steps l₂ _ fresh
  -- both runs end with the union of the same footprints
  have signatures : ∀ sig, sig ∈ final₁.signatures ↔ sig ∈ final₂.signatures := by
    intro sig
    simp only [r₁.signatures, r₂.signatures, perm.mem_iff]
  have used : ∀ u, u ∈ final₁.used ↔ u ∈ final₂.used := by
    intro u
    simp only [r₁.used, r₂.used, perm.mem_iff]
  have options : final₁.options = final₂.options := r₁.between.options.trans r₂.between.options.symm
  obtain ⟨π, bijective, aligned⟩ :=
    Numbered.exists_aligned r₁.between.numbered r₂.between.numbered signatures
  refine ⟨out₁, final₁, out₂, final₂, run₁, run₂, r₁.length, r₂.length, π, bijective, ?_, ?_, ?_⟩
  · rintro ⟨p, a₁⟩ mem₁ ⟨q, a₂⟩ mem₂ (rfl : p = q)
    obtain ⟨s₁, t₁, h₁, step₁, earlier₁⟩ := r₁.outcomes _ mem₁
    obtain ⟨s₂, t₂, h₂, step₂, earlier₂⟩ := r₂.outcomes _ mem₂
    obtain ⟨b₁, u₁, b₂, u₂, run₁', run₂', paired, -⟩ := step_alike h₁ h₂ π p.1 p.2
    obtain ⟨rfl, rfl⟩ : a₁ = b₁ ∧ t₁ = u₁ := by simpa [step₁] using run₁'
    obtain ⟨rfl, rfl⟩ : a₂ = b₂ ∧ t₂ = u₂ := by simpa [step₂] using run₂'
    exact (paired.aligned (aligned.mono earlier₁.subset earlier₂.subset)).1
  · exact Context.declarations_helpers_congr (fun u => (used u).symm) options.symm
      (r₂.grows.bound.trans r₁.grows.bound.symm)
  · have complete : ∀ {s : Context}, s.Between o → ∀ b ∈ s.blueprints,
        Blueprint.Complete o s.blueprints b := by
      intro s h b hb
      rw [← h.options]
      exact Context.sound_iff.mp h.sound b hb
    simp only [Context.declarations_blueprints]
    exact perm_rename r₁.between.numbered r₂.between.numbered (complete r₁.between)
      (complete r₂.between) signatures aligned bijective.1

theorem steps_commute_swapped :
    let para := Tree.element "p" false [] [.text "x"] ⟨1, 6⟩
    let item := Tree.element "li" false [.named (.plain "className") (.code "c") ⟨1, 5⟩]
      [.slot (.code "y")] ⟨1, 1⟩
    let l₁ : List (Tree × Scope) := [(para, .function), (item, .function)]
    let l₂ : List (Tree × Scope) := [(item, .function), (para, .function)]
    let o : Options := { optimizeStaticVNodes := true }
    l₁.Perm l₂ ∧
      (final ((steps l₁).run (Context.ofOptions o))).blueprints.map Blueprint.slotCount = [0, 2] ∧
      (final ((steps l₂).run (Context.ofOptions o))).blueprints.map Blueprint.slotCount = [2, 0] ∧
      ∃ out₁ final₁ out₂ final₂, (steps l₁).run (Context.ofOptions o) = .ok out₁ final₁ ∧
        (steps l₂).run (Context.ofOptions o) = .ok out₂ final₂ ∧
        out₁.length = l₁.length ∧ out₂.length = l₂.length ∧
        ∃ π : Nat → Nat, π.Bijective ∧
          (∀ p ∈ l₁.zip out₁, ∀ q ∈ l₂.zip out₂, p.1 = q.1 → q.2 = p.2.map (Code.rename π)) ∧
          final₂.declarations.helpers = final₁.declarations.helpers ∧
          final₂.declarations.blueprints.Perm
            (final₁.declarations.blueprints.map (Blueprint.rename π)) := by
  intro para item l₁ l₂ o
  have swapped : l₁.Perm l₂ := List.Perm.swap _ _ _
  have first : (final ((steps l₁).run (Context.ofOptions o))).blueprints.map Blueprint.slotCount =
      [0, 2] := by decide +kernel
  have second : (final ((steps l₂).run (Context.ofOptions o))).blueprints.map Blueprint.slotCount =
      [2, 0] := by decide +kernel
  exact ⟨swapped, first, second, steps_commute_up_to_renaming o swapped⟩

end Compile

end JsxVNode
