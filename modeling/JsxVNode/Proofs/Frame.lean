import JsxVNode.Emit
/-!
What a compilation step may change. Every emission function keeps the options and the names the
file binds, only adds blueprints at the end of the table (each numbered by its position, under a
signature the table did not hold), only adds helpers, and ends with no template being built when
it started with none: a template build and a suspended expression hand back the parameter
collection they found, also when they fail. These facts hold of every run, successful or not,
and of every node, classified or not.

`Keeps P x` says that every run of `x` from a state satisfying `P` ends in one that does; it is
closed under `bind`, so the emission functions are handled one bind at a time.
-/
namespace JsxVNode

def Numbered (bs : List Blueprint) : Prop :=
  bs.map (·.id) = List.range bs.length ∧ (bs.map (·.signature)).Nodup

/-- What a run may do to the state it starts in. -/
structure Context.Grows (s s' : Context) : Prop where
  options : s'.options = s.options
  bound : s'.bound = s.bound
  earlier : s.blueprints <+: s'.blueprints
  used : s.used ⊆ s'.used
  numbered : Numbered s.blueprints → Numbered s'.blueprints
  params : s.params = none → s'.params = none

theorem Context.lookup_eq_none {s : Context} {sig : Signature} :
    s.lookup sig = none ↔ ∀ b ∈ s.blueprints, b.signature ≠ sig := by
  simp [Context.lookup, List.find?_eq_none]

theorem Context.lookup_some {s : Context} {sig : Signature} {b : Blueprint}
    (found : s.lookup sig = some b) : b ∈ s.blueprints ∧ b.signature = sig := by
  simp only [Context.lookup] at found
  exact ⟨List.mem_of_find?_eq_some found, by simpa using List.find?_some found⟩

theorem Numbered.snoc {bs : List Blueprint} {sig : Signature} (skeleton : Code) (n : Nat)
    (numbered : Numbered bs) (fresh : ∀ b ∈ bs, b.signature ≠ sig) :
    Numbered (bs ++ [⟨sig, bs.length, skeleton, n⟩]) := by
  obtain ⟨ids, distinct⟩ := numbered
  refine ⟨by simp [ids, List.range_succ], ?_⟩
  rw [List.map_append, List.nodup_append]
  refine ⟨distinct, List.nodup_cons.mpr ⟨List.not_mem_nil, List.nodup_nil⟩, ?_⟩
  intro a ha b hb
  simp only [List.map_cons, List.map_nil, List.mem_singleton] at hb
  obtain ⟨c, hc, rfl⟩ := List.mem_map.mp ha
  exact hb ▸ fresh c hc

namespace Context.Grows

theorem refl (s : Context) : s.Grows s :=
  ⟨rfl, rfl, List.prefix_refl _, fun _ h => h, id, id⟩

theorem trans {s₁ s₂ s₃ : Context} (h₁ : s₁.Grows s₂) (h₂ : s₂.Grows s₃) : s₁.Grows s₃ :=
  ⟨h₂.options.trans h₁.options, h₂.bound.trans h₁.bound, h₁.earlier.trans h₂.earlier,
    fun _ h => h₂.used (h₁.used h), h₂.numbered ∘ h₁.numbered, h₂.params ∘ h₁.params⟩

theorem restore {s s' : Context} {p : Option (List Code)} (h : ({ s with params := p } : Context).Grows s') :
    s.Grows { s' with params := s.params } :=
  ⟨h.options, h.bound, h.earlier, h.used, h.numbered, id⟩

theorem snoc (s : Context) {sig : Signature} (skeleton : Code) (n : Nat)
    (fresh : s.lookup sig = none) :
    s.Grows { s with blueprints := s.blueprints ++ [⟨sig, s.blueprints.length, skeleton, n⟩] } :=
  ⟨rfl, rfl, List.prefix_append _ _, fun _ h => h,
    fun numbered => numbered.snoc skeleton n (Context.lookup_eq_none.mp fresh), id⟩

end Context.Grows

namespace Compile

def final {α : Type} : EStateM.Result CompileError Context α → Context
  | .ok _ s | .error _ s => s

theorem run_bind_eq_ok {α β : Type} {x : Compile α} {f : α → Compile β} {s t : Context} {b : β}
    (run : (x >>= f).run s = .ok b t) : ∃ a u, x.run s = .ok a u ∧ (f a).run u = .ok b t := by
  rw [EStateM.run_bind] at run
  cases first : x.run s with
  | error e u => rw [first] at run; cases run
  | ok a u => rw [first] at run; exact ⟨a, u, rfl, run⟩

theorem run_ok_of_isSome {α : Type} {x : Compile α} {s : Context} (h : (x.run' s).isSome = true) :
    ∃ a t, x.run s = .ok a t := by
  delta EStateM.run' at h
  cases run : x.run s with
  | ok a t => exact ⟨a, t, rfl⟩
  | error e t => rw [run] at h; cases h

theorem ok_of_toOption_isSome {ε α : Type} {e : Except ε α} (h : e.toOption.isSome = true) :
    ∃ a, e = .ok a := by
  cases e with
  | error => simp [Except.toOption] at h
  | ok a => exact ⟨a, rfl⟩

def Keeps (P : Context → Prop) {α : Type} (x : Compile α) : Prop :=
  ∀ s, P s → P (final (x.run s))

section Keeps
variable {P : Context → Prop} {α β : Type}

theorem Keeps.pure (a : α) : Keeps P (pure a : Compile α) := fun _ h => h

theorem Keeps.bind {x : Compile α} {f : α → Compile β} (hx : Keeps P x)
    (hf : ∀ a, Keeps P (f a)) : Keeps P (x >>= f) := by
  intro s hs
  have step := hx s hs
  simp only [EStateM.run_bind]
  cases run : x.run s with
  | ok a s' => rw [run] at step; exact hf a s' step
  | error e s' => rw [run] at step; exact step

theorem Keeps.ite {c : Prop} [Decidable c] {x y : Compile α} (hx : Keeps P x) (hy : Keeps P y) :
    Keeps P (if c then x else y) := by
  split
  · exact hx
  · exact hy

theorem Keeps.throw (e : CompileError) : Keeps P (throw e : Compile α) := fun _ h => h

end Keeps

def Grows {α : Type} (x : Compile α) : Prop := ∀ s₀ : Context, Keeps (Context.Grows s₀) x

section Grows
variable {α β : Type}

theorem Grows.of_step {x : Compile α} (step : ∀ s : Context, s.Grows (final (x.run s))) :
    Grows x :=
  fun _ s (hs : Context.Grows _ s) => hs.trans (step s)

theorem Grows.run {x : Compile α} (hx : Grows x) (s : Context) : s.Grows (final (x.run s)) :=
  hx s s (Context.Grows.refl s)

theorem Grows.pure (a : α) : Grows (pure a : Compile α) := fun _ => Keeps.pure a

theorem Grows.bind {x : Compile α} {f : α → Compile β} (hx : Grows x) (hf : ∀ a, Grows (f a)) :
    Grows (x >>= f) := fun s₀ => (hx s₀).bind fun a => hf a s₀

theorem Grows.ite {c : Prop} [Decidable c] {x y : Compile α} (hx : Grows x) (hy : Grows y) :
    Grows (if c then x else y) := fun s₀ => (hx s₀).ite (hy s₀)

theorem Grows.throw (e : CompileError) : Grows (throw e : Compile α) := fun _ => Keeps.throw e

end Grows

/-! ### The steps of the state monad -/

section Steps
variable {α : Type}

theorem run_useHelper (h : Helper) (s : Context) :
    (useHelper h).run s = .ok (.helper h)
      (if s.used.contains h then s else { s with used := s.used ++ [h] }) := rfl

theorem run_options (s : Context) : options.run s = .ok s.options s := rfl

theorem run_lookup (sig : Signature) (s : Context) : (lookup sig).run s = .ok (s.lookup sig) s :=
  rfl

theorem run_insert (sig : Signature) (skeleton : Code) (n : Nat) (s : Context) :
    (insert sig skeleton n).run s = match s.lookup sig with
      | some b => .ok b.id s
      | none => .ok s.blueprints.length
          { s with blueprints := s.blueprints ++ [⟨sig, s.blueprints.length, skeleton, n⟩] } := by
  cases found : s.lookup sig <;> simp only [insert, EStateM.run_modifyGet, found]

theorem run_bindParam (code : Code) (s : Context) :
    (bindParam code).run s = match s.params with
      | some ps => .ok (.param ps.length) { s with params := some (ps ++ [code]) }
      | none => .ok code s := by
  cases collecting : s.params <;> simp only [bindParam, EStateM.run_modifyGet, collecting]

theorem run_attempt (x : Compile α) (s : Context) :
    (attempt x).run s = match x.run s with
      | .ok a s' => .ok (.ok a) s'
      | .error e s' => .ok (.error e) s' := by
  show EStateM.tryCatch (EStateM.map Except.ok x) (fun e => pure (.error e)) s = _
  delta EStateM.tryCatch EStateM.map EStateM.run
  cases x s <;> rfl

theorem run_ofExcept (r : Except CompileError α) (s : Context) :
    (ofExcept r).run s = match r with
      | .ok a => .ok a s
      | .error e => .error e s := by
  cases r <;> rfl

theorem run_suspended (x : Compile α) (s : Context) :
    (suspended x).run s = match x.run { s with params := none } with
      | .ok a s' => .ok a { s' with params := s.params }
      | .error e s' => .error e { s' with params := s.params } := by
  simp only [suspended, suspendParams, resumeParams, EStateM.run_bind, EStateM.run_modifyGet,
    EStateM.run_modify, run_attempt]
  cases x.run { s with params := none } <;> rfl

theorem run_templateSite (sig : Signature) (build : Compile Code) (s : Context) :
    (templateSite sig build).run s = match build.run { s with params := some [] } with
      | .ok body s' =>
        let args := s'.params.getD []
        let s'' := { s' with params := s.params }
        match s''.lookup sig with
        | some b => .ok (.template b.id args) s''
        | none => .ok (.template s''.blueprints.length args)
            { s'' with blueprints := s''.blueprints ++ [⟨sig, s''.blueprints.length, body, args.length⟩] }
      | .error e s' => .error e { s' with params := s.params } := by
  simp only [templateSite, beginParams, endParams, EStateM.run_bind, EStateM.run_modifyGet,
    run_attempt]
  cases build.run { s with params := some [] } with
  | ok body s' =>
    simp only [run_ofExcept, run_lookup]
    cases found : ({ s' with params := s.params } : Context).lookup sig with
    | some b => rfl
    | none => simp only [EStateM.run_bind, run_insert, found]; rfl
  | error e s' => rfl

theorem run_cachedSite (sig : Signature) (build : Compile Code) (s : Context) :
    (cachedSite sig build).run s = match s.lookup sig with
      | some b => .ok (.cached b.id b.skeleton) s
      | none => match build.run s with
        | .ok skeleton s' => match s'.lookup sig with
          | some b => .ok (.cached b.id skeleton) s'
          | none => .ok (.cached s'.blueprints.length skeleton)
              { s' with blueprints := s'.blueprints ++ [⟨sig, s'.blueprints.length, skeleton, 0⟩] }
        | .error e s' => .error e s' := by
  simp only [cachedSite, EStateM.run_bind, run_lookup]
  cases s.lookup sig with
  | some b => rfl
  | none =>
    simp only [EStateM.run_bind]
    cases build.run s with
    | ok skeleton s' =>
      simp only [run_insert]
      cases s'.lookup sig <;> rfl
    | error e s' => rfl

end Steps

@[simp] theorem final_ok {α : Type} (a : α) (s : Context) : final (.ok a s : EStateM.Result _ _ α) = s :=
  rfl

@[simp] theorem final_error {α : Type} (e : CompileError) (s : Context) :
    final (.error e s : EStateM.Result _ _ α) = s := rfl

/-! ### Each step grows the state -/

section Growth
variable {α : Type}

theorem useHelper_grows (h : Helper) : Grows (useHelper h) := Grows.of_step fun s => by
  rw [run_useHelper, final_ok]
  split
  · exact Context.Grows.refl s
  · exact ⟨rfl, rfl, List.prefix_refl _, List.subset_append_left _ _, id, id⟩

theorem options_grows : Grows options := Grows.of_step Context.Grows.refl

theorem bindParam_grows (code : Code) : Grows (bindParam code) := Grows.of_step fun s => by
  rw [run_bindParam]
  cases collecting : s.params with
  | none => exact Context.Grows.refl s
  | some ps => exact ⟨rfl, rfl, List.prefix_refl _, fun _ h => h, id, by simp [collecting]⟩

theorem ofExcept_grows (r : Except CompileError α) : Grows (ofExcept r) := by
  cases r
  · exact Grows.throw _
  · exact Grows.pure _

theorem suspended_grows {x : Compile α} (hx : Grows x) : Grows (suspended x) :=
  Grows.of_step fun s => by
    have step := hx.run { s with params := none }
    rw [run_suspended]
    cases run : x.run { s with params := none } <;> rw [run] at step <;> exact step.restore

theorem templateSite_grows (sig : Signature) {build : Compile Code} (hb : Grows build) :
    Grows (templateSite sig build) := Grows.of_step fun s => by
  have step := hb.run { s with params := some [] }
  rw [run_templateSite]
  cases run : build.run { s with params := some [] } with
  | error e s' => rw [run] at step; exact step.restore
  | ok body s' =>
    rw [run] at step
    dsimp only
    cases found : ({ s' with params := s.params } : Context).lookup sig with
    | some b => exact step.restore
    | none => exact step.restore.trans (Context.Grows.snoc _ _ _ found)

theorem cachedSite_grows (sig : Signature) {build : Compile Code} (hb : Grows build) :
    Grows (cachedSite sig build) := Grows.of_step fun s => by
  rw [run_cachedSite]
  cases s.lookup sig with
  | some b => exact Context.Grows.refl s
  | none =>
    have step := hb.run s
    cases run : build.run s with
    | error e s' => rw [run] at step; exact step
    | ok skeleton s' =>
      rw [run] at step
      dsimp only
      cases found : s'.lookup sig with
      | some b => exact step
      | none => exact step.trans (Context.Grows.snoc _ _ _ found)

theorem wrapIf_grows (cond : Bool) (h : Helper) (call : Code) : Grows (wrapIf cond h call) :=
  Grows.ite ((useHelper_grows h).bind fun _ => Grows.pure _) (Grows.pure _)

theorem hoisted_grows (scope : Scope) (nesting : Nesting) (n : Node)
    {direct : Nesting → Compile Code} (hd : ∀ nest, Grows (direct nest)) :
    Grows (hoisted scope nesting n direct) := by
  refine options_grows.bind fun options => ?_
  split
  · exact Grows.ite (Grows.ite (cachedSite_grows _ (hd _))
      (Grows.ite (templateSite_grows _ (hd _)) (hd _))) (hd _)
  · exact hd _

theorem rooted_grows (scope : Scope) (n : Node) {direct : Nesting → Compile Code}
    (hd : ∀ nest, Grows (direct nest)) : Grows (rooted scope n direct) :=
  options_grows.bind fun _ => (hoisted_grows scope .site n hd).bind fun _ => Grows.pure _

theorem childrenArg_grows (nodes : List Node) (cf : ChildFlagValue) (collapse : Bool)
    {items : Compile (List Code)} (hi : Grows items) :
    Grows (childrenArg nodes cf collapse items) := by
  unfold childrenArg
  split
  · exact Grows.pure _
  · exact Grows.ite (Grows.pure _) (hi.bind fun _ => Grows.pure _)
  · exact hi.bind fun _ => Grows.pure _
  · exact hi.bind fun _ => Grows.pure _

end Growth

/-- Every emission function only grows the state, on every input and however it ends. The
induction follows the emitter's own recursion. -/
theorem emit_grows :
    (∀ scope nesting n, Grows (emitDirect scope nesting n)) ∧ (∀ v, Grows (emitParam v)) ∧
    (∀ pieces, Grows (emitPieces pieces)) ∧
    (∀ scope nodes, Grows (emitComponentChildren scope nodes)) ∧
    (∀ cf, Grows (emitChildFlags cf)) ∧ (∀ scope nesting nodes, Grows (emitNodes scope nesting nodes)) ∧
    (∀ fields, Grows (emitFieldEntries fields)) ∧ (∀ v, Grows (emitValue v)) ∧
    (∀ o, Grows (emitOptional o)) := by
  refine emitDirect.mutual_induct (fun scope nesting n => Grows (emitDirect scope nesting n))
    (fun v => Grows (emitParam v)) (fun pieces => Grows (emitPieces pieces))
    (fun scope nodes => Grows (emitComponentChildren scope nodes)) (fun cf => Grows (emitChildFlags cf))
    (fun scope nesting nodes => Grows (emitNodes scope nesting nodes))
    (fun fields => Grows (emitFieldEntries fields)) (fun v => Grows (emitValue v))
    (fun o => Grows (emitOptional o)) ?_ ?_ ?_ ?_ ?_ ?_ ?_ ?_ ?_ ?_ ?_ ?_ ?_ ?_ ?_ ?_ ?_ ?_ ?_ ?_ ?_ ?_
    ?_ ?_ ?_
  · intro l
    exact bindParam_grows _
  · intro pieces ih
    exact (suspended_grows ih).bind fun _ => bindParam_grows _
  · intro l
    exact Grows.pure _
  · intro pieces ih
    exact (suspended_grows ih).bind fun _ => bindParam_grows _
  · intro f
    exact Grows.pure _
  · intro v ih
    exact ih.bind fun _ => Grows.pure _
  · intro scope nesting tag flags cls fields key ref children cf normC collapse normP sig
      hcls hfields hkey href hchildren hcf
    -- normalised children come after the other positions: the two layouts are two programs
    cases normC <;> simp only [emitDirect, Bool.false_eq_true, if_false, if_true]
    · refine (useHelper_grows _).bind fun _ => hcls.bind fun _ => ?_
      refine (childrenArg_grows _ _ _ hchildren).bind fun _ => hcf.bind fun _ => ?_
      refine hfields.bind fun _ => hkey.bind fun _ => href.bind fun _ => ?_
      exact options_grows.bind fun _ => (Grows.pure _).bind fun _ => wrapIf_grows _ _ _
    · refine (useHelper_grows _).bind fun _ => hcls.bind fun _ => ?_
      refine (Grows.pure _).bind fun _ => (Grows.pure _).bind fun _ => ?_
      refine hfields.bind fun _ => hkey.bind fun _ => href.bind fun _ => ?_
      refine options_grows.bind fun _ => hchildren.bind fun _ => ?_
      exact (useHelper_grows _).bind fun _ => (Grows.pure _).bind fun _ => wrapIf_grows _ _ _
  · intro scope nesting tag flags fields key ref hooks children normP hchildren hfields hkey href
      hhooks
    refine (useHelper_grows _).bind fun _ => hchildren.bind fun _ => hfields.bind fun _ => ?_
    refine hkey.bind fun _ => ?_
    dsimp only
    split
    · exact href.bind fun _ => options_grows.bind fun _ => wrapIf_grows _ _ _
    · exact hhooks.bind fun _ => (Grows.pure _).bind fun _ =>
        options_grows.bind fun _ => wrapIf_grows _ _ _
  · intro scope nesting key children cf normC collapse sig hchildren hkey hcf
    refine (useHelper_grows _).bind fun _ => (childrenArg_grows _ _ _ hchildren).bind fun _ => ?_
    dsimp only
    split
    · exact (Grows.pure _).bind fun _ => hkey.bind fun _ => options_grows.bind fun _ => Grows.pure _
    · exact hcf.bind fun _ => hkey.bind fun _ => options_grows.bind fun _ => Grows.pure _
  · intro scope nesting value
    exact (useHelper_grows _).bind fun _ => Grows.pure _
  · intro scope nesting v ih
    exact ih
  · exact Grows.pure _
  · intro code rest ih
    exact ih.bind fun _ => Grows.pure _
  · intro e scope tail
    exact Grows.throw e
  · intro n scope rest ihn ih
    exact (rooted_grows scope n ihn).bind fun _ => ih.bind fun _ => Grows.pure _
  · intro v nullish
    simp only [emitOptional, nullish, if_true]
    exact Grows.pure _
  · intro v present ih
    simp only [emitOptional, present]
    exact ih.bind fun _ => Grows.pure _
  · exact Grows.pure _
  · exact Grows.pure _
  · intro name category value rest ihv ih
    exact ihv.bind fun _ => ih.bind fun _ => Grows.pure _
  · intro scope
    exact Grows.pure _
  · intro scope rest t ih
    exact (Grows.pure _).bind fun _ => ih.bind fun _ => Grows.pure _
  · intro scope n rest notText ih ihn
    simp only [emitComponentChildren]
    exact (hoisted_grows scope .site n ihn).bind fun _ => ih.bind fun _ => Grows.pure _
  · intro scope nesting
    exact Grows.pure _
  · intro scope nesting n rest ihn ih
    exact (hoisted_grows scope nesting n ihn).bind fun _ => ih.bind fun _ => Grows.pure _

theorem node_grows (scope : Scope) (n : Node) : Grows (Compile.node scope n) :=
  rooted_grows scope n fun nest => emit_grows.1 scope nest n

theorem tree_grows (t : Tree) (scope : Scope) : Grows (Compile.tree t scope) :=
  (ofExcept_grows _).bind fun n => node_grows scope n

end Compile

end JsxVNode
