import JsxVNode.Proofs.Reuse
/-!
Compiling again. A successful step leaves every blueprint it met in the table and every helper it
called recorded, so repeating it meets only blueprints that are there: a static site reads the
slot it built or read before, a template call finds the function of its signature, and every
helper it calls is already recorded. The second run gives the same code and changes nothing.

`Replays x` says that every successful run of `x` is repeated, with the same result, from any
state that covers the one it ended in: the same options, every blueprint found there found
again, every helper used there used. It is closed under `bind`, and every emission of a
classified node replays, whatever the table held before it.
-/
namespace JsxVNode

/-- `t` covers `s`: it has the options of `s`, finds every blueprint `s` finds, and has used
every helper `s` used. -/
structure Context.Covers (t s : Context) : Prop where
  options : t.options = s.options
  lookup : ∀ {sig : Signature} {b : Blueprint}, s.lookup sig = some b → t.lookup sig = some b
  used : s.used ⊆ t.used

theorem Context.Grows.lookup {s t : Context} (g : s.Grows t) {sig : Signature} {b : Blueprint}
    (found : s.lookup sig = some b) : t.lookup sig = some b := by
  obtain ⟨more, table⟩ := g.earlier
  simp only [Context.lookup] at found ⊢
  rw [← table, List.find?_append, found, Option.some_or]

theorem Context.lookup_snoc {s : Context} {sig : Signature} (fresh : s.lookup sig = none)
    (id : Nat) (skeleton : Code) (n : Nat) :
    ({ s with blueprints := s.blueprints ++ [⟨sig, id, skeleton, n⟩] } : Context).lookup sig =
      some ⟨sig, id, skeleton, n⟩ := by
  simp only [Context.lookup] at fresh ⊢
  simp [List.find?_append, fresh]

namespace Context.Covers
variable {t s s' : Context}

theorem refl (s : Context) : s.Covers s := ⟨rfl, id, List.Subset.refl _⟩

theorem of_grows (h : t.Covers s') (g : s.Grows s') : t.Covers s :=
  ⟨h.options.trans g.options, fun found => h.lookup (g.lookup found), fun _ hh => h.used (g.used hh)⟩

theorem withParams (h : t.Covers s) (p : Option (List Code)) :
    ({ t with params := p } : Context).Covers s :=
  ⟨h.options, h.lookup, h.used⟩

theorem of_params {p : Option (List Code)} (h : t.Covers { s with params := p }) : t.Covers s :=
  ⟨h.options, h.lookup, h.used⟩

end Context.Covers

namespace Compile

/-- `x` only grows the state, and every successful run of it is repeated from any state that
covers the one it ended in and starts with the same parameter collection: the same result, and
nothing changed but the parameters, which end as in the first run. -/
def Replays {α : Type} (x : Compile α) : Prop :=
  Grows x ∧ ∀ s a s', x.run s = .ok a s' → ∀ t : Context, t.Covers s' → t.params = s.params →
    x.run t = .ok a { t with params := s'.params }

section Replays
variable {α β : Type}

theorem ok_with_params {a : α} {t : Context} {p : Option (List Code)} (h : t.params = p) :
    (EStateM.Result.ok a t : EStateM.Result CompileError Context α) =
      .ok a { t with params := p } := by
  subst h
  rfl

theorem Replays.pure (a : α) : Replays (Pure.pure a : Compile α) := by
  refine ⟨Grows.pure a, fun s a' s' run t _ same => ?_⟩
  rw [EStateM.run_pure] at run ⊢
  cases run
  rw [← same]

theorem Replays.bind {x : Compile α} {f : α → Compile β} (hx : Replays x)
    (hf : ∀ a, Replays (f a)) : Replays (x >>= f) := by
  refine ⟨hx.1.bind fun a => (hf a).1, fun s b s₂ run t covers same => ?_⟩
  obtain ⟨a, s₁, first, rest⟩ := run_bind_eq_ok run
  -- the rest of the run grows `s₁` into `s₂`, so `t` covers `s₁` as well
  have grown : s₁.Grows s₂ := by simpa [rest] using (hf a).1.run s₁
  rw [EStateM.run_bind, hx.2 s a s₁ first t (covers.of_grows grown) same]
  exact (hf a).2 s₁ b s₂ rest _ (covers.withParams _) rfl

theorem Replays.ite {c : Prop} [Decidable c] {x y : Compile α} (hx : Replays x) (hy : Replays y) :
    Replays (if c then x else y) := by
  split
  · exact hx
  · exact hy

theorem Replays.throw (e : CompileError) : Replays (throw e : Compile α) :=
  ⟨Grows.throw e, fun _ _ _ run => by cases run⟩

theorem useHelper_replays (h : Helper) : Replays (useHelper h) := by
  refine ⟨useHelper_grows h, fun s c s' run t covers same => ?_⟩
  rw [run_useHelper] at run ⊢
  cases run
  have recorded : t.used.contains h := by
    simpa using covers.used (by split <;> simp_all)
  rw [if_pos recorded]
  split <;> exact ok_with_params same

theorem options_replays : Replays options := by
  refine ⟨options_grows, fun s o s' run t covers same => ?_⟩
  rw [run_options] at run ⊢
  cases run
  rw [← covers.options]
  exact ok_with_params same

theorem bindParam_replays (code : Code) : Replays (bindParam code) := by
  refine ⟨bindParam_grows code, fun s c s' run t _ same => ?_⟩
  rw [run_bindParam] at run ⊢
  rw [same]
  cases collecting : s.params with
  | none =>
    simp only [collecting] at run ⊢
    cases run
    exact ok_with_params same
  | some ps =>
    simp only [collecting] at run ⊢
    cases run
    rfl

theorem suspended_replays {x : Compile α} (hx : Replays x) : Replays (suspended x) := by
  refine ⟨suspended_grows hx.1, fun s a s' run t covers same => ?_⟩
  rw [run_suspended] at run ⊢
  cases inner : x.run { s with params := none } with
  | error e s₁ => rw [inner] at run; cases run
  | ok a' s₁ =>
    rw [inner] at run
    cases run
    rw [hx.2 _ _ s₁ inner { t with params := none } (covers.of_params.withParams none) rfl]
    exact ok_with_params same

theorem cachedSite_replays {sig : Signature} {build : Compile Code} (gb : Grows build)
    (plain : ∀ s : Context, ∃ skeleton used, build.run s = .ok skeleton { s with used }) :
    Replays (cachedSite sig build) := by
  refine ⟨cachedSite_grows sig gb, fun s c s' run t covers same => ?_⟩
  rw [run_cachedSite] at run ⊢
  cases found : s.lookup sig with
  | some b =>
    rw [found] at run
    cases run
    rw [covers.lookup found, ← same]
  | none =>
    obtain ⟨skeleton, used, built⟩ := plain s
    simp only [found, built, Context.lookup_with_used] at run
    cases run
    rw [covers.lookup (Context.lookup_snoc (s := { s with used }) found _ _ _), ← same]

theorem templateSite_replays {sig : Signature} {build : Compile Code} (hb : Replays build) :
    Replays (templateSite sig build) := by
  refine ⟨templateSite_grows sig hb.1, fun s c s' run t covers same => ?_⟩
  rw [run_templateSite] at run ⊢
  cases inner : build.run { s with params := some [] } with
  | error e s₁ => rw [inner] at run; cases run
  | ok body s₁ =>
    rw [inner] at run
    dsimp only at run ⊢
    have back : ∀ b, ({ s₁ with params := s.params } : Context).lookup sig = some b →
        t.lookup sig = some b ∧ t.Covers s₁ := by
      intro b found
      rw [found] at run
      cases run
      exact ⟨covers.lookup found, covers.of_params⟩
    have again : t.Covers s₁ → build.run { t with params := some [] } =
        .ok body { t with params := s₁.params } :=
      fun h => hb.2 _ body s₁ inner _ (h.withParams _) rfl
    cases found : ({ s₁ with params := s.params } : Context).lookup sig with
    | some b =>
      obtain ⟨found', covered⟩ := back b found
      rw [found] at run
      cases run
      simp only [again covered, found']
      rw [same]
    | none =>
      rw [found] at run
      cases run
      have allocated := Context.lookup_snoc found (s₁.blueprints.length) body (s₁.params.getD []).length
      have covered : t.Covers s₁ :=
        (covers.of_grows (Context.Grows.snoc _ body _ found)).of_params
      simp only [again covered, covers.lookup allocated]
      rw [same]

theorem wrapIf_replays (cond : Bool) (h : Helper) (call : Code) : Replays (wrapIf cond h call) :=
  Replays.ite ((useHelper_replays h).bind fun _ => Replays.pure _) (Replays.pure _)

theorem childrenArg_replays (nodes : List Node) (cf : ChildFlagValue) (collapse : Bool)
    {items : Compile (List Code)} (hi : Replays items) :
    Replays (childrenArg nodes cf collapse items) := by
  unfold childrenArg
  split
  · exact Replays.pure _
  · exact Replays.ite (Replays.pure _) (hi.bind fun _ => Replays.pure _)
  · exact hi.bind fun _ => Replays.pure _
  · exact hi.bind fun _ => Replays.pure _

end Replays

theorem hoisted_replays (scope : Scope) (nesting : Nesting) {n : Node} (wf : n.wellFormed = true)
    (direct : ∀ nest, Replays (emitDirect scope nest n)) :
    Replays (hoisted scope nesting n fun nest => emitDirect scope nest n) := by
  refine options_replays.bind fun o => ?_
  dsimp only
  split
  · rename_i sig hsig
    split
    · split
      · rename_i static
        refine cachedSite_replays (direct .skeleton).1 fun s => ?_
        obtain ⟨U, hU⟩ := @skeleton_records s.options scope n sig .param wf
          (Node.signature_of_hoistSignature hsig) static
        exact ⟨_, _, hU s rfl⟩
      · exact Replays.ite (templateSite_replays (direct .template)) (direct nesting)
    · exact direct nesting
  · exact direct nesting

theorem rooted_replays (scope : Scope) {n : Node} (wf : n.wellFormed = true)
    (direct : ∀ nest, Replays (emitDirect scope nest n)) :
    Replays (rooted scope n fun nest => emitDirect scope nest n) :=
  options_replays.bind fun _ => (hoisted_replays scope .site wf direct).bind fun _ => Replays.pure _

/-- Every emission of a classified node replays. The induction follows the emitter's own
recursion, one `Replays.bind` per statement of each `do` block; only the sites read the table. -/
theorem emit_replays :
    (∀ scope nesting n, n.wellFormed = true → Replays (emitDirect scope nesting n)) ∧
    (∀ v, v.wellFormed = true → Replays (emitParam v)) ∧
    (∀ pieces, Piece.allWellFormed pieces = true → Replays (emitPieces pieces)) ∧
    (∀ scope nodes, (∀ n ∈ nodes, n.wellFormed = true) →
      Replays (emitComponentChildren scope nodes)) ∧
    (∀ cf, cf.wellFormed = true → Replays (emitChildFlags cf)) ∧
    (∀ scope nesting nodes, (∀ n ∈ nodes, n.wellFormed = true) →
      Replays (emitNodes scope nesting nodes)) ∧
    (∀ fields, (∀ f ∈ fields, f.value.wellFormed = true) → Replays (emitFieldEntries fields)) ∧
    (∀ v, v.wellFormed = true → Replays (emitValue v)) ∧
    (∀ o, (∀ t ∈ o, t.wellFormed = true) → Replays (emitOptional o)) := by
  refine emitDirect.mutual_induct
    (fun scope nesting n => n.wellFormed = true → Replays (emitDirect scope nesting n))
    (fun v => v.wellFormed = true → Replays (emitParam v))
    (fun pieces => Piece.allWellFormed pieces = true → Replays (emitPieces pieces))
    (fun scope nodes => (∀ n ∈ nodes, n.wellFormed = true) →
      Replays (emitComponentChildren scope nodes))
    (fun cf => cf.wellFormed = true → Replays (emitChildFlags cf))
    (fun scope nesting nodes => (∀ n ∈ nodes, n.wellFormed = true) →
      Replays (emitNodes scope nesting nodes))
    (fun fields => (∀ f ∈ fields, f.value.wellFormed = true) → Replays (emitFieldEntries fields))
    (fun v => v.wellFormed = true → Replays (emitValue v))
    (fun o => (∀ t ∈ o, t.wellFormed = true) → Replays (emitOptional o))
    ?_ ?_ ?_ ?_ ?_ ?_ ?_ ?_ ?_ ?_ ?_ ?_ ?_ ?_ ?_ ?_ ?_ ?_ ?_ ?_ ?_ ?_ ?_ ?_ ?_
  · intro l _
    exact bindParam_replays _
  · intro pieces ih wf
    exact (suspended_replays (ih (by simpa [Term.wellFormed] using wf))).bind fun _ =>
      bindParam_replays _
  · intro l _
    exact Replays.pure _
  · intro pieces ih wf
    exact (suspended_replays (ih (by simpa [Term.wellFormed] using wf))).bind fun _ =>
      bindParam_replays _
  · intro f _
    exact Replays.pure _
  · intro v ih wf
    exact (ih (by simpa [ChildFlagValue.wellFormed] using wf)).bind fun _ => Replays.pure _
  · intro scope nesting tag flags cls fields key ref children cf normC collapse normP sig
      hcls hfields hkey href hchildren hcf wf
    obtain ⟨-, -, -, wcls, wfields, wkey, wref, wchildren, wcf⟩ := Node.wellFormed_element_iff.mp wf
    cases normC <;> simp only [emitDirect, Bool.false_eq_true, if_false, if_true]
    · refine (useHelper_replays _).bind fun _ => (hcls wcls).bind fun _ => ?_
      refine (childrenArg_replays _ _ _ (hchildren wchildren)).bind fun _ =>
        (hcf wcf).bind fun _ => ?_
      refine (hfields wfields).bind fun _ => (hkey wkey).bind fun _ => (href wref).bind fun _ => ?_
      exact options_replays.bind fun _ => (Replays.pure _).bind fun _ => wrapIf_replays _ _ _
    · refine (useHelper_replays _).bind fun _ => (hcls wcls).bind fun _ => ?_
      refine (Replays.pure _).bind fun _ => (Replays.pure _).bind fun _ => ?_
      refine (hfields wfields).bind fun _ => (hkey wkey).bind fun _ => (href wref).bind fun _ => ?_
      refine options_replays.bind fun _ => (hchildren wchildren).bind fun _ => ?_
      exact (useHelper_replays _).bind fun _ => (Replays.pure _).bind fun _ => wrapIf_replays _ _ _
  · intro scope nesting tag flags fields key ref hooks children normP hchildren hfields hkey href
      hhooks wf
    obtain ⟨-, wfields, wkey, wref, whooks, wchildren⟩ := Node.wellFormed_component_iff.mp wf
    refine (useHelper_replays _).bind fun _ => (hchildren wchildren).bind fun _ => ?_
    refine (hfields wfields).bind fun _ => (hkey wkey).bind fun _ => ?_
    dsimp only
    split
    · exact (href wref).bind fun _ => options_replays.bind fun _ => wrapIf_replays _ _ _
    · exact (hhooks whooks).bind fun _ => (Replays.pure _).bind fun _ =>
        options_replays.bind fun _ => wrapIf_replays _ _ _
  · intro scope nesting key children cf normC collapse sig hchildren hkey hcf wf
    obtain ⟨-, -, wkey, wchildren, wcf⟩ := Node.wellFormed_fragment_iff.mp wf
    refine (useHelper_replays _).bind fun _ =>
      (childrenArg_replays _ _ _ (hchildren wchildren)).bind fun _ => ?_
    dsimp only
    split
    · exact (Replays.pure _).bind fun _ => (hkey wkey).bind fun _ =>
        options_replays.bind fun _ => Replays.pure _
    · exact (hcf wcf).bind fun _ => (hkey wkey).bind fun _ =>
        options_replays.bind fun _ => Replays.pure _
  · intro scope nesting value _
    exact (useHelper_replays _).bind fun _ => Replays.pure _
  · intro scope nesting v ih wf
    exact ih (by simpa [Node.wellFormed] using wf)
  · intro _
    exact Replays.pure _
  · intro code rest ih wf
    exact (ih (by simpa [Piece.allWellFormed] using wf)).bind fun _ => Replays.pure _
  · intro e scope tail _
    exact Replays.throw e
  · intro n scope rest ihn ih wf
    simp only [Piece.allWellFormed, Bool.and_eq_true] at wf
    exact (rooted_replays scope wf.1 fun nest => ihn nest wf.1).bind fun _ =>
      (ih wf.2).bind fun _ => Replays.pure _
  · intro v nullish _
    simp only [emitOptional, nullish, if_true]
    exact Replays.pure _
  · intro v present ih wf
    simp only [emitOptional, present]
    exact (ih (wf v rfl)).bind fun _ => Replays.pure _
  · intro _
    exact Replays.pure _
  · intro _
    exact Replays.pure _
  · intro name category value rest ihv ih wf
    exact (ihv (wf (.mk name category value) (by simp))).bind fun _ =>
      (ih fun f hf => wf f (by simp [hf])).bind fun _ => Replays.pure _
  · intro scope _
    exact Replays.pure _
  · intro scope rest t ih wf
    exact (Replays.pure _).bind fun _ => (ih fun n hn => wf n (by simp [hn])).bind fun _ =>
      Replays.pure _
  · intro scope n rest notText ih ihn wf
    simp only [emitComponentChildren]
    exact (hoisted_replays scope .site (wf n (by simp)) fun nest => ihn nest (wf n (by simp))).bind
      fun _ => (ih fun m hm => wf m (by simp [hm])).bind fun _ => Replays.pure _
  · intro scope nesting _
    exact Replays.pure _
  · intro scope nesting n rest ihn ih wf
    exact (hoisted_replays scope nesting (wf n (by simp)) fun nest => ihn nest (wf n (by simp))).bind
      fun _ => (ih fun m hm => wf m (by simp [hm])).bind fun _ => Replays.pure _

/-- A step replays: a tree that does not classify fails every time, and a classified one is
emitted as its root. -/
theorem tree_replays (t : Tree) (scope : Scope) : Replays (Compile.tree t scope) := by
  cases classified : classify t with
  | error e =>
    refine ⟨tree_grows t scope, fun s a s' run => ?_⟩
    simp only [Compile.tree, classified, EStateM.run_bind, run_ofExcept] at run
    cases run
  | ok n =>
    have wf := classify_wellFormed.1 t n classified
    have emitted : Compile.tree t scope = Compile.node scope n := by
      simp only [Compile.tree, classified, ofExcept, pure_bind]
    rw [emitted]
    exact rooted_replays scope wf fun nest => emit_replays.1 scope nest n wf

/-- Compiling is idempotent: a step that succeeds from a state where no template is being built,
repeated at once, gives the same code, hence the same text, and leaves the state as it found it:
no blueprint added or changed, the same next id, and no helper recorded. This holds whatever the
table held before the first run. -/
theorem step_idempotent (t : Tree) (scope : Scope) (s : Context) (idle : s.params = none)
    {c : Code} {s' : Context} (run : (Compile.tree t scope).run s = .ok c s') :
    (Compile.tree t scope).run s' = .ok c s' := by
  obtain ⟨grows, replay⟩ := tree_replays t scope
  have ended : s'.params = s.params := by
    have done := (grows.run s).params idle
    rw [run, final_ok] at done
    rw [done, idle]
  rw [replay s c s' run s' (Context.Covers.refl s') ended]

theorem step_idempotent_fragment :
    ∃ c s', (Context.ofOptions { optimizeStaticVNodes := true }).params = none ∧
      (Compile.tree (.fragment none [] ⟨0, 0⟩) .function).run
        (Context.ofOptions { optimizeStaticVNodes := true }) = .ok c s' ∧
      s'.blueprints.length = 1 ∧
      (Compile.tree (.fragment none [] ⟨0, 0⟩) .function).run s' = .ok c s' := by
  have succeeds : ((Compile.tree (.fragment none [] ⟨0, 0⟩) .function).run'
      (Context.ofOptions { optimizeStaticVNodes := true })).isSome = true := by decide +kernel
  have built : (final ((Compile.tree (.fragment none [] ⟨0, 0⟩) .function).run
      (Context.ofOptions { optimizeStaticVNodes := true }))).blueprints.length = 1 := by
    decide +kernel
  obtain ⟨c, s', run⟩ := run_ok_of_isSome succeeds
  rw [run, final_ok] at built
  exact ⟨c, s', rfl, run, built, step_idempotent _ _ _ rfl run⟩

end Compile

end JsxVNode
