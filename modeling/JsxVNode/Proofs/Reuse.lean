import JsxVNode.Proofs.Collection
/-!
Sound reuse of blueprints. A blueprint is complete when its code is the code of its signature: a
static skeleton with every child in place, a template body with the parameters `v0, v1, …` as
its holes and its static children read from their slots. Every blueprint a compilation allocates
is complete, whether or not the step allocating it succeeds, because a blueprint is allocated
only once its code has been emitted in full.

So a site may take the blueprint of its signature from any earlier site: a static site reads the
skeleton its node would build in place, and a template call with its values in place is exactly
the code its node emits inline. A failed step leaves no template being built and only complete
blueprints behind.

`emit_keeps` is the induction over the emitter for a property of states that helpers and the
parameter collection do not touch: it holds after every emission of a classified node as soon
as a site keeps it.
-/
namespace JsxVNode

namespace Compile

/-! ### Invariants of the emitter -/

section Invariant
variable {P : Context → Prop}

theorem useHelper_keeps (used : ∀ (s : Context) u, P s → P { s with used := u }) (h : Helper) :
    Keeps P (useHelper h) := by
  intro s hs
  rw [run_useHelper]
  split
  · exact hs
  · exact used s _ hs

theorem options_keeps : Keeps P options := fun _ hs => hs

theorem bindParam_keeps (params : ∀ (s : Context) p, P s → P { s with params := p }) (code : Code) :
    Keeps P (bindParam code) := by
  intro s hs
  rw [run_bindParam]
  split
  · exact params s _ hs
  · exact hs

theorem suspended_keeps (params : ∀ (s : Context) p, P s → P { s with params := p })
    {α : Type} {x : Compile α} (hx : Keeps P x) : Keeps P (suspended x) := by
  intro s hs
  have inner := hx _ (params s none hs)
  rw [run_suspended]
  split <;> rename_i run <;> rw [run] at inner <;> exact params _ _ inner

theorem wrapIf_keeps (used : ∀ (s : Context) u, P s → P { s with used := u }) (cond : Bool)
    (h : Helper) (call : Code) : Keeps P (wrapIf cond h call) :=
  Keeps.ite ((useHelper_keeps used h).bind fun _ => Keeps.pure _) (Keeps.pure _)

theorem childrenArg_keeps (nodes : List Node) (cf : ChildFlagValue) (collapse : Bool)
    {items : Compile (List Code)} (hi : Keeps P items) :
    Keeps P (childrenArg nodes cf collapse items) := by
  unfold childrenArg
  split
  · exact Keeps.pure _
  · exact Keeps.ite (Keeps.pure _) (hi.bind fun _ => Keeps.pure _)
  · exact hi.bind fun _ => Keeps.pure _
  · exact hi.bind fun _ => Keeps.pure _

/-- A property of states that recording a helper and changing the parameter collection keep is
kept by every emission of classified input, once each site keeps it. The induction follows the
emitter's own recursion; only the sites allocate blueprints. -/
theorem emit_keeps (used : ∀ (s : Context) u, P s → P { s with used := u })
    (params : ∀ (s : Context) p, P s → P { s with params := p })
    (site : ∀ scope nesting n, n.wellFormed = true → (∀ nest, Keeps P (emitDirect scope nest n)) →
      Keeps P (hoisted scope nesting n fun nest => emitDirect scope nest n)) :
    (∀ scope nesting n, n.wellFormed = true → Keeps P (emitDirect scope nesting n)) ∧
    (∀ v, v.wellFormed = true → Keeps P (emitParam v)) ∧
    (∀ pieces, Piece.allWellFormed pieces = true → Keeps P (emitPieces pieces)) ∧
    (∀ scope nodes, (∀ n ∈ nodes, n.wellFormed = true) →
      Keeps P (emitComponentChildren scope nodes)) ∧
    (∀ cf, cf.wellFormed = true → Keeps P (emitChildFlags cf)) ∧
    (∀ scope nesting nodes, (∀ n ∈ nodes, n.wellFormed = true) →
      Keeps P (emitNodes scope nesting nodes)) ∧
    (∀ fields, (∀ f ∈ fields, f.value.wellFormed = true) → Keeps P (emitFieldEntries fields)) ∧
    (∀ v, v.wellFormed = true → Keeps P (emitValue v)) ∧
    (∀ o, (∀ t ∈ o, t.wellFormed = true) → Keeps P (emitOptional o)) := by
  refine emitDirect.mutual_induct
    (fun scope nesting n => n.wellFormed = true → Keeps P (emitDirect scope nesting n))
    (fun v => v.wellFormed = true → Keeps P (emitParam v))
    (fun pieces => Piece.allWellFormed pieces = true → Keeps P (emitPieces pieces))
    (fun scope nodes => (∀ n ∈ nodes, n.wellFormed = true) →
      Keeps P (emitComponentChildren scope nodes))
    (fun cf => cf.wellFormed = true → Keeps P (emitChildFlags cf))
    (fun scope nesting nodes => (∀ n ∈ nodes, n.wellFormed = true) →
      Keeps P (emitNodes scope nesting nodes))
    (fun fields => (∀ f ∈ fields, f.value.wellFormed = true) → Keeps P (emitFieldEntries fields))
    (fun v => v.wellFormed = true → Keeps P (emitValue v))
    (fun o => (∀ t ∈ o, t.wellFormed = true) → Keeps P (emitOptional o))
    ?_ ?_ ?_ ?_ ?_ ?_ ?_ ?_ ?_ ?_ ?_ ?_ ?_ ?_ ?_ ?_ ?_ ?_ ?_ ?_ ?_ ?_ ?_ ?_ ?_
  · intro l _
    exact bindParam_keeps params _
  · intro pieces ih wf
    exact (suspended_keeps params (ih (by simpa [Term.wellFormed] using wf))).bind fun _ =>
      bindParam_keeps params _
  · intro l _
    exact Keeps.pure _
  · intro pieces ih wf
    exact (suspended_keeps params (ih (by simpa [Term.wellFormed] using wf))).bind fun _ =>
      bindParam_keeps params _
  · intro f _
    exact Keeps.pure _
  · intro v ih wf
    exact (ih (by simpa [ChildFlagValue.wellFormed] using wf)).bind fun _ => Keeps.pure _
  · intro scope nesting tag flags cls fields key ref children cf normC collapse normP sig
      hcls hfields hkey href hchildren hcf wf
    obtain ⟨-, -, -, wcls, wfields, wkey, wref, wchildren, wcf⟩ := Node.wellFormed_element_iff.mp wf
    cases normC <;> simp only [emitDirect, Bool.false_eq_true, if_false, if_true]
    · refine (useHelper_keeps used _).bind fun _ => (hcls wcls).bind fun _ => ?_
      refine (childrenArg_keeps _ _ _ (hchildren wchildren)).bind fun _ => (hcf wcf).bind fun _ => ?_
      refine (hfields wfields).bind fun _ => (hkey wkey).bind fun _ => (href wref).bind fun _ => ?_
      exact options_keeps.bind fun _ => (Keeps.pure _).bind fun _ => wrapIf_keeps used _ _ _
    · refine (useHelper_keeps used _).bind fun _ => (hcls wcls).bind fun _ => ?_
      refine (Keeps.pure _).bind fun _ => (Keeps.pure _).bind fun _ => ?_
      refine (hfields wfields).bind fun _ => (hkey wkey).bind fun _ => (href wref).bind fun _ => ?_
      refine options_keeps.bind fun _ => (hchildren wchildren).bind fun _ => ?_
      exact (useHelper_keeps used _).bind fun _ => (Keeps.pure _).bind fun _ => wrapIf_keeps used _ _ _
  · intro scope nesting tag flags fields key ref hooks children normP hchildren hfields hkey href
      hhooks wf
    obtain ⟨-, wfields, wkey, wref, whooks, wchildren⟩ := Node.wellFormed_component_iff.mp wf
    refine (useHelper_keeps used _).bind fun _ => (hchildren wchildren).bind fun _ => ?_
    refine (hfields wfields).bind fun _ => (hkey wkey).bind fun _ => ?_
    dsimp only
    split
    · exact (href wref).bind fun _ => options_keeps.bind fun _ => wrapIf_keeps used _ _ _
    · exact (hhooks whooks).bind fun _ => (Keeps.pure _).bind fun _ =>
        options_keeps.bind fun _ => wrapIf_keeps used _ _ _
  · intro scope nesting key children cf normC collapse sig hchildren hkey hcf wf
    obtain ⟨-, -, wkey, wchildren, wcf⟩ := Node.wellFormed_fragment_iff.mp wf
    refine (useHelper_keeps used _).bind fun _ =>
      (childrenArg_keeps _ _ _ (hchildren wchildren)).bind fun _ => ?_
    dsimp only
    split
    · exact (Keeps.pure _).bind fun _ => (hkey wkey).bind fun _ =>
        options_keeps.bind fun _ => Keeps.pure _
    · exact (hcf wcf).bind fun _ => (hkey wkey).bind fun _ => options_keeps.bind fun _ => Keeps.pure _
  · intro scope nesting value _
    exact (useHelper_keeps used _).bind fun _ => Keeps.pure _
  · intro scope nesting v ih wf
    exact ih (by simpa [Node.wellFormed] using wf)
  · intro _
    exact Keeps.pure _
  · intro code rest ih wf
    exact (ih (by simpa [Piece.allWellFormed] using wf)).bind fun _ => Keeps.pure _
  · intro e scope tail _
    exact Keeps.throw e
  · intro n scope rest ihn ih wf
    simp only [Piece.allWellFormed, Bool.and_eq_true] at wf
    exact (options_keeps.bind fun _ => (site scope .site n wf.1 fun nest => ihn nest wf.1).bind
      fun _ => Keeps.pure _).bind fun _ => (ih wf.2).bind fun _ => Keeps.pure _
  · intro v nullish _
    simp only [emitOptional, nullish, if_true]
    exact Keeps.pure _
  · intro v present ih wf
    simp only [emitOptional, present]
    exact (ih (wf v rfl)).bind fun _ => Keeps.pure _
  · intro _
    exact Keeps.pure _
  · intro _
    exact Keeps.pure _
  · intro name category value rest ihv ih wf
    exact (ihv (wf (.mk name category value) (by simp))).bind fun _ =>
      (ih fun f hf => wf f (by simp [hf])).bind fun _ => Keeps.pure _
  · intro scope _
    exact Keeps.pure _
  · intro scope rest t ih wf
    exact (Keeps.pure _).bind fun _ => (ih fun n hn => wf n (by simp [hn])).bind fun _ => Keeps.pure _
  · intro scope n rest notText ih ihn wf
    simp only [emitComponentChildren]
    exact (site scope .site n (wf n (by simp)) fun nest => ihn nest (wf n (by simp))).bind fun _ =>
      (ih fun m hm => wf m (by simp [hm])).bind fun _ => Keeps.pure _
  · intro scope nesting _
    exact Keeps.pure _
  · intro scope nesting n rest ihn ih wf
    exact (site scope nesting n (wf n (by simp)) fun nest => ihn nest (wf n (by simp))).bind fun _ =>
      (ih fun m hm => wf m (by simp [hm])).bind fun _ => Keeps.pure _

end Invariant

end Compile

/-! ### Complete blueprints -/

/-- A blueprint whose code is that of its signature: a static skeleton with every child in
place, or a template body with the parameters as its holes and its static children read from
their slots, in the table and in every table it grows into. The number of values a call passes
is the signature's slot count. -/
inductive Blueprint.Complete (o : Options) (bs : List Blueprint) : Blueprint → Prop
  | static {sig : Signature} (id : Nat) (wf : sig.wellFormed = true)
      (hoistable : sig.isHoistable = true) (isStatic : sig.isStatic = true) :
      Complete o bs ⟨sig, id, sig.code o (fun _ => none) .param, 0⟩
  | template {sig : Signature} (id : Nat) (body : Code) (wf : sig.wellFormed = true)
      (hoistable : sig.isHoistable = true) (dynamic : sig.isStatic = false)
      (slots : 0 < sig.slotCount)
      (built : ∀ bs', bs <+: bs' → body = sig.code o (Blueprint.sites bs') .param) :
      Complete o bs ⟨sig, id, body, sig.slotCount⟩

namespace Blueprint.Complete
variable {o : Options} {bs : List Blueprint} {b : Blueprint}

theorem grow (h : Complete o bs b) {bs' : List Blueprint} (grown : bs <+: bs') : Complete o bs' b := by
  cases h with
  | static id wf hoistable isStatic => exact .static id wf hoistable isStatic
  | template id body wf hoistable dynamic slots built =>
    exact .template id body wf hoistable dynamic slots fun bs'' h => built bs'' (grown.trans h)

theorem slotCount_eq (h : Complete o bs b) : b.slotCount = b.signature.slotCount := by
  cases h with
  | static _ _ _ isStatic => exact (slotCount_eq_zero_of_isStatic isStatic).symm
  | template => rfl

end Blueprint.Complete

def Context.CompleteBeyond (s : Context) (earlier : List Blueprint) : Prop :=
  ∃ added, s.blueprints = earlier ++ added ∧
    ∀ b ∈ added, Blueprint.Complete s.options s.blueprints b

def Context.Sound (s : Context) : Prop := s.CompleteBeyond []

theorem Context.sound_iff {s : Context} :
    s.Sound ↔ ∀ b ∈ s.blueprints, Blueprint.Complete s.options s.blueprints b := by
  simp [Context.Sound, Context.CompleteBeyond]

theorem Context.CompleteBeyond.snoc {s : Context} {earlier : List Blueprint}
    (h : s.CompleteBeyond earlier) (b : Blueprint)
    (complete : Blueprint.Complete s.options (s.blueprints ++ [b]) b) :
    ({ s with blueprints := s.blueprints ++ [b] } : Context).CompleteBeyond earlier := by
  obtain ⟨added, table, old⟩ := h
  refine ⟨added ++ [b], by simp [table], fun c hc => ?_⟩
  rcases List.mem_append.mp hc with hc | hc
  · exact (old c hc).grow (List.prefix_append _ _)
  · rw [List.mem_singleton.mp hc]
    exact complete

theorem Context.Sound.sitesPlain {s : Context} (sound : s.Sound) :
    SitesPlain (Blueprint.sites s.blueprints) := by
  intro c x static hx
  simp only [Blueprint.sites, Option.map_eq_some_iff] at hx
  obtain ⟨b, found, rfl⟩ := hx
  have named := List.find?_some found
  simp only [decide_eq_true_eq] at named
  cases Context.sound_iff.mp sound b (List.mem_of_find?_eq_some found) with
  | static _ wf _ isStatic =>
    simp only at named
    subst named
    simpa [slotCount_eq_zero_of_isStatic isStatic] using
      @params_code s.options (fun _ => none) (fun _ _ _ h => by simp at h) _ 0 wf
  | template _ _ _ _ dynamic => simp_all

theorem Node.signature_of_hoistSignature {n : Node} {sig : Signature}
    (h : n.hoistSignature? = some sig) : n.signature? = some sig := by
  cases n <;> simp_all [Node.hoistSignature?, Node.signature?]

namespace Compile

/-! ### Sites allocate complete blueprints -/

section Sites
variable {scope : Scope} {earlier : List Blueprint}

theorem cachedSite_completes {n : Node} {sig : Signature} (wf : n.wellFormed = true)
    (hsig : n.hoistSignature? = some sig) (static : sig.isStatic = true) :
    Keeps (·.CompleteBeyond earlier) (cachedSite sig (emitDirect scope .skeleton n)) := by
  have signature := Node.signature_of_hoistSignature hsig
  have hoistable : sig.isHoistable = true := by
    have := Node.hoistSignature_eq wf signature
    split at this <;> simp_all
  intro s hs
  obtain ⟨U, hU⟩ := @skeleton_records s.options scope n sig .param wf signature static
  rw [run_cachedSite]
  cases found : s.lookup sig with
  | some b => exact hs
  | none =>
    simp only [hU s rfl, Context.lookup_with_used, found, final_ok]
    exact Context.CompleteBeyond.snoc (s := { s with used := U s.used }) hs _
      (.static _ (Node.signature_wellFormed wf signature) hoistable static)

theorem templateSite_completes {n : Node} {sig : Signature} (wf : n.wellFormed = true)
    (hsig : n.hoistSignature? = some sig) (dynamic : sig.isStatic = false)
    (slots : 0 < sig.slotCount)
    (build : Keeps (·.CompleteBeyond earlier) (emitDirect scope .template n)) {s : Context}
    (hs : s.CompleteBeyond earlier) (cache : shouldCache s.options scope = true) :
    (final ((templateSite sig (emitDirect scope .template n)).run s)).CompleteBeyond earlier := by
  have signature := Node.signature_of_hoistSignature hsig
  have hoistable : sig.isHoistable = true := by
    have := Node.hoistSignature_eq wf signature
    split at this <;> simp_all
  have built := build { s with params := some [] } hs
  rw [run_templateSite]
  cases run : (emitDirect scope .template n).run { s with params := some [] } with
  | error e s' =>
    rw [run] at built
    exact built
  | ok body s' =>
    rw [run] at built
    obtain ⟨vals, collected⟩ :=
      direct_collects cache n wf signature { s with params := some [] } [] body s' rfl rfl run
    simp only
    split
    · exact built
    · rename_i found
      have args : (s'.params.getD []).length = sig.slotCount := by
        simp [collected.params, collected.length]
      rw [args]
      refine Context.CompleteBeyond.snoc (s := { s' with params := s.params }) built _ ?_
      refine .template _ body (Node.signature_wellFormed wf signature) hoistable dynamic slots
        fun bs grown => ?_
      simpa [collected.options] using collected.code bs ((List.prefix_append _ _).trans grown)

theorem hoisted_completes (scope : Scope) (nesting : Nesting) (n : Node) (wf : n.wellFormed = true)
    (direct : ∀ nest, Keeps (·.CompleteBeyond earlier) (emitDirect scope nest n)) :
    Keeps (·.CompleteBeyond earlier) (hoisted scope nesting n fun nest => emitDirect scope nest n) := by
  intro s hs
  simp only [hoisted, EStateM.run_bind, run_options]
  cases hsig : n.hoistSignature? with
  | none => exact direct nesting s hs
  | some sig =>
    simp only
    split
    · split
      · exact cachedSite_completes wf hsig ‹_› s hs
      · split
        · rename_i cached _ site
          simp only [Bool.and_eq_true, bne_iff_ne, ne_eq] at cached site
          exact templateSite_completes wf hsig (Bool.eq_false_iff.mpr ‹_›) (by simpa using site.2)
            (direct .template) hs cached.2
        · exact direct nesting s hs
    · exact direct nesting s hs

theorem direct_completes (earlier : List Blueprint) : ∀ scope nesting n, n.wellFormed = true →
    Keeps (·.CompleteBeyond earlier) (emitDirect scope nesting n) :=
  (emit_keeps (P := (·.CompleteBeyond earlier)) (fun _ _ h => h) (fun _ _ h => h)
    fun scope nesting n => hoisted_completes scope nesting n).1

/-- A step keeps the blueprints after `earlier` complete, whether or not it succeeds. -/
theorem tree_completes (t : Tree) (scope : Scope) :
    Keeps (·.CompleteBeyond earlier) (Compile.tree t scope) := by
  intro s hs
  simp only [Compile.tree, EStateM.run_bind, run_ofExcept]
  cases classified : classify t with
  | error e => exact hs
  | ok n =>
    have wf := classify_wellFormed.1 t n classified
    simp only [Compile.node, rooted, EStateM.run_bind, run_options]
    have site := hoisted_completes scope .site n wf fun nest => direct_completes earlier scope nest n wf
    have := site s hs
    cases run : (hoisted scope .site n fun nest => emitDirect scope nest n).run s <;>
      simp_all

theorem cachedSite_skeleton {n : Node} {sig : Signature} (wf : n.wellFormed = true)
    (hsig : n.hoistSignature? = some sig) (static : sig.isStatic = true) {s : Context}
    (sound : s.Sound) {c : Code} {t : Context}
    (run : (cachedSite sig (emitDirect scope .skeleton n)).run s = .ok c t) :
    ∃ id skeleton, c = .cached id skeleton ∧
      (∃ t', (emitDirect scope .skeleton n).run s = .ok skeleton t') ∧
      ∃ b ∈ t.blueprints, b.id = id ∧ b.signature = sig ∧ b.skeleton = skeleton := by
  have signature := Node.signature_of_hoistSignature hsig
  obtain ⟨U, hU⟩ := @skeleton_records s.options scope n sig .param wf signature static
  rw [run_cachedSite] at run
  cases found : s.lookup sig with
  | some b =>
    rw [found] at run
    cases run
    obtain ⟨mem, named⟩ := Context.lookup_some found
    cases Context.sound_iff.mp sound b mem with
    | static id =>
      subst named
      exact ⟨_, _, rfl, ⟨_, hU s rfl⟩, _, mem, rfl, rfl, rfl⟩
    | template _ _ _ _ dynamic => simp_all
  | none =>
    rw [found, hU s rfl] at run
    simp only [Context.lookup_with_used, found] at run
    cases run
    exact ⟨_, _, rfl, ⟨_, hU s rfl⟩, _, List.mem_append_right _ (List.mem_singleton_self _), rfl,
      rfl, rfl⟩

theorem templateSite_fills {n : Node} {sig : Signature} (wf : n.wellFormed = true)
    (hsig : n.hoistSignature? = some sig) (dynamic : sig.isStatic = false)
    (slots : 0 < sig.slotCount) {s : Context} (sound : s.Sound)
    (cache : shouldCache s.options scope = true) {c : Code} {t : Context}
    (run : (templateSite sig (emitDirect scope .template n)).run s = .ok c t) :
    ∃ id args, c = .template id args ∧ args.length = sig.slotCount ∧
      ∃ b ∈ t.blueprints, b.id = id ∧ b.signature = sig ∧ b.slotCount = args.length ∧
        b.skeleton.params = List.range args.length ∧
        ∃ inline t', (emitDirect scope .template n).run { s with params := none } = .ok inline t' ∧
          b.skeleton.fill args = inline := by
  have signature := Node.signature_of_hoistSignature hsig
  have wfsig := Node.signature_wellFormed wf signature
  have soundAfter : t.Sound := by
    have := templateSite_completes wf hsig dynamic slots (direct_completes [] scope .template n wf)
      sound cache
    rwa [run] at this
  rw [run_templateSite] at run
  cases build : (emitDirect scope .template n).run { s with params := some [] } with
  | error e s' => rw [build] at run; cases run
  | ok body s' =>
    rw [build] at run
    obtain ⟨vals, collected⟩ :=
      direct_collects cache n wf signature { s with params := some [] } [] body s' rfl rfl build
    obtain ⟨inline, inlineRun, inlineCode⟩ := collected.inline
    have args : s'.params.getD [] = vals := by simp [collected.params]
    have filled : ∀ B : Code, s'.blueprints <+: t.blueprints →
        B = sig.code s.options (Blueprint.sites t.blueprints) .param →
        B.params = List.range vals.length ∧ B.fill vals = inline := by
      intro B grown hB
      have plain := soundAfter.sitesPlain
      subst hB
      refine ⟨by rw [params_body plain wfsig, collected.length], ?_⟩
      rw [fill_code plain, inlineCode _ _ (fun _ _ => rfl) grown]
    simp only [args] at run
    split at run
    · rename_i b found
      cases run
      obtain ⟨mem, named⟩ := Context.lookup_some found
      cases Context.sound_iff.mp soundAfter b mem with
      | static _ _ _ isStatic => simp_all
      | template id B _ _ _ _ built =>
        subst named
        obtain ⟨params, fill⟩ := filled B (List.prefix_refl _)
          (by simpa [collected.options] using built _ (List.prefix_refl _))
        exact ⟨_, _, rfl, collected.length, _, mem, rfl, rfl, collected.length.symm, params, inline,
          _, inlineRun, fill⟩
    · cases run
      have built := collected.code _
        (List.prefix_append s'.blueprints [⟨sig, s'.blueprints.length, body, vals.length⟩])
      simp only [List.length_nil, shiftHoles_zero] at built
      obtain ⟨params, fill⟩ := filled body (List.prefix_append _ _) built
      exact ⟨_, _, rfl, collected.length, _, List.mem_append_right _ (List.mem_singleton_self _),
        rfl, rfl, rfl, params, inline, _, inlineRun, fill⟩

end Sites

/-! ### Reuse over whole runs -/

/-- Blueprint reuse is sound over whole runs: a table without blueprints is sound, every step
keeps it sound whether or not it succeeds, and at a sound table a static site gives the skeleton
its node builds in place, while a template call passes one value per slot to a body whose
parameters are `v0 … v(k-1)` in order, and with the values in place that body is the code its
node emits inline. -/
theorem blueprint_reuse_sound :
    (∀ s : Context, s.blueprints = [] → s.Sound) ∧
    (∀ (s : Context) (t : Tree) (scope : Scope), s.Sound →
      (final ((Compile.tree t scope).run s)).Sound) ∧
    (∀ (scope : Scope) (n : Node) (sig : Signature) (s : Context) (c : Code) (t : Context),
      n.wellFormed = true → n.hoistSignature? = some sig → sig.isStatic = true → s.Sound →
      (cachedSite sig (emitDirect scope .skeleton n)).run s = .ok c t →
      ∃ id skeleton, c = .cached id skeleton ∧
        (∃ t', (emitDirect scope .skeleton n).run s = .ok skeleton t') ∧
        ∃ b ∈ t.blueprints, b.id = id ∧ b.signature = sig ∧ b.skeleton = skeleton) ∧
    (∀ (scope : Scope) (n : Node) (sig : Signature) (s : Context) (c : Code) (t : Context),
      n.wellFormed = true → n.hoistSignature? = some sig → sig.isStatic = false →
      0 < sig.slotCount → shouldCache s.options scope = true → s.Sound →
      (templateSite sig (emitDirect scope .template n)).run s = .ok c t →
      ∃ id args, c = .template id args ∧ args.length = sig.slotCount ∧
        ∃ b ∈ t.blueprints, b.id = id ∧ b.signature = sig ∧ b.slotCount = args.length ∧
          b.skeleton.params = List.range args.length ∧
          ∃ inline t', (emitDirect scope .template n).run { s with params := none } = .ok inline t' ∧
            b.skeleton.fill args = inline) :=
  ⟨fun _ empty => ⟨[], by simp [empty], by simp⟩,
    fun s t scope sound => tree_completes t scope s sound,
    fun _ _ _ _ _ _ wf hsig static sound run => cachedSite_skeleton wf hsig static sound run,
    fun _ _ _ _ _ _ wf hsig dynamic slots cache sound run =>
      templateSite_fills wf hsig dynamic slots sound cache run⟩

theorem blueprint_reuse_sound_template :
    let para := Tree.element "p" false [] [.text "static"] ⟨0, 0⟩
    let t := Tree.element "div" false []
      [para, .element "span" false [] [.slot (.code "x")] ⟨0, 0⟩] ⟨0, 0⟩
    let s := Context.ofOptions { optimizeStaticVNodes := true }
    s.Sound ∧ (final ((Compile.tree t .function).run s)).Sound ∧
      (final ((Compile.tree t .function).run s)).blueprints.map Blueprint.slotCount = [0, 1] ∧
      (∃ n sig c u, classify para = .ok n ∧ n.hoistSignature? = some sig ∧ sig.isStatic = true ∧
        (cachedSite sig (emitDirect .function .skeleton n)).run s = .ok c u ∧
        ∃ id skeleton, c = .cached id skeleton ∧
          (∃ u', (emitDirect .function .skeleton n).run s = .ok skeleton u') ∧
          ∃ b ∈ u.blueprints, b.id = id ∧ b.signature = sig ∧ b.skeleton = skeleton) ∧
      (∃ n sig c u, classify t = .ok n ∧ n.hoistSignature? = some sig ∧ sig.isStatic = false ∧
        0 < sig.slotCount ∧ (templateSite sig (emitDirect .function .template n)).run s = .ok c u ∧
        ∃ id args, c = .template id args ∧ args.length = sig.slotCount ∧
          ∃ b ∈ u.blueprints, b.id = id ∧ b.signature = sig ∧ b.slotCount = args.length ∧
            b.skeleton.params = List.range args.length ∧
            ∃ inline u', (emitDirect .function .template n).run { s with params := none } =
              .ok inline u' ∧ b.skeleton.fill args = inline) := by
  intro para t s
  obtain ⟨fresh, step, cached, template⟩ := blueprint_reuse_sound
  have sound := fresh s rfl
  have allocated : (final ((Compile.tree t .function).run s)).blueprints.map Blueprint.slotCount =
      [0, 1] := by decide +kernel
  have static : ((classify para).toOption.bind (·.hoistSignature?)).map Signature.isStatic =
      some true := by decide +kernel
  have read : ((classify para).toOption.bind fun n => n.hoistSignature?.bind fun sig =>
      (cachedSite sig (emitDirect .function .skeleton n)).run' s).isSome = true := by decide +kernel
  obtain ⟨n, classified⟩ := ok_of_toOption_isSome (Option.isSome_of_isSome_bind read)
  simp only [classified, Except.toOption, Option.bind_some] at static read
  obtain ⟨sig, hsig, isStatic⟩ := Option.map_eq_some_iff.mp static
  rw [hsig, Option.bind_some] at read
  obtain ⟨c, u, run⟩ := run_ok_of_isSome read
  have dynamic : ((classify t).toOption.bind (·.hoistSignature?)).map
      (fun sig => (sig.isStatic, sig.slotCount)) = some (false, 1) := by decide +kernel
  have called : ((classify t).toOption.bind fun n => n.hoistSignature?.bind fun sig =>
      (templateSite sig (emitDirect .function .template n)).run' s).isSome = true := by
    decide +kernel
  obtain ⟨m, classifiedRoot⟩ := ok_of_toOption_isSome (Option.isSome_of_isSome_bind called)
  simp only [classifiedRoot, Except.toOption, Option.bind_some] at dynamic called
  obtain ⟨sig', hsig', shape⟩ := Option.map_eq_some_iff.mp dynamic
  obtain ⟨notStatic, one⟩ := Prod.mk.inj shape
  rw [hsig', Option.bind_some] at called
  obtain ⟨c', u', run'⟩ := run_ok_of_isSome called
  exact ⟨sound, step s t .function sound, allocated,
    ⟨n, sig, c, u, classified, hsig, isStatic, run,
      cached .function n sig s c u (classify_wellFormed.1 para n classified) hsig isStatic sound run⟩,
    ⟨m, sig', c', u', classifiedRoot, hsig', notStatic, by omega, run',
      template .function m sig' s c' u' (classify_wellFormed.1 t m classifiedRoot) hsig' notStatic
        (by omega) rfl sound run'⟩⟩

/-- A step started with no template being built ends with none, whether it succeeds or fails,
and every blueprint it allocated is complete: allocated once its skeleton or body was emitted in
full, and recording the slot count of its signature. -/
theorem failed_step_leaves_context_usable (s : Context) (t : Tree) (scope : Scope)
    (idle : s.params = none) :
    (final ((Compile.tree t scope).run s)).params = none ∧
      ∃ added, (final ((Compile.tree t scope).run s)).blueprints = s.blueprints ++ added ∧
        ∀ b ∈ added, Blueprint.Complete s.options (final ((Compile.tree t scope).run s)).blueprints b ∧
          b.slotCount = b.signature.slotCount := by
  have grows := (tree_grows t scope).run s
  obtain ⟨added, table, complete⟩ := @tree_completes s.blueprints t scope s ⟨[], by simp, by simp⟩
  refine ⟨grows.params idle, added, table, fun b hb => ?_⟩
  have entry := complete b hb
  rw [grows.options] at entry
  exact ⟨entry, entry.slotCount_eq⟩

theorem failed_step_leaves_context_usable_after_slot :
    let faulty := Tree.element "b" false
      [.named (.plain "noNormalize") (.literal (.bool true)) ⟨1, 15⟩] [] ⟨1, 12⟩
    let t := Tree.element "div" false []
      [.element "p" false [] [.text "x"] ⟨1, 6⟩, .slot (.expr [.source "c && ", .tree faulty .function])]
      ⟨1, 1⟩
    let s := Context.ofOptions { optimizeStaticVNodes := true }
    s.params = none ∧ ((Compile.tree t .function).run' s).isNone = true ∧
      (final ((Compile.tree t .function).run s)).blueprints.length = 1 ∧
      ((final ((Compile.tree t .function).run s)).params = none ∧
        ∃ added, (final ((Compile.tree t .function).run s)).blueprints = s.blueprints ++ added ∧
          ∀ b ∈ added, Blueprint.Complete s.options (final ((Compile.tree t .function).run s)).blueprints b ∧
            b.slotCount = b.signature.slotCount) := by
  intro faulty t s
  have failed : ((Compile.tree t .function).run' s).isNone = true := by decide +kernel
  have allocated : (final ((Compile.tree t .function).run s)).blueprints.length = 1 := by decide +kernel
  exact ⟨rfl, failed, allocated, failed_step_leaves_context_usable s t .function rfl⟩

end Compile

end JsxVNode
