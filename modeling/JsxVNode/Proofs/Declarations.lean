import JsxVNode.Proofs.Reuse
/-!
Declarations that match every reference. Emitted code refers outside itself in three ways: it
reads the slot of a static blueprint, calls the function of a template, and calls a helper. A
state names such a reference when its table holds a blueprint of that id and of that kind, a
slot for a blueprint passed no values and a function for one passed at least one, or, for a
helper, when the helper is recorded as used, so that the declarations import or alias it.

A state is closed when its table is sound and all the code it holds, the code of every blueprint
and every template argument being collected, refers only to what it names. Every emission of a
classified node keeps the state closed, whether it succeeds or fails, and the code it gives
refers only to what the state it ends in names. A step only grows the table and the helpers, so
what is named stays named up to the declarations of the file.
-/
namespace JsxVNode

/-- A reference of emitted code to something declared apart from it. -/
inductive Ref where
  | slot (id : Nat)
  | template (id : Nat)
  | helper (h : Helper)
deriving DecidableEq, Repr

namespace Code

def refAt : Code → List Ref
  | .cached id _ => [.slot id]
  | .template id _ => [.template id]
  | .helper h => [.helper h]
  | _ => []

def refs (c : Code) : List Ref := gather refAt c

section Refs
variable (cs : List Code) (c : Code)

@[simp] theorem refs_text (s : String) : (Code.text s).refs = [] := rfl
@[simp] theorem refs_source (s : String) : (Code.source s).refs = [] := rfl
@[simp] theorem refs_param (i : Nat) : (Code.param i).refs = [] := rfl
@[simp] theorem refs_helper (h : Helper) : (Code.helper h).refs = [.helper h] := rfl

@[simp] theorem refs_call : (Code.call c cs).refs = c.refs ++ cs.flatMap refs := by
  show refAt _ ++ gather refAt c ++ gatherList refAt cs = _
  rw [gatherList_eq_flatMap]; rfl
@[simp] theorem refs_array : (Code.array cs).refs = cs.flatMap refs := by
  show refAt _ ++ gatherList refAt cs = _
  rw [gatherList_eq_flatMap]; rfl
@[simp] theorem refs_object : (Code.object cs).refs = cs.flatMap refs := by
  show refAt _ ++ gatherList refAt cs = _
  rw [gatherList_eq_flatMap]; rfl
@[simp] theorem refs_expr : (Code.expr cs).refs = cs.flatMap refs := by
  show refAt _ ++ gatherList refAt cs = _
  rw [gatherList_eq_flatMap]; rfl
@[simp] theorem refs_template (id : Nat) :
    (Code.template id cs).refs = .template id :: cs.flatMap refs := by
  show refAt _ ++ gatherList refAt cs = _
  rw [gatherList_eq_flatMap]; rfl
@[simp] theorem refs_cached (id : Nat) : (Code.cached id c).refs = .slot id :: c.refs := rfl
@[simp] theorem refs_entry (key : String) : (Code.entry key c).refs = c.refs := rfl
@[simp] theorem refs_spread : (Code.spread c).refs = c.refs := rfl
@[simp] theorem refs_paren : (Code.paren c).refs = c.refs := rfl

end Refs

end Code

namespace Context

/-- The state declares a reference: its table holds a blueprint of that id and kind, or it has
recorded the helper as used. -/
def Names (s : Context) : Ref → Prop
  | .slot id => ∃ b ∈ s.blueprints, b.id = id ∧ b.slotCount = 0
  | .template id => ∃ b ∈ s.blueprints, b.id = id ∧ 0 < b.slotCount
  | .helper h => h ∈ s.used

def Declares (s : Context) (c : Code) : Prop := ∀ r ∈ c.refs, s.Names r

section Declares
variable {s t : Context} {c : Code} {cs : List Code}

theorem Names.mono (table : s.blueprints ⊆ t.blueprints) (used : s.used ⊆ t.used) :
    ∀ {r : Ref}, s.Names r → t.Names r
  | .slot _, ⟨b, hb, named⟩ => ⟨b, table hb, named⟩
  | .template _, ⟨b, hb, named⟩ => ⟨b, table hb, named⟩
  | .helper _, h => used h

theorem Declares.mono (h : s.Declares c) (table : s.blueprints ⊆ t.blueprints)
    (used : s.used ⊆ t.used) : t.Declares c :=
  fun r hr => (h r hr).mono table used

theorem Declares.grow (h : s.Declares c) (g : s.Grows t) : t.Declares c :=
  h.mono g.earlier.subset g.used

theorem declares_iff : s.Declares c ↔ ∀ r ∈ c.refs, s.Names r := Iff.rfl

@[simp] theorem declares_text (x : String) : s.Declares (.text x) := by simp [declares_iff]
@[simp] theorem declares_source (x : String) : s.Declares (.source x) := by simp [declares_iff]
@[simp] theorem declares_param (i : Nat) : s.Declares (.param i) := by simp [declares_iff]

@[simp] theorem declares_helper (h : Helper) : s.Declares (.helper h) ↔ h ∈ s.used := by
  simp [declares_iff, Names]

@[simp] theorem declares_call : s.Declares (.call c cs) ↔ s.Declares c ∧ ∀ a ∈ cs, s.Declares a := by
  simp only [declares_iff, Code.refs_call, List.forall_mem_append, List.forall_mem_flatMap]

@[simp] theorem declares_array : s.Declares (.array cs) ↔ ∀ a ∈ cs, s.Declares a := by
  simp only [declares_iff, Code.refs_array, List.forall_mem_flatMap]
@[simp] theorem declares_object : s.Declares (.object cs) ↔ ∀ a ∈ cs, s.Declares a := by
  simp only [declares_iff, Code.refs_object, List.forall_mem_flatMap]
@[simp] theorem declares_expr : s.Declares (.expr cs) ↔ ∀ a ∈ cs, s.Declares a := by
  simp only [declares_iff, Code.refs_expr, List.forall_mem_flatMap]

@[simp] theorem declares_template (id : Nat) :
    s.Declares (.template id cs) ↔ s.Names (.template id) ∧ ∀ a ∈ cs, s.Declares a := by
  simp only [declares_iff, Code.refs_template, List.forall_mem_cons, List.forall_mem_flatMap]
@[simp] theorem declares_cached (id : Nat) :
    s.Declares (.cached id c) ↔ s.Names (.slot id) ∧ s.Declares c := by
  simp only [declares_iff, Code.refs_cached, List.forall_mem_cons]

@[simp] theorem declares_entry (key : String) : s.Declares (.entry key c) ↔ s.Declares c := Iff.rfl
@[simp] theorem declares_spread : s.Declares (.spread c) ↔ s.Declares c := Iff.rfl
@[simp] theorem declares_paren : s.Declares (.paren c) ↔ s.Declares c := Iff.rfl

theorem declares_finishCall {callee : Code} {args : List (Option Code)} {defaults : List String}
    {defineAll : Bool} (hc : s.Declares callee) (ha : ∀ a ∈ args, ∀ c ∈ a, s.Declares c) :
    s.Declares (finishCall callee args defaults defineAll) := by
  intro r hr
  rw [flatMap_finishCall Code.refs (fun _ => rfl) (fun callee args => Code.refs_call args callee)]
    at hr
  rcases List.mem_append.mp hr with called | passed
  · exact hc r called
  · obtain ⟨a, present, hr⟩ := List.mem_flatMap.mp passed
    cases a with
    | none => cases hr
    | some c => exact ha _ present c rfl r hr

theorem declares_propsObject {entries : List Code} {extra : List (String × Code)}
    (he : ∀ e ∈ entries, s.Declares e) (hx : ∀ kv ∈ extra, s.Declares kv.2) :
    ∀ c ∈ Compile.propsObject entries extra, s.Declares c := by
  unfold Compile.propsObject
  split
  · simp
  · simp only [Option.mem_def, Option.some.injEq, forall_eq', declares_object,
      List.forall_mem_append, List.forall_mem_map, declares_entry]
    exact ⟨he, hx⟩

theorem declares_sole (h : ∀ c ∈ cs, s.Declares c) : s.Declares (Code.sole cs) := by
  unfold Code.sole
  split
  · exact h _ (List.mem_singleton_self _)
  · exact declares_array.mpr h

end Declares

/-- A state whose table is sound and whose code refers only to what it declares: the code of
every blueprint and each template argument collected so far. -/
structure Closed (s : Context) : Prop where
  sound : s.Sound
  blueprints : ∀ b ∈ s.blueprints, s.Declares b.skeleton
  params : ∀ ps, s.params = some ps → ∀ v ∈ ps, s.Declares v

theorem Closed.mono {s t : Context} (h : s.Closed) (options : t.options = s.options)
    (table : t.blueprints = s.blueprints) (used : s.used ⊆ t.used)
    (params : ∀ ps, t.params = some ps → ∀ v ∈ ps, t.Declares v) : t.Closed := by
  refine ⟨?_, ?_, params⟩
  · have sound := h.sound
    simp only [Context.Sound, Context.CompleteBeyond] at sound ⊢
    rwa [options, table]
  · rw [table]
    exact fun b hb => (h.blueprints b hb).mono (table ▸ List.Subset.refl _) used

theorem Closed.restore {s t : Context} {p : Option (List Code)} (closed : s.Closed)
    (grows : ({ s with params := p } : Context).Grows t) (ht : t.Closed) :
    ({ t with params := s.params } : Context).Closed :=
  ht.mono rfl rfl (List.Subset.refl _) fun ps hp v hv =>
    Declares.grow (s := { s with params := p }) (t := t) (closed.params ps hp v hv) grows

theorem Declares.snoc {s : Context} {c : Code} (h : s.Declares c) (b : Blueprint) :
    ({ s with blueprints := s.blueprints ++ [b] } : Context).Declares c :=
  h.mono (List.subset_append_left _ _) (List.Subset.refl _)

theorem Closed.snoc {s : Context} (closed : s.Closed) {b : Blueprint}
    (declared : s.Declares b.skeleton)
    (sound : ({ s with blueprints := s.blueprints ++ [b] } : Context).Sound) :
    ({ s with blueprints := s.blueprints ++ [b] } : Context).Closed := by
  refine ⟨sound, ?_, fun ps hp v hv => (closed.params ps hp v hv).snoc b⟩
  intro b' hb'
  rcases List.mem_append.mp hb' with old | new
  · exact (closed.blueprints b' old).snoc b
  · rw [List.mem_singleton.mp new]
    exact declared.snoc b

theorem Sound.slotCount_eq_zero_iff {s : Context} (sound : s.Sound) {b : Blueprint}
    (hb : b ∈ s.blueprints) : b.slotCount = 0 ↔ b.signature.isStatic = true := by
  cases Context.sound_iff.mp sound b hb with
  | static _ _ _ isStatic => simpa using isStatic
  | template _ _ _ _ dynamic slots => simp only [dynamic, Bool.false_eq_true, iff_false]; omega

theorem Sound.template_params {s : Context} (sound : s.Sound) {b : Blueprint}
    (hb : b ∈ s.blueprints) (calls : b.slotCount ≠ 0) :
    b.slotCount = b.signature.slotCount ∧ b.skeleton.params = List.range b.slotCount := by
  cases Context.sound_iff.mp sound b hb with
  | static => exact absurd rfl calls
  | template id body wf _ _ _ built =>
    refine ⟨rfl, ?_⟩
    rw [built _ (List.prefix_refl _)]
    exact params_body sound.sitesPlain wf

theorem callee_mem_usedHelpers {s : Context} {h : Helper} (used : h ∈ s.used) :
    s.options.callee h ∈ s.declarations.usedHelpers := by
  have listed : h ∈ Helper.all := by cases h <;> simp [Helper.all]
  simp only [Context.declarations, List.mem_map, List.mem_filter, List.contains_iff_mem]
  exact ⟨h, ⟨listed, by simpa using used⟩, rfl⟩

/-- A state fit to be declared: its blueprints numbered by their position, and closed. -/
structure Consistent (s : Context) : Prop where
  numbered : Numbered s.blueprints
  closed : s.Closed

end Context

namespace Compile

/-! ### Runs that keep code declared -/

/-- How a run from a closed state ends: in a closed state and, on success, with the code `cs`
declared before and the code of its result declared there. -/
def Outcome {α : Type} (cs : List Code) (flat : α → List Code) :
    EStateM.Result CompileError Context α → Prop
  | .ok a t => t.Closed ∧ ∀ c ∈ cs ++ flat a, t.Declares c
  | .error _ t => t.Closed

/-- Every run of `x` from a closed state that declares the code `cs` ends as `Outcome` says;
`flat` lists the code of a result. -/
def Yields {α : Type} (cs : List Code) (flat : α → List Code) (x : Compile α) : Prop :=
  ∀ s : Context, s.Closed → (∀ c ∈ cs, s.Declares c) → Outcome cs flat (x.run s)

section Yields
variable {α β : Type} {cs : List Code}

theorem Yields.bind {x : Compile α} {f : α → Compile β} {fa : α → List Code}
    {fb : β → List Code} (hx : Yields cs fa x) (hf : ∀ a, Yields (cs ++ fa a) fb (f a)) :
    Yields cs fb (x >>= f) := by
  intro s closed declared
  have first := hx s closed declared
  simp only [EStateM.run_bind]
  cases run : x.run s with
  | error e t => rw [run] at first; exact first
  | ok a t =>
    rw [run] at first
    obtain ⟨closed', declared'⟩ := first
    have second := hf a t closed' declared'
    show Outcome cs fb ((f a).run t)
    cases run' : (f a).run t with
    | error e u => rw [run'] at second; exact second
    | ok b u =>
      rw [run'] at second
      refine ⟨second.1, fun c hc => second.2 c ?_⟩
      simp only [List.mem_append] at hc ⊢
      tauto

theorem Yields.pure {a : α} {flat : α → List Code}
    (h : ∀ s : Context, (∀ c ∈ cs, s.Declares c) → ∀ c ∈ flat a, s.Declares c) :
    Yields cs flat (pure a : Compile α) :=
  fun s closed declared => ⟨closed, List.forall_mem_append.mpr ⟨declared, h s declared⟩⟩

theorem Yields.pure_code {c : Code} (h : ∀ s : Context, (∀ x ∈ cs, s.Declares x) → s.Declares c) :
    Yields cs (fun c => [c]) (Pure.pure c : Compile Code) :=
  Yields.pure fun s declared => List.forall_mem_singleton.mpr (h s declared)

theorem Yields.pure_of_subset {a : α} {flat : α → List Code} (h : ∀ c ∈ flat a, c ∈ cs) :
    Yields cs flat (Pure.pure a : Compile α) :=
  Yields.pure fun _ declared c hc => declared c (h c hc)

theorem Yields.pure_cons {c : Code} {more : List Code} :
    Yields (cs ++ [c] ++ more) id (Pure.pure (c :: more) : Compile (List Code)) :=
  Yields.pure_of_subset fun x hx => by
    simp only [id, List.mem_cons] at hx
    simp only [List.mem_append, List.mem_singleton]
    tauto

theorem Yields.ite {c : Prop} [Decidable c] {flat : α → List Code} {x y : Compile α}
    (hx : Yields cs flat x) (hy : Yields cs flat y) : Yields cs flat (if c then x else y) := by
  split
  · exact hx
  · exact hy

theorem Yields.throw {flat : α → List Code} (e : CompileError) :
    Yields cs flat (throw e : Compile α) :=
  fun _ closed _ => closed

theorem useHelper_yields (h : Helper) : Yields cs (fun c => [c]) (useHelper h) := by
  intro s closed declared
  rw [run_useHelper]
  split
  · rename_i recorded
    exact ⟨closed, List.forall_mem_append.mpr ⟨declared, by simpa using recorded⟩⟩
  · have more : s.used ⊆ s.used ++ [h] := List.subset_append_left _ _
    refine ⟨closed.mono rfl rfl more fun ps hp v hv => (closed.params ps hp v hv).mono
      (List.Subset.refl _) more, List.forall_mem_append.mpr ⟨fun c hc => (declared c hc).mono
        (List.Subset.refl _) more, by simp⟩⟩

theorem options_yields : Yields cs (fun _ => []) options :=
  fun _ closed declared => ⟨closed, by simpa using declared⟩

theorem bindParam_yields {code : Code}
    (hc : ∀ s : Context, (∀ c ∈ cs, s.Declares c) → s.Declares code) :
    Yields cs (fun c => [c]) (bindParam code) := by
  intro s closed declared
  rw [run_bindParam]
  cases collecting : s.params with
  | none => exact ⟨closed, List.forall_mem_append.mpr ⟨declared, by simpa using hc s declared⟩⟩
  | some ps =>
    refine ⟨closed.mono rfl rfl (List.Subset.refl _) ?_, List.forall_mem_append.mpr ⟨declared, by simp⟩⟩
    rintro _ ⟨⟩ v hv
    rcases List.mem_append.mp hv with old | new
    · exact closed.params ps collecting v old
    · rw [List.mem_singleton.mp new]
      exact hc s declared

theorem suspended_yields {flat : α → List Code} {x : Compile α} (gx : Grows x)
    (hx : Yields cs flat x) : Yields cs flat (suspended x) := by
  intro s closed declared
  have inner := hx { s with params := none } (closed.mono rfl rfl (List.Subset.refl _) (by simp))
    declared
  have grows := gx.run { s with params := none }
  rw [run_suspended]
  cases run : x.run { s with params := none } with
  | ok a t => rw [run] at inner grows; exact ⟨closed.restore grows inner.1, inner.2⟩
  | error e t => rw [run] at inner grows; exact closed.restore grows inner

theorem childrenArg_yields (nodes : List Node) (cf : ChildFlagValue) (collapse : Bool)
    {items : Compile (List Code)} (hi : Yields cs id items) :
    Yields cs Option.toList (childrenArg nodes cf collapse items) := by
  have shaped : ∀ (s : Context) codes, (∀ c ∈ cs ++ id codes, s.Declares c) →
      s.Declares (.array codes) ∧ s.Declares (Code.sole codes) := fun s codes declared =>
    have each : ∀ c ∈ codes, s.Declares c := fun c hc => declared c (List.mem_append_right _ hc)
    ⟨Context.declares_array.mpr each, Context.declares_sole each⟩
  unfold childrenArg
  split
  · exact Yields.pure fun _ _ => by simp
  · refine Yields.ite (Yields.pure fun _ _ => by simp) (hi.bind fun codes => Yields.pure ?_)
    intro s declared
    simp only [Option.toList_some, List.forall_mem_singleton]
    split
    · exact (shaped s codes declared).1
    · exact (shaped s codes declared).2
  · refine hi.bind fun codes => Yields.pure ?_
    intro s declared
    simp only [Option.toList_some, List.forall_mem_singleton]
    split
    · exact (shaped s codes declared).2
    · exact (shaped s codes declared).1
  · refine hi.bind fun codes => Yields.pure ?_
    intro s declared
    simpa using (shaped s codes declared).1

theorem wrapIf_yields (cond : Bool) (h : Helper) {call : Code}
    (hc : ∀ s : Context, (∀ c ∈ cs, s.Declares c) → s.Declares call) :
    Yields cs (fun c => [c]) (wrapIf cond h call) := by
  unfold wrapIf
  refine Yields.ite ((useHelper_yields h).bind fun callee => Yields.pure ?_)
    (Yields.pure fun s declared => by simpa using hc s declared)
  intro s declared
  simp only [List.forall_mem_append, List.forall_mem_singleton] at declared
  simpa using ⟨declared.2, hc s declared.1⟩

end Yields

/-! ### Sites -/

section Sites
variable {cs : List Code}

theorem cachedSite_yields {sig : Signature} {build : Compile Code} (static : sig.isStatic = true)
    (hb : Yields cs (fun c => [c]) build) {s : Context} (closed : s.Closed)
    (declared : ∀ c ∈ cs, s.Declares c) (sound : (final ((cachedSite sig build).run s)).Sound) :
    Outcome cs (fun c => [c]) ((cachedSite sig build).run s) := by
  rw [run_cachedSite] at sound ⊢
  cases found : s.lookup sig with
  | some b =>
    obtain ⟨mem, named⟩ := Context.lookup_some found
    have slot : b.slotCount = 0 := (closed.sound.slotCount_eq_zero_iff mem).mpr (named ▸ static)
    refine ⟨closed, List.forall_mem_append.mpr ⟨declared, ?_⟩⟩
    simpa using ⟨⟨b, mem, rfl, slot⟩, closed.blueprints b mem⟩
  | none =>
    rw [found] at sound
    have inner := hb s closed declared
    cases run : build.run s with
    | error e t => rw [run] at inner; exact inner
    | ok skeleton t =>
      rw [run] at inner sound
      obtain ⟨closed', declared'⟩ := inner
      have built : t.Declares skeleton := declared' skeleton (by simp)
      have kept : ∀ c ∈ cs, t.Declares c := fun c hc => declared' c (List.mem_append_left _ hc)
      dsimp only at sound ⊢
      cases found' : t.lookup sig with
      | some b =>
        obtain ⟨mem, named⟩ := Context.lookup_some found'
        have slot : b.slotCount = 0 :=
          (closed'.sound.slotCount_eq_zero_iff mem).mpr (named ▸ static)
        exact ⟨closed', List.forall_mem_append.mpr ⟨kept, by simpa using ⟨⟨b, mem, rfl, slot⟩, built⟩⟩⟩
      | none =>
        rw [found'] at sound
        refine ⟨closed'.snoc built sound, List.forall_mem_append.mpr
          ⟨fun c hc => (kept c hc).snoc _, ?_⟩⟩
        simpa using ⟨⟨_, List.mem_append_right _ (List.mem_singleton_self _), rfl, rfl⟩,
          built.snoc _⟩

theorem templateSite_yields {sig : Signature} {build : Compile Code}
    (dynamic : sig.isStatic = false) (gb : Grows build) (hb : Yields cs (fun c => [c]) build)
    {s : Context} (closed : s.Closed) (declared : ∀ c ∈ cs, s.Declares c)
    (sound : (final ((templateSite sig build).run s)).Sound) :
    Outcome cs (fun c => [c]) ((templateSite sig build).run s) := by
  have inner := hb { s with params := some [] } (closed.mono rfl rfl (List.Subset.refl _) (by simp))
    declared
  have grows := gb.run { s with params := some [] }
  rw [run_templateSite] at sound ⊢
  cases run : build.run { s with params := some [] } with
  | error e t => rw [run] at inner grows; exact closed.restore grows inner
  | ok body t =>
    rw [run] at inner grows sound
    obtain ⟨closed', declared'⟩ := inner
    have back := closed.restore grows closed'
    have kept : ∀ c ∈ cs, t.Declares c := fun c hc => declared' c (List.mem_append_left _ hc)
    have args : ∀ v ∈ t.params.getD [], t.Declares v := by
      cases hp : t.params with
      | none => simp
      | some ps => exact closed'.params ps hp
    dsimp only at sound ⊢
    cases found : ({ t with params := s.params } : Context).lookup sig with
    | some b =>
      rw [found] at sound
      obtain ⟨mem, named⟩ := Context.lookup_some found
      have calls := back.sound.slotCount_eq_zero_iff mem
      simp only [named, dynamic, Bool.false_eq_true, iff_false] at calls
      exact ⟨back, List.forall_mem_append.mpr ⟨kept, by
        simpa using ⟨⟨b, mem, rfl, Nat.pos_of_ne_zero calls⟩, args⟩⟩⟩
    | none =>
      rw [found] at sound
      have mem := List.mem_append_right t.blueprints
        (List.mem_singleton_self ⟨sig, t.blueprints.length, body, (t.params.getD []).length⟩)
      have calls := sound.slotCount_eq_zero_iff mem
      simp only [dynamic, Bool.false_eq_true, iff_false] at calls
      refine ⟨back.snoc (declared' body (by simp)) sound, List.forall_mem_append.mpr
        ⟨fun c hc => (kept c hc).snoc _, ?_⟩⟩
      simpa using ⟨⟨_, mem, rfl, Nat.pos_of_ne_zero calls⟩, fun v hv => (args v hv).snoc _⟩

theorem hoisted_yields (scope : Scope) (nesting : Nesting) {n : Node} (wf : n.wellFormed = true)
    (direct : ∀ nest cs, Yields cs (fun c => [c]) (emitDirect scope nest n)) :
    Yields cs (fun c => [c]) (hoisted scope nesting n fun nest => emitDirect scope nest n) := by
  intro s closed declared
  have sound : (final ((hoisted scope nesting n fun nest => emitDirect scope nest n).run s)).Sound :=
    hoisted_completes scope nesting n wf (fun nest => direct_completes [] scope nest n wf) s
      closed.sound
  simp only [hoisted, EStateM.run_bind, run_options] at sound ⊢
  revert sound
  cases hsig : n.hoistSignature? with
  | none => exact fun _ => direct nesting cs s closed declared
  | some sig =>
    simp only
    split
    · split
      · exact cachedSite_yields ‹_› (direct .skeleton cs) closed declared
      · split
        · exact templateSite_yields (Bool.eq_false_iff.mpr ‹_›) (emit_grows.1 scope .template n)
            (direct .template cs) closed declared
        · exact fun _ => direct nesting cs s closed declared
    · exact fun _ => direct nesting cs s closed declared

theorem rooted_yields (scope : Scope) {n : Node} (wf : n.wellFormed = true)
    (direct : ∀ nest cs, Yields cs (fun c => [c]) (emitDirect scope nest n)) :
    Yields cs (fun c => [c]) (rooted scope n fun nest => emitDirect scope nest n) :=
  options_yields.bind fun _ => (hoisted_yields scope .site wf direct).bind fun code =>
    Yields.pure_code fun s declared => by
      have built : s.Declares code := declared code (by simp)
      split
      · exact built
      · exact built

end Sites

/-- Every emission of a classified node keeps the state closed and, when it succeeds, gives code
that refers only to what the state it ends in declares. The induction follows the emitter's own
recursion: each `do` statement is one `Yields.bind`, and the code a statement assembles is
declared because its parts are. -/
theorem emit_yields :
    (∀ scope nesting n, n.wellFormed = true → ∀ cs,
      Yields cs (fun c => [c]) (emitDirect scope nesting n)) ∧
    (∀ v, v.wellFormed = true → ∀ cs, Yields cs (fun c => [c]) (emitParam v)) ∧
    (∀ pieces, Piece.allWellFormed pieces = true → ∀ cs, Yields cs id (emitPieces pieces)) ∧
    (∀ scope nodes, (∀ n ∈ nodes, n.wellFormed = true) → ∀ cs,
      Yields cs id (emitComponentChildren scope nodes)) ∧
    (∀ cf, cf.wellFormed = true → ∀ cs, Yields cs Option.toList (emitChildFlags cf)) ∧
    (∀ scope nesting nodes, (∀ n ∈ nodes, n.wellFormed = true) → ∀ cs,
      Yields cs id (emitNodes scope nesting nodes)) ∧
    (∀ fields, (∀ f ∈ fields, f.value.wellFormed = true) → ∀ cs,
      Yields cs id (emitFieldEntries fields)) ∧
    (∀ v, v.wellFormed = true → ∀ cs, Yields cs (fun c => [c]) (emitValue v)) ∧
    (∀ o, (∀ t ∈ o, t.wellFormed = true) → ∀ cs, Yields cs Option.toList (emitOptional o)) := by
  refine emitDirect.mutual_induct
    (fun scope nesting n => n.wellFormed = true → ∀ cs,
      Yields cs (fun c => [c]) (emitDirect scope nesting n))
    (fun v => v.wellFormed = true → ∀ cs, Yields cs (fun c => [c]) (emitParam v))
    (fun pieces => Piece.allWellFormed pieces = true → ∀ cs, Yields cs id (emitPieces pieces))
    (fun scope nodes => (∀ n ∈ nodes, n.wellFormed = true) → ∀ cs,
      Yields cs id (emitComponentChildren scope nodes))
    (fun cf => cf.wellFormed = true → ∀ cs, Yields cs Option.toList (emitChildFlags cf))
    (fun scope nesting nodes => (∀ n ∈ nodes, n.wellFormed = true) → ∀ cs,
      Yields cs id (emitNodes scope nesting nodes))
    (fun fields => (∀ f ∈ fields, f.value.wellFormed = true) → ∀ cs,
      Yields cs id (emitFieldEntries fields))
    (fun v => v.wellFormed = true → ∀ cs, Yields cs (fun c => [c]) (emitValue v))
    (fun o => (∀ t ∈ o, t.wellFormed = true) → ∀ cs, Yields cs Option.toList (emitOptional o))
    ?_ ?_ ?_ ?_ ?_ ?_ ?_ ?_ ?_ ?_ ?_ ?_ ?_ ?_ ?_ ?_ ?_ ?_ ?_ ?_ ?_ ?_ ?_ ?_ ?_
  · intro l _ cs
    exact bindParam_yields fun _ _ => Context.declares_text _
  · intro pieces ih wf cs
    exact (suspended_yields (emit_grows.2.2.1 pieces) (ih (by simpa [Term.wellFormed] using wf) cs)).bind
      fun parts => bindParam_yields fun s declared =>
        Context.declares_expr.mpr fun c hc => declared c (List.mem_append_right _ hc)
  · intro l _ cs
    exact Yields.pure_code fun _ _ => Context.declares_text _
  · intro pieces ih wf cs
    exact (suspended_yields (emit_grows.2.2.1 pieces) (ih (by simpa [Term.wellFormed] using wf) cs)).bind
      fun parts => bindParam_yields fun s declared =>
        Context.declares_expr.mpr fun c hc => declared c (List.mem_append_right _ hc)
  · intro f _ cs
    exact Yields.pure fun _ _ => by split <;> simp
  · intro v ih wf cs
    exact (ih (by simpa [ChildFlagValue.wellFormed] using wf) cs).bind fun code =>
      Yields.pure fun s declared => by simpa using declared code (by simp)
  · intro scope nesting tag flags cls fields key ref children cf normC collapse normP sig
      hcls hfields hkey href hchildren hcf wf cs
    obtain ⟨-, -, -, wcls, wfields, wkey, wref, wchildren, wcf⟩ := Node.wellFormed_element_iff.mp wf
    cases normC <;> simp only [emitDirect, Bool.false_eq_true, if_false, if_true]
    · refine (useHelper_yields _).bind fun callee => (hcls wcls _).bind fun clsArg => ?_
      refine (childrenArg_yields _ _ _ (hchildren wchildren _)).bind fun chArg =>
        (hcf wcf _).bind fun cfArg => ?_
      refine (hfields wfields _).bind fun entries => (hkey wkey _).bind fun keyArg =>
        (href wref _).bind fun refArg => ?_
      refine options_yields.bind fun o => (Yields.pure_code ?_).bind fun call =>
        wrapIf_yields _ _ fun s declared => declared call (by simp)
      intro s declared
      simp only [List.mem_append, List.mem_singleton, Option.mem_toList, id, List.not_mem_nil,
        or_false, or_assoc, or_imp, forall_and, forall_eq] at declared
      obtain ⟨-, dcallee, dcls, dch, dcf, dentries, dkey, dref⟩ := declared
      refine Context.declares_finishCall dcallee ?_
      simp only [List.forall_mem_cons]
      exact ⟨by simp, by simp, dcls, dch, dcf, Context.declares_propsObject dentries (by simp), dkey,
        dref, by simp⟩
    · simp only [pure_bind]
      refine (useHelper_yields _).bind fun callee => (hcls wcls _).bind fun clsArg => ?_
      refine (hfields wfields _).bind fun entries => (hkey wkey _).bind fun keyArg =>
        (href wref _).bind fun refArg => ?_
      refine options_yields.bind fun o => (hchildren wchildren _).bind fun items =>
        (useHelper_yields _).bind fun nc => wrapIf_yields _ _ fun s declared => ?_
      simp only [List.mem_append, List.mem_singleton, Option.mem_toList, id, List.not_mem_nil,
        or_false, or_assoc, or_imp, forall_and, forall_eq] at declared
      obtain ⟨-, dcallee, dcls, dentries, dkey, dref, ditems, dnc⟩ := declared
      have list : s.Declares (if children.length == 1 then Code.sole items else .array items) := by
        split
        · exact Context.declares_sole ditems
        · exact Context.declares_array.mpr ditems
      refine Context.declares_call.mpr ⟨dnc, ?_⟩
      simp only [List.forall_mem_cons]
      refine ⟨Context.declares_finishCall dcallee ?_, list, by simp⟩
      simp only [List.forall_mem_cons]
      exact ⟨by simp, by simp, dcls, by simp, by simp,
        Context.declares_propsObject dentries (by simp), dkey, dref, by simp⟩
  · intro scope nesting tag flags fields key ref hooks children normP hchildren hfields hkey href
      hhooks wf cs
    obtain ⟨-, wfields, wkey, wref, whooks, wchildren⟩ := Node.wellFormed_component_iff.mp wf
    refine (useHelper_yields _).bind fun callee => (hchildren wchildren _).bind fun items => ?_
    refine (hfields wfields _).bind fun entries => (hkey wkey _).bind fun keyArg => ?_
    dsimp only
    split
    · refine (href wref _).bind fun refArg => options_yields.bind fun o =>
        wrapIf_yields _ _ fun s declared => ?_
      simp only [List.mem_append, List.mem_singleton, Option.mem_toList, id, List.not_mem_nil,
        or_false, or_assoc, or_imp, forall_and, forall_eq] at declared
      obtain ⟨-, dcallee, ditems, dentries, dkey, dref⟩ := declared
      refine Context.declares_finishCall dcallee ?_
      simp only [List.forall_mem_cons]
      refine ⟨by simp, by simp, Context.declares_propsObject dentries ?_, dkey, dref, by simp⟩
      split <;> simp_all
    · simp only [pure_bind]
      refine (hhooks whooks _).bind fun hookEntries => options_yields.bind fun o =>
        wrapIf_yields _ _ fun s declared => ?_
      simp only [List.mem_append, List.mem_singleton, Option.mem_toList, id, List.not_mem_nil,
        or_false, or_assoc, or_imp, forall_and, forall_eq] at declared
      obtain ⟨-, dcallee, ditems, dentries, dkey, dhooks⟩ := declared
      refine Context.declares_finishCall dcallee ?_
      simp only [List.forall_mem_cons]
      refine ⟨by simp, by simp, Context.declares_propsObject dentries ?_, dkey,
        Context.declares_propsObject dhooks (by simp), by simp⟩
      split <;> simp_all
  · intro scope nesting key children cf normC collapse sig hchildren hkey hcf wf cs
    obtain ⟨-, -, wkey, wchildren, wcf⟩ := Node.wellFormed_fragment_iff.mp wf
    refine (useHelper_yields _).bind fun callee =>
      (childrenArg_yields _ _ _ (hchildren wchildren _)).bind fun chArg => ?_
    dsimp only
    split
    · simp only [pure_bind]
      refine (hkey wkey _).bind fun keyArg => options_yields.bind fun o =>
        Yields.pure_code fun s declared => ?_
      simp only [List.mem_append, List.mem_singleton, Option.mem_toList, List.not_mem_nil,
        or_false, or_assoc, or_imp, forall_and, forall_eq] at declared
      obtain ⟨-, dcallee, dch, dkey⟩ := declared
      refine Context.declares_finishCall dcallee ?_
      simp only [List.forall_mem_cons]
      exact ⟨dch, by simp, dkey, by simp⟩
    · refine (hcf wcf _).bind fun cfArg => (hkey wkey _).bind fun keyArg => options_yields.bind
        fun o => Yields.pure_code fun s declared => ?_
      simp only [List.mem_append, List.mem_singleton, Option.mem_toList, List.not_mem_nil,
        or_false, or_assoc, or_imp, forall_and, forall_eq] at declared
      obtain ⟨-, dcallee, dch, dcf, dkey⟩ := declared
      refine Context.declares_finishCall dcallee ?_
      simp only [List.forall_mem_cons]
      exact ⟨dch, dcf, dkey, by simp⟩
  · intro scope nesting value _ cs
    exact (useHelper_yields _).bind fun callee => Yields.pure_code fun s declared => by
      simpa using declared callee (by simp)
  · intro scope nesting v ih wf cs
    exact ih (by simpa [Node.wellFormed] using wf) cs
  · intro _ cs
    exact Yields.pure_of_subset (by simp)
  · intro code rest ih wf cs
    exact (ih (by simpa [Piece.allWellFormed] using wf) cs).bind fun more =>
      Yields.pure fun s declared => by
        simp only [id, List.forall_mem_cons]
        exact ⟨Context.declares_source _, fun c hc => declared c (List.mem_append_right _ hc)⟩
  · intro e scope tail _ cs
    exact Yields.throw e
  · intro n scope rest ihn ih wf cs
    simp only [Piece.allWellFormed, Bool.and_eq_true] at wf
    exact (rooted_yields scope wf.1 fun nest => ihn nest wf.1).bind fun code =>
      (ih wf.2 _).bind fun more => Yields.pure_cons
  · intro v nullish _ cs
    simp only [emitOptional, nullish, if_true]
    exact Yields.pure_of_subset (by simp)
  · intro v present ih wf cs
    simp only [emitOptional, present]
    exact (ih (wf v rfl) cs).bind fun code => Yields.pure_of_subset (by simp)
  · intro _ cs
    exact Yields.pure_of_subset (by simp)
  · intro _ cs
    exact Yields.pure_of_subset (by simp)
  · intro name category value rest ihv ih wf cs
    refine (ihv (wf (.mk name category value) (by simp)) cs).bind fun code =>
      (ih (fun f hf => wf f (by simp [hf])) _).bind fun more => Yields.pure fun s declared => ?_
    have entry : s.Declares code := declared code (by simp)
    simp only [id, List.forall_mem_cons]
    refine ⟨?_, fun c hc => declared c (by simp [hc])⟩
    split
    · exact entry
    · exact entry
  · intro scope _ cs
    exact Yields.pure_of_subset (by simp)
  · intro scope rest t ih wf cs
    exact (Yields.pure_code fun _ _ => Context.declares_text _).bind fun code =>
      (ih (fun n hn => wf n (by simp [hn])) _).bind fun more => Yields.pure_cons
  · intro scope n rest notText ih ihn wf cs
    simp only [emitComponentChildren]
    exact (hoisted_yields scope .site (wf n (by simp)) fun nest => ihn nest (wf n (by simp))).bind
      fun code => (ih (fun m hm => wf m (by simp [hm])) _).bind fun more => Yields.pure_cons
  · intro scope nesting _ cs
    exact Yields.pure_of_subset (by simp)
  · intro scope nesting n rest ihn ih wf cs
    exact (hoisted_yields scope nesting (wf n (by simp)) fun nest => ihn nest (wf n (by simp))).bind
      fun code => (ih (fun m hm => wf m (by simp [hm])) _).bind fun more => Yields.pure_cons

theorem Outcome.closed {α : Type} {cs : List Code} {flat : α → List Code}
    {r : EStateM.Result CompileError Context α} (h : Outcome cs flat r) : (final r).Closed := by
  cases r with
  | ok a t => exact h.1
  | error e t => exact h

theorem tree_yields (t : Tree) (scope : Scope) {cs : List Code} :
    Yields cs (fun c => [c]) (Compile.tree t scope) := by
  intro s closed declared
  simp only [Compile.tree, EStateM.run_bind, run_ofExcept]
  cases classified : classify t with
  | error e => exact closed
  | ok n =>
    have wf := classify_wellFormed.1 t n classified
    exact rooted_yields scope wf (fun nest => emit_yields.1 scope nest n wf) s closed declared

/-! ### Declarations over whole runs -/

/-- The declarations of a file match every reference of its code. A fresh state is consistent,
and every step keeps it so, whether or not it succeeds: the blueprints are numbered `0 … n-1` by
their position under distinct signatures, so each is declared once; a blueprint is passed no
values exactly when its signature is static, so the slots line names the skeletons of static
sites and every other blueprint is a template with at least one parameter, its body using the
parameters `v0 … v(k-1)` of its `k` values. The code of a successful step, and the code of every
blueprint, reads only slots of static blueprints and calls only templates of the table and
helpers recorded as used, which the declarations list by their callees; what a state declares
stays declared through every later step. -/
theorem declarations_match_references :
    (∀ s : Context, s.blueprints = [] → s.params = none → s.Consistent) ∧
    (∀ (s : Context) (t : Tree) (scope : Scope), s.Consistent →
      (final ((Compile.tree t scope).run s)).Consistent) ∧
    (∀ (s : Context) (t : Tree) (scope : Scope) (c : Code) (s' : Context), s.Consistent →
      (Compile.tree t scope).run s = .ok c s' → s'.Declares c) ∧
    (∀ (s : Context) (c : Code) (t : Tree) (scope : Scope), s.Declares c →
      (final ((Compile.tree t scope).run s)).Declares c) ∧
    (∀ s : Context, s.Consistent →
      s.declarations.blueprints.map (·.id) = List.range s.declarations.blueprints.length ∧
      (∀ b ∈ s.declarations.blueprints,
        (b.slotCount = 0 ↔ b.signature.isStatic = true) ∧
        (b.slotCount ≠ 0 → b.slotCount = b.signature.slotCount ∧
          b.skeleton.params = List.range b.slotCount) ∧
        s.Declares b.skeleton) ∧
      ∀ h ∈ s.used, s.options.callee h ∈ s.declarations.usedHelpers) := by
  refine ⟨?_, ?_, ?_, ?_, ?_⟩
  · intro s empty idle
    refine ⟨by simp [Numbered, empty], ⟨[], by simp [empty], by simp⟩, by simp [empty], ?_⟩
    simp [idle]
  · intro s t scope consistent
    exact ⟨((tree_grows t scope).run s).numbered consistent.numbered,
      (@tree_yields t scope [] s consistent.closed (by simp)).closed⟩
  · intro s t scope c s' consistent run
    have outcome := @tree_yields t scope [] s consistent.closed (by simp)
    rw [run] at outcome
    exact outcome.2 c (by simp)
  · intro s c t scope declared
    exact declared.grow ((tree_grows t scope).run s)
  · intro s consistent
    have sound := consistent.closed.sound
    refine ⟨consistent.numbered.1, fun b hb => ⟨sound.slotCount_eq_zero_iff hb,
      sound.template_params hb, consistent.closed.blueprints b hb⟩, fun h used =>
        Context.callee_mem_usedHelpers used⟩

theorem declarations_match_references_template :
    let t := Tree.element "div" false []
      [.element "p" false [] [.text "static"] ⟨0, 0⟩,
        .element "span" false [] [.slot (.code "x")] ⟨0, 0⟩] ⟨0, 0⟩
    let s := Context.ofOptions { optimizeStaticVNodes := true }
    s.Consistent ∧ ∃ c s', (Compile.tree t .function).run s = .ok c s' ∧
      s'.blueprints.map Blueprint.slotCount = [0, 1] ∧ s'.Consistent ∧ s'.Declares c ∧
      (final ((Compile.tree t .function).run s')).Declares c ∧
      s'.declarations.blueprints.map (·.id) = List.range s'.declarations.blueprints.length ∧
      (∀ b ∈ s'.declarations.blueprints,
        (b.slotCount = 0 ↔ b.signature.isStatic = true) ∧
        (b.slotCount ≠ 0 → b.slotCount = b.signature.slotCount ∧
          b.skeleton.params = List.range b.slotCount) ∧
        s'.Declares b.skeleton) ∧
      ∀ h ∈ s'.used, s'.options.callee h ∈ s'.declarations.usedHelpers := by
  intro t s
  obtain ⟨fresh, step, declared, kept, listed⟩ := declarations_match_references
  have consistent := fresh s rfl rfl
  have ran : ((Compile.tree t .function).run' s).isSome = true := by decide +kernel
  have allocated : (final ((Compile.tree t .function).run s)).blueprints.map Blueprint.slotCount =
      [0, 1] := by decide +kernel
  obtain ⟨c, s', run⟩ := run_ok_of_isSome ran
  have after := step s t .function consistent
  rw [run, final_ok] at allocated after
  have declares := declared s t .function c s' consistent run
  exact ⟨consistent, c, s', run, allocated, after, declares, kept s' c t .function declares,
    listed s' after⟩

end Compile

end JsxVNode
