import JsxVNode.Proofs.Hoisting
import JsxVNode.Proofs.Elision
/-!
The keys of the children a call passes under known child flags. An item of a children array is a
vnode's own code, a static blueprint's slot or a template's call; `Code.resolve` reads the last
two through the blueprint table, to the skeleton or to the body with the call's values in place,
and `Code.keyArgument?` reads off the key the vnode's call passes.

Under "keyed" flags each item passes a key exactly when its child's key reaches the runtime, and
under "non-keyed" flags none passes one. A key that is `null` or `undefined`, or a literal
written as the position's default `null`, is never written, so keyed flags do not promise a key
in every item. The main statement, `inferred_child_flags_shown`, gathers this with what
`Node.ShowsChildFlags` says of the call.

`Resolves post x` says that every successful run of `x` from a sound table keeps it sound and
only grows it, with a value satisfying `post` under every table numbered by position that the
final one grows into.
-/
namespace JsxVNode

def Helper.keyIndex? : Helper → Option Nat
  | .createVNode => some 6
  | .createComponentVNode => some 3
  | .createFragment => some 2
  | _ => none

/-- Whether a key reaches the runtime: an expression does, and a literal unless it is `null` or
`undefined` or is written as the default `null`. -/
def Term.passesAsKey (k : Term) : Bool :=
  !k.isNullish && k.literal?.all (·.render != "null")

def Node.passesKey (n : Node) : Bool := n.key?.any Term.passesAsKey

namespace Code

def vnodeCall (c : Code) : Code :=
  match c.unwrapProps with
  | .call (.helper .normalizeChildren) [inner, _] => inner
  | inner => inner

def keyArgument? (c : Code) : Option Code :=
  match c.vnodeCall with
  | call@(.call (.helper h) _) => h.keyIndex?.bind fun i => call.argument? h.defaults i
  | _ => none

/-- The code an item of a children array runs as, its blueprint looked up in the table: a static
blueprint's slot runs its skeleton, and a template's call the body with the call's values in
place. -/
def resolve (bps : List Blueprint) : Code → Option Code
  | .cached _ skeleton => some skeleton
  | .template id args => (bps.find? (·.id = id)).map fun b => b.skeleton.fill args
  | c => some c

theorem argument?_finishCall_text {callee : Code} {args : List (Option Code)}
    {defaults : List String} {defineAll : Bool} {i : Nat} {s : String}
    (h : args[i]? = some (some (.text s))) :
    (finishCall callee args defaults defineAll).argument? defaults i =
      if s = defaults.getD i "" then none else some (.text s) := by
  have written := lt_writtenCount h defineAll
  simp only [finishCall, argument?, List.getElem?_map, List.getElem?_zipIdx, List.getElem?_take,
    written, if_true, h, Option.map_some, Option.getD_some]

theorem keyArgument?_finishCall {c : Code} {h : Helper} {args : List (Option Code)}
    {defineAll : Bool} (built : c.vnodeCall = finishCall (.helper h) args h.defaults defineAll) :
    c.keyArgument? = h.keyIndex?.bind fun i =>
      (finishCall (.helper h) args h.defaults defineAll).argument? h.defaults i := by
  unfold keyArgument?
  rw [built]
  rfl

end Code

/-- An item of a children array passes its child's key: read through the table, it runs as code
whose call passes a key exactly when the child's key reaches the runtime. -/
def Node.KeyPassedBy (bps : List Blueprint) (x : Node) (item : Code) : Prop :=
  (item.resolve bps).map (·.keyArgument?.isSome) = some x.passesKey

/-- What known child flags `f` promise of the keys in a children argument `arg`, each item read
through the table `bps`: keyed flags pass each child's key exactly when it reaches the runtime,
and non-keyed flags pass none. -/
structure KeysPromise (bps : List Blueprint) (children : List Node) (f : Nat) (arg : Option Code) :
    Prop where
  keyed : f = ChildFlags.keyed → ∃ items, arg = some (.array items) ∧
    List.Forall₂ (Node.KeyPassedBy bps) children items
  unkeyed : f = ChildFlags.nonKeyed → ∃ items, arg = some (.array items) ∧
    List.Forall₂ (fun _ item => (item.resolve bps).map Code.keyArgument? = some none) children items

def Node.ShowsChildKeys (bps : List Blueprint) : Node → Code → Prop
  | .element _ _ _ _ _ _ children (.known f) _ _ _ _, c =>
    KeysPromise bps children f (c.unwrapProps.argument? elementDefaults 3)
  | .fragment _ children (.known f) _ _ _, c =>
    KeysPromise bps children f (c.argument? fragmentDefaults 0)
  | _, _ => True

namespace Compile

/-! ### Values read through the table -/

/-- Every successful run of `x` from a sound state ends in a sound one, with the table grown and
a value satisfying `post` under every numbered table the final one grows into. -/
def Resolves {α : Type} (post : List Blueprint → α → Prop) (x : Compile α) : Prop :=
  ∀ s a t, s.Sound → x.run s = .ok a t →
    t.Sound ∧ s.blueprints <+: t.blueprints ∧ ∀ bs, t.blueprints <+: bs → Numbered bs → post bs a

section Resolves
variable {α β : Type} {p p' : List Blueprint → α → Prop} {q : List Blueprint → β → Prop}

theorem Resolves.intro {x : Compile α} (grows : Grows x) (sound : Keeps Context.Sound x)
    (post : ∀ s a t, s.Sound → x.run s = .ok a t → ∀ bs, t.blueprints <+: bs → Numbered bs → p bs a) :
    Resolves p x := by
  intro s a t hs run
  have grown := grows.run s
  have kept := sound s hs
  rw [run, final_ok] at grown kept
  exact ⟨kept, grown.earlier, post s a t hs run⟩

theorem Resolves.of_returns {x : Compile α} {r : α → Prop} (h : Returns r x) (grows : Grows x)
    (sound : Keeps Context.Sound x) : Resolves (fun _ a => r a) x :=
  Resolves.intro grows sound fun s a t _ run _ _ _ => h s a t run

theorem Resolves.pure {a : α} (h : ∀ bs, Numbered bs → p bs a) :
    Resolves p (Pure.pure a : Compile α) := by
  intro s b t hs run
  cases run
  exact ⟨hs, List.prefix_refl _, fun bs _ numbered => h bs numbered⟩

theorem Resolves.bind {x : Compile α} {f : α → Compile β} (hx : Resolves p x)
    (hf : ∀ a, Resolves (fun bs b => p bs a → q bs b) (f a)) : Resolves q (x >>= f) := by
  intro s b t hs run
  obtain ⟨a, u, first, rest⟩ := run_bind_eq_ok run
  obtain ⟨hu, earlier, post⟩ := hx s a u hs first
  obtain ⟨ht, later, post'⟩ := hf a u b t hu rest
  exact ⟨ht, earlier.trans later, fun bs grown numbered =>
    post' bs grown numbered (post bs (later.trans grown) numbered)⟩

theorem Resolves.mono {x : Compile α} (h : Resolves p x) (imp : ∀ bs a, p bs a → p' bs a) :
    Resolves p' x := by
  intro s a t hs run
  obtain ⟨ht, earlier, post⟩ := h s a t hs run
  exact ⟨ht, earlier, fun bs grown numbered => imp bs a (post bs grown numbered)⟩

theorem Resolves.seq {x : Compile α} {f : α → Compile β} (grows : Grows x)
    (sound : Keeps Context.Sound x) (hf : ∀ a, Resolves q (f a)) : Resolves q (x >>= f) :=
  (Resolves.of_returns (Returns.true x) grows sound).bind fun a =>
    (hf a).mono fun _ _ h _ => h

theorem Resolves.useHelper {h : Helper} {f : Code → Compile β} (hf : Resolves q (f (.helper h))) :
    Resolves q (useHelper h >>= f) := by
  intro s b t hs run
  rw [EStateM.run_bind, run_useHelper] at run
  have recorded : (if s.used.contains h then s else { s with used := s.used ++ [h] }).Sound := by
    split
    · exact hs
    · exact hs
  obtain ⟨ht, earlier, post⟩ := hf _ b t recorded run
  refine ⟨ht, ?_, post⟩
  split at earlier <;> exact earlier

end Resolves

/-! ### The key a vnode's call passes -/

section Keys
variable {scope : Scope} {nesting : Nesting}

theorem emitOptional_key (key : Option Term) :
    Returns (fun a => ∀ (h : Helper) (args : List (Option Code)) (defineAll : Bool) (i : Nat),
        args[i]? = some a → h.defaults.getD i "" = "null" →
        ((finishCall (.helper h) args h.defaults defineAll).argument? h.defaults i).isSome =
          key.any Term.passesAsKey)
      (emitOptional key) := by
  have absent : ∀ (h : Helper) (args : List (Option Code)) defineAll i, args[i]? = some none →
      ((finishCall (.helper h) args h.defaults defineAll).argument? h.defaults i).isSome = false :=
    fun _ _ _ _ at_i => by rw [Code.argument?_finishCall at_i (by simp)]; rfl
  have written : ∀ (h : Helper) (args : List (Option Code)) defineAll i (c : Code),
      args[i]? = some (some c) → (∀ s, c ≠ .text s) →
      ((finishCall (.helper h) args h.defaults defineAll).argument? h.defaults i).isSome = true :=
    fun _ _ _ _ c at_i notText => by
      rw [Code.argument?_finishCall at_i (by rintro s ⟨⟩; exact absurd rfl (notText s))]; rfl
  cases key with
  | none =>
    rw [emitOptional]
    exact Returns.pure fun h args defineAll i at_i _ => absent h args defineAll i at_i
  | some k =>
    rw [emitOptional]
    refine Returns.ite (fun nullish => Returns.pure fun h args defineAll i at_i _ => ?_)
      fun present => ?_
    · simp [absent h args defineAll i at_i, Term.passesAsKey, nullish]
    cases k with
    | literal l =>
      refine Returns.pure fun h args defineAll i at_i null => ?_
      rw [Code.argument?_finishCall_text at_i, null]
      by_cases shown : l.render = "null"
      · simp [shown, Term.passesAsKey, Term.literal?]
      · simp_all [Term.passesAsKey, Term.literal?]
    | expr pieces =>
      rw [emitValue, bind_assoc]
      refine Returns.seq fun parts => Returns.bind (p := fun c => ∀ s, c ≠ .text s)
        (bindParam_returns (fun _ => Code.noConfusion) fun _ _ => Code.noConfusion)
        fun c notText => Returns.pure fun h args defineAll i at_i _ => ?_
      rw [written h args defineAll i c at_i notText]
      rfl

theorem wrapIf_vnodeCall (cond : Bool) {call callee : Code} {args : List Code}
    (isCall : call = .call callee args) (plain : call.unwrapProps = call) :
    Returns (fun c => (∀ bps, c.resolve bps = some c) ∧ c.vnodeCall = call.vnodeCall)
      (wrapIf cond .normalizeProps call) := by
  subst isCall
  unfold wrapIf
  refine Returns.ite (fun _ => (useHelper_returns _).bind fun nc named => Returns.pure ?_)
    fun _ => Returns.pure ⟨fun _ => rfl, rfl⟩
  subst named
  refine ⟨fun _ => rfl, ?_⟩
  simp only [Code.vnodeCall, Code.unwrapProps] at plain ⊢
  rw [plain]

section Element
variable {tag : String} {flags : Nat} {cls : Option Term} {fields : List Field}
  {key ref : Option Term} {children : List Node} {cf : ChildFlagValue}
  {normC collapse normP : Bool} {sig : Option Signature}

theorem element_key :
    Returns (fun c => (∀ bps, c.resolve bps = some c) ∧ c.keyArgument?.isSome = key.any Term.passesAsKey)
      (emitDirect scope nesting
        (.element tag flags cls fields key ref children cf normC collapse normP sig)) := by
  rw [emitDirect]
  refine (useHelper_returns _).bind fun callee named => ?_
  subst named
  refine Returns.seq fun _ => ?_
  cases normC <;> simp only [Bool.false_eq_true, if_false, if_true, pure_bind]
  · refine Returns.seq fun _ => Returns.seq fun _ => Returns.seq fun _ => ?_
    refine (emitOptional_key key).bind fun keyArg passed => Returns.seq fun _ => Returns.seq fun _ => ?_
    refine (wrapIf_vnodeCall normP rfl rfl).mono fun c ⟨resolved, same⟩ => ⟨resolved, ?_⟩
    rw [Code.keyArgument?_finishCall (same.trans rfl)]
    exact passed .createVNode _ _ 6 rfl rfl
  · refine Returns.seq fun _ => (emitOptional_key key).bind fun keyArg passed => ?_
    refine Returns.seq fun _ => Returns.seq fun _ => Returns.seq fun _ => ?_
    refine (useHelper_returns _).bind fun nc named => ?_
    subst named
    refine (wrapIf_vnodeCall normP rfl rfl).mono fun c ⟨resolved, same⟩ => ⟨resolved, ?_⟩
    rw [Code.keyArgument?_finishCall (same.trans rfl)]
    exact passed .createVNode _ _ 6 rfl rfl

end Element

theorem component_key {tag : String} {flags : Nat} {fields : List Field} {key ref : Option Term}
    {hooks : List Field} {children : List Node} {normP : Bool} :
    Returns (fun c => (∀ bps, c.resolve bps = some c) ∧ c.keyArgument?.isSome = key.any Term.passesAsKey)
      (emitDirect scope nesting (.component tag flags fields key ref hooks children normP)) := by
  rw [emitDirect]
  refine (useHelper_returns _).bind fun callee named => ?_
  subst named
  refine Returns.seq fun _ => Returns.seq fun _ => (emitOptional_key key).bind fun keyArg passed => ?_
  have call : ∀ props refArg, Returns (fun c => (∀ bps, c.resolve bps = some c) ∧
      c.keyArgument?.isSome = key.any Term.passesAsKey) (do
        let defineAll := (← options).defineAllArguments
        wrapIf normP .normalizeProps (finishCall (.helper .createComponentVNode)
          [some (.text (toString flags)), some (.text tag), props, keyArg, refArg] componentDefaults
          defineAll)) := fun props refArg =>
    Returns.seq fun _ => (wrapIf_vnodeCall normP rfl rfl).mono fun c ⟨resolved, same⟩ =>
      ⟨resolved, by rw [Code.keyArgument?_finishCall same]; exact passed .createComponentVNode _ _ 3 rfl rfl⟩
  simp only [pure_bind]
  split
  · exact Returns.seq fun refArg => call _ refArg
  · exact Returns.seq fun entries => call _ _

theorem fragment_key {key : Option Term} {children : List Node} {cf : ChildFlagValue}
    {normC collapse : Bool} {sig : Option Signature} :
    Returns (fun c => (∀ bps, c.resolve bps = some c) ∧ c.keyArgument?.isSome = key.any Term.passesAsKey)
      (emitDirect scope nesting (.fragment key children cf normC collapse sig)) := by
  rw [emitDirect]
  refine (useHelper_returns _).bind fun callee named => ?_
  subst named
  refine Returns.seq fun ch => ?_
  have call : ∀ cfArg, Returns (fun c => (∀ bps, c.resolve bps = some c) ∧
      c.keyArgument?.isSome = key.any Term.passesAsKey) (do
        let keyArg ← emitOptional key
        let defineAll := (← options).defineAllArguments
        pure (finishCall (.helper .createFragment) [ch, cfArg, keyArg] fragmentDefaults defineAll)) :=
    fun cfArg => (emitOptional_key key).bind fun keyArg passed => Returns.seq fun _ =>
      Returns.pure ⟨fun _ => rfl, by
        rw [Code.keyArgument?_finishCall rfl]; exact passed .createFragment _ _ 2 rfl rfl⟩
  cases ch.isNone <;> simp only [Bool.false_eq_true, if_false, if_true, pure_bind]
  · exact Returns.seq fun cfArg => call cfArg
  · exact call none

theorem direct_key (n : Node) :
    Returns (fun c => (∀ bps, c.resolve bps = some c) ∧ c.keyArgument?.isSome = n.passesKey)
      (emitDirect scope nesting n) := by
  cases n with
  | element => exact element_key
  | component => exact component_key
  | fragment => exact fragment_key
  | text t =>
    rw [emitDirect]
    refine (useHelper_returns _).bind fun callee named => Returns.pure ?_
    subst named
    exact ⟨fun _ => rfl, rfl⟩
  | slot v =>
    rw [emitDirect]
    exact emitParam_returns (fun _ => ⟨fun _ => rfl, rfl⟩) (fun _ => ⟨fun _ => rfl, rfl⟩)
      (fun _ => ⟨fun _ => rfl, rfl⟩) v

theorem hoisted_key {n : Node} (wf : n.wellFormed = true) :
    Resolves (fun bps c => n.KeyPassedBy bps c) (hoisted scope nesting n fun k => emitDirect scope k n) := by
  refine Resolves.intro (hoisted_grows scope nesting n fun k => emit_grows.1 scope k n)
    (hoisted_completes scope nesting n wf fun k => direct_completes [] scope k n wf) ?_
  intro s c t sound run bps grown numbered
  have inPlace : ∀ k s' t', (emitDirect scope k n).run s' = .ok c t' → n.KeyPassedBy bps c := by
    intro k s' t' built
    obtain ⟨resolved, passes⟩ := direct_key n s' c t' built
    simp [Node.KeyPassedBy, resolved, passes]
  simp only [hoisted, EStateM.run_bind, run_options] at run
  cases hsig : n.hoistSignature? with
  | none => rw [hsig] at run; exact inPlace _ _ _ run
  | some sig =>
    rw [hsig] at run
    simp only at run
    split at run
    · split at run
      · obtain ⟨id, skeleton, rfl, ⟨t', built⟩, -⟩ := cachedSite_skeleton wf hsig ‹_› sound run
        obtain ⟨-, passes⟩ := direct_key n s skeleton t' built
        simp [Node.KeyPassedBy, Code.resolve, passes]
      · split at run
        · rename_i cached _ site
          simp only [Bool.and_eq_true, bne_iff_ne, ne_eq] at cached site
          obtain ⟨id, args, rfl, -, b, mem, rfl, -, -, -, inline, t', built, filled⟩ :=
            templateSite_fills wf hsig (Bool.eq_false_iff.mpr ‹_›) (by simpa using site.2) sound
              cached.2 run
          obtain ⟨-, passes⟩ := direct_key n _ inline t' built
          -- the call's id names one blueprint in every numbered table the step's table grows into
          simp [Node.KeyPassedBy, Code.resolve, numbered.find?_id (grown.subset mem), filled, passes]
        · exact inPlace _ _ _ run
    · exact inPlace _ _ _ run

theorem emitNodes_keys {nodes : List Node} (wf : ∀ n ∈ nodes, n.wellFormed = true) :
    Resolves (fun bps items => List.Forall₂ (Node.KeyPassedBy bps) nodes items)
      (emitNodes scope nesting nodes) := by
  induction nodes with
  | nil => exact Resolves.pure fun _ _ => .nil
  | cons n rest ih =>
    rw [emitNodes]
    exact (hoisted_key (wf n (.head _))).bind fun c => (ih fun m hm => wf m (.tail _ hm)).bind
      fun more => Resolves.pure fun _ _ others first => .cons first others

theorem childrenArg_keys {nodes : List Node} (wf : ∀ n ∈ nodes, n.wellFormed = true)
    (two : 2 ≤ nodes.length) (cf : ChildFlagValue) (collapse : Bool) :
    Resolves (fun bps ch => ∃ items, ch = some (.array items) ∧
        List.Forall₂ (Node.KeyPassedBy bps) nodes items)
      (childrenArg nodes cf collapse (emitNodes scope nesting nodes)) := by
  rcases nodes with _ | ⟨x, _ | ⟨y, more⟩⟩
  · simp at two
  · simp at two
  simp only [childrenArg]
  exact (emitNodes_keys wf).bind fun items => Resolves.pure fun _ _ keyed => ⟨items, rfl, keyed⟩

theorem KeysPromise.of_flags {bps : List Blueprint} {children : List Node} {f : Nat}
    {arg : Option Code} (notKeyed : f ≠ ChildFlags.keyed) (notUnkeyed : f ≠ ChildFlags.nonKeyed) :
    KeysPromise bps children f arg :=
  ⟨fun h => absurd h notKeyed, fun h => absurd h notUnkeyed⟩

theorem Node.KeyPassedBy.unkeyed {bps : List Blueprint} {x : Node} {item : Code}
    (passes : x.KeyPassedBy bps item) (unkeyed : x.key? = none) :
    (item.resolve bps).map Code.keyArgument? = some none := by
  simp only [Node.KeyPassedBy, Node.passesKey, unkeyed, Option.any_none] at passes
  obtain ⟨code, resolved, absent⟩ := Option.map_eq_some_iff.mp passes
  rw [resolved]
  simpa using absent

section Shown
variable {tag : String} {flags : Nat} {cls : Option Term} {fields : List Field}
  {key ref : Option Term} {children : List Node} {collapse normP : Bool} {sig : Option Signature}

theorem element_keys {f : Nat}
    (wf : (Node.element tag flags cls fields key ref children (.known f) false collapse normP sig).wellFormed = true)
    (two : 2 ≤ children.length) :
    Resolves (fun bps c => ∃ items, c.unwrapProps.argument? elementDefaults 3 = some (.array items) ∧
        List.Forall₂ (Node.KeyPassedBy bps) children items)
      (emitDirect scope nesting
        (.element tag flags cls fields key ref children (.known f) false collapse normP sig)) := by
  obtain ⟨-, -, -, wcls, wfields, wkey, wref, wchildren, wcf⟩ := Node.wellFormed_element_iff.mp wf
  rw [emitDirect]
  refine Resolves.useHelper ?_
  refine Resolves.seq (emit_grows.2.2.2.2.2.2.2.2 cls) (values_keep_sound.2.2.2 cls wcls) fun _ => ?_
  simp only [Bool.false_eq_true, if_false, pure_bind]
  refine (childrenArg_keys wchildren two _ _).bind fun ch => ?_
  refine Resolves.seq (emit_grows.2.2.2.2.1 _) (values_keep_sound.2.1 _ wcf) fun _ => ?_
  refine Resolves.seq (emit_grows.2.2.2.2.2.2.1 fields) (values_keep_sound.2.2.1 fields wfields)
    fun _ => ?_
  refine Resolves.seq (emit_grows.2.2.2.2.2.2.2.2 key) (values_keep_sound.2.2.2 key wkey) fun _ => ?_
  refine Resolves.seq (emit_grows.2.2.2.2.2.2.2.2 ref) (values_keep_sound.2.2.2 ref wref) fun _ => ?_
  refine Resolves.seq options_grows options_keeps fun _ => ?_
  refine (Resolves.of_returns (wrapIf_unwrapProps normP rfl) (wrapIf_grows _ _ _)
    (wrapIf_keeps (fun _ _ h => h) _ _ _)).mono fun bps c unwrapped passed => ?_
  obtain ⟨items, rfl, keyed⟩ := passed
  exact ⟨items, by rw [unwrapped, Code.argument?_finishCall rfl (by simp)], keyed⟩

theorem fragment_keys {f : Nat} {normC : Bool}
    (wf : (Node.fragment key children (.known f) normC collapse sig).wellFormed = true)
    (two : 2 ≤ children.length) :
    Resolves (fun bps c => ∃ items, c.argument? fragmentDefaults 0 = some (.array items) ∧
        List.Forall₂ (Node.KeyPassedBy bps) children items)
      (emitDirect scope nesting (.fragment key children (.known f) normC collapse sig)) := by
  obtain ⟨-, -, wkey, wchildren, wcf⟩ := Node.wellFormed_fragment_iff.mp wf
  rw [emitDirect]
  refine Resolves.useHelper ?_
  refine (childrenArg_keys wchildren two _ _).bind fun ch => ?_
  have call : ∀ cfArg, Resolves (fun bps c =>
      (∃ items, ch = some (.array items) ∧ List.Forall₂ (Node.KeyPassedBy bps) children items) →
        ∃ items, c.argument? fragmentDefaults 0 = some (.array items) ∧
          List.Forall₂ (Node.KeyPassedBy bps) children items) (do
        let keyArg ← emitOptional key
        let defineAll := (← options).defineAllArguments
        pure (finishCall (.helper .createFragment) [ch, cfArg, keyArg] fragmentDefaults defineAll)) := by
    intro cfArg
    refine Resolves.seq (emit_grows.2.2.2.2.2.2.2.2 key) (values_keep_sound.2.2.2 key wkey) fun _ => ?_
    refine Resolves.seq options_grows options_keeps fun _ => Resolves.pure fun bps _ passed => ?_
    obtain ⟨items, rfl, keyed⟩ := passed
    exact ⟨items, Code.argument?_finishCall rfl (by simp), keyed⟩
  cases ch.isNone <;> simp only [Bool.false_eq_true, if_false, if_true, pure_bind]
  · exact Resolves.seq (emit_grows.2.2.2.2.1 _) (values_keep_sound.2.1 _ wcf) fun cfArg => call cfArg
  · exact call none

/-- An element or fragment shows in its call the keys its inferred flags promise. -/
theorem child_keys_shown {v : Node} (inferred : v.Inferred) (wf : v.wellFormed = true) :
    Resolves (fun bps c => v.ShowsChildKeys bps c) (emitDirect scope nesting v) := by
  have promised : ∀ {p : List Blueprint → Code → Prop}, (∀ bps c, p bps c) →
      Resolves p (emitDirect scope nesting v) := fun h =>
    Resolves.intro (emit_grows.1 scope nesting v) (direct_completes [] scope nesting v wf)
      fun _ _ _ _ _ _ _ _ => h _ _
  cases v with
  | element tag flags cls fields key ref children cf normC collapse normP sig =>
    rcases Layout.resolve_inferred children with
      ⟨rfl, resolved⟩ | ⟨x, rfl, notSlot, resolved⟩ | ⟨two, each, resolved⟩ |
        ⟨two, each, resolved⟩ | ⟨nonempty, resolved⟩ <;>
      rw [Node.Inferred, resolved] at inferred <;> cases inferred
    · exact promised fun _ _ => KeysPromise.of_flags (by decide) (by decide)
    · exact promised fun _ _ => KeysPromise.of_flags (by decide) (by decide)
    · refine (element_keys wf two).mono fun bps c keyed => ⟨fun _ => keyed, fun h => absurd h (by decide)⟩
    · refine (element_keys wf two).mono fun bps c ⟨items, passed, keyed⟩ =>
        ⟨fun h => absurd h (by decide), fun _ => ⟨items, passed, ?_⟩⟩
      exact ((List.forall₂_and_left _ _).mpr ⟨fun x hx => (each x hx).2, keyed⟩).imp
        fun x item ⟨unkeyed, passes⟩ => Node.KeyPassedBy.unkeyed passes unkeyed
    · exact promised fun _ _ => KeysPromise.of_flags (by decide) (by decide)
  | fragment key children cf normC collapse sig =>
    rcases Layout.resolve_inferred children with
      ⟨rfl, resolved⟩ | ⟨x, rfl, notSlot, resolved⟩ | ⟨two, each, resolved⟩ |
        ⟨two, each, resolved⟩ | ⟨nonempty, resolved⟩ <;>
      rw [Node.Inferred, resolved] at inferred <;> cases inferred
    · exact promised fun _ _ => KeysPromise.of_flags (by decide) (by decide)
    · exact promised fun _ _ => KeysPromise.of_flags (by decide) (by decide)
    · refine (fragment_keys wf two).mono fun bps c keyed => ⟨fun _ => keyed, fun h => absurd h (by decide)⟩
    · refine (fragment_keys wf two).mono fun bps c ⟨items, passed, keyed⟩ =>
        ⟨fun h => absurd h (by decide), fun _ => ⟨items, passed, ?_⟩⟩
      exact ((List.forall₂_and_left _ _).mpr ⟨fun x hx => (each x hx).2, keyed⟩).imp
        fun x item ⟨unkeyed, passes⟩ => Node.KeyPassedBy.unkeyed passes unkeyed
    · exact promised fun _ _ => KeysPromise.of_flags (by decide) (by decide)
  | component | text | slot => exact inferred.elim

/-- Child flags that the children decide are shown in the emitted call, wherever the element or
fragment is emitted (`Node.ShowsChildFlags`); from a sound table, the keys its items pass agree
with the flags under every numbered table the step's table grows into (`Node.ShowsChildKeys`). -/
theorem inferred_child_flags_shown {v : Node} (inferred : v.Inferred) {s : Context} {c : Code}
    {t : Context} (run : (emitDirect scope nesting v).run s = .ok c t) :
    v.ShowsChildFlags c ∧ (v.wellFormed = true → s.Sound →
      ∀ bps, t.blueprints <+: bps → Numbered bps → v.ShowsChildKeys bps c) := by
  refine ⟨shows_inferred_child_flags inferred run, fun wf sound => ?_⟩
  exact (child_keys_shown inferred wf s c t sound run).2.2

theorem inferred_child_flags_shown_hoisted_items :
    let items := [
      Tree.element "li" false [.named (.plain "key") (.literal (.str "a")) ⟨1, 7⟩] [.text "static"] ⟨1, 3⟩,
      .element "li" false [.named (.plain "key") (.code "k") ⟨1, 7⟩] [.slot (.code "y")] ⟨1, 3⟩]
    let s := Context.ofOptions { optimizeStaticVNodes := true }
    ∃ v c t, classify (.fragment none items ⟨1, 1⟩) = .ok v ∧ v.Inferred ∧
      (emitDirect .function .site v).run s = .ok c t ∧ t.blueprints.map Blueprint.slotCount = [0, 2] ∧
      v.ShowsChildFlags c ∧ v.ShowsChildKeys t.blueprints c := by
  intro items s
  have sorted : (classifyChildren items).toOption.isSome = true := by decide +kernel
  have ran : ((classify (.fragment none items ⟨1, 1⟩)).toOption.bind fun v =>
      (emitDirect .function .site v).run' s).isSome = true := by decide +kernel
  have allocated : (classify (.fragment none items ⟨1, 1⟩)).toOption.map (fun v =>
      (final ((emitDirect .function .site v).run s)).blueprints.map Blueprint.slotCount) =
      some [0, 2] := by decide +kernel
  obtain ⟨nodes, children⟩ := ok_of_toOption_isSome sorted
  have classified : classify (.fragment none items ⟨1, 1⟩) = .ok (classifyFragment none {} nodes) := by
    simp [classify, children, termOfOption]
  have inferred : (classifyFragment none {} nodes).Inferred := rfl
  generalize classifyFragment none {} nodes = v at classified inferred
  rw [classified] at ran allocated
  have wf := classify_wellFormed.1 _ v classified
  simp only [Except.toOption, Option.bind_some] at ran
  obtain ⟨c, t, run⟩ := run_ok_of_isSome ran
  simp only [Except.toOption, Option.map_some, run, final_ok, Option.some.injEq] at allocated
  have numbered : Numbered t.blueprints := by
    have grown := (emit_grows.1 .function .site v).run s
    rw [run, final_ok] at grown
    exact grown.numbered ⟨rfl, List.nodup_nil⟩
  obtain ⟨flags, keys⟩ := inferred_child_flags_shown inferred run
  exact ⟨v, c, t, classified, inferred, run, allocated, flags,
    keys wf ⟨[], rfl, by simp⟩ _ (List.prefix_refl _) numbered⟩
/-- Keys that are the literal `null` count as keys when the flags are decided, but are never
written: two children keyed only so are passed as keyed while neither call has a key. -/
theorem null_keys_pass_as_keyed :
    (transform "const x = <div><a key=\x7bnull\x7d/><b key=\x7bnull\x7d/></div>;" "input.jsx" {}).map
      (·.code) = .ok ("import \x7b createVNode \x7d from \"inferno\";\n" ++
        "const x = createVNode(1, \"div\", null, [createVNode(1, \"a\"), createVNode(1, \"b\")], 8);") := by
  decide +kernel

end Shown

end Keys

end Compile

end JsxVNode
