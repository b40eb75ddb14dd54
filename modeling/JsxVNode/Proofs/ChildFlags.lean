import JsxVNode.Proofs.Validation
/-!
Child flags that the children decide. Without a directive, an element's or fragment's child flags
are read off its children (`Layout.resolve`): none, one, several all keyed or all unkeyed, or,
with a slot or a mix of keyed and unkeyed children, left to the runtime.

`shows_inferred_child_flags` says what each value shows in the emitted call. "None" passes no
children and no flags. "Single" passes its child as one vnode, a text through `createTextVNode`.
"Non-keyed" and "keyed" pass an array of at least two vnodes, one per child, of children that
carry no key or all carry one. "Unknown" hands an element's children to `normalizeChildren` and
makes a fragment pass flags `0`. The keys the items pass are read off the code in `ChildKeys`.

`Returns post x` says that every value `x` succeeds with, from any state, satisfies `post`.
-/
namespace JsxVNode

namespace Code

/-- Code that builds a vnode when it runs: a helper's call, a static blueprint's slot, or a
template's call. A raw value (a literal, an expression, a parameter) and an array are none. -/
def isVNode : Code → Bool
  | .call (.helper _) _ | .cached _ _ | .template _ _ => true
  | _ => false

/-- The argument a call passes at position `i`, unless it leaves it out or writes the runtime's
default there. -/
def argument? (defaults : List String) (i : Nat) : Code → Option Code
  | .call _ args =>
    match args[i]? with
    | some (.text s) => if s = defaults.getD i "" then none else some (.text s)
    | a => a
  | _ => none

def unwrapProps : Code → Code
  | .call (.helper .normalizeProps) [c] => c
  | c => c

def textVNode (t : String) : Code := .call (.helper .createTextVNode) [.text (Text.quote t)]

theorem isVNode_of_unwrapProps {c : Code} (h : c.unwrapProps.isVNode = true) : c.isVNode = true := by
  unfold unwrapProps at h
  split at h
  · rfl
  · exact h

theorem argument?_finishCall {callee : Code} {args : List (Option Code)} {defaults : List String}
    {defineAll : Bool} {i : Nat} {a : Option Code} (h : args[i]? = some a)
    (notDefault : ∀ s, a = some (.text s) → s ≠ defaults.getD i "") :
    (finishCall callee args defaults defineAll).argument? defaults i = a := by
  have hi : i < args.length := (List.getElem?_eq_some_iff.mp h).1
  cases a with
  | none =>
    simp only [finishCall, argument?, List.getElem?_map, List.getElem?_zipIdx, List.getElem?_take]
    split <;> simp_all
  | some c =>
    have written := lt_writtenCount h defineAll
    simp only [finishCall, argument?, List.getElem?_map, List.getElem?_zipIdx, List.getElem?_take,
      written, if_true, h, Option.map_some, Option.getD_some]
    cases c <;> simp_all

theorem some_text_ne {s s' : String} (h : s ≠ s') : some (Code.text s) ≠ some (Code.text s') := by
  simpa using h

theorem sole_of_length_ne_one {codes : List Code} (h : codes.length ≠ 1) :
    Code.sole codes = .array codes := by
  match codes, h with
  | [], _ => rfl
  | _ :: _ :: _, _ => rfl

end Code

def Node.Inferred : Node → Prop
  | .element _ _ _ _ _ _ children cf normC collapse _ _ | .fragment _ children cf normC collapse _ =>
    Layout.resolve children {} = ⟨cf, normC, collapse⟩
  | _ => False

def Node.Builds (n : Node) (c : Code) : Prop :=
  n.isSlot = false ∧ c.isVNode = true ∧ ∀ t, n = .text t → c = Code.textVNode t

theorem Node.Builds.not_text {x : Node} {c : Code} (builds : x.Builds c) (s : String) :
    c ≠ .text s := by
  rintro rfl
  cases builds.2.1

/-- What known child flags `f` promise of a call over `children` that passes `arg` as its
children and `flagsArg` as its child flags. -/
structure ChildFlagsPromise (children : List Node) (f : Nat) (arg flagsArg : Option Code) :
    Prop where
  empty : f = ChildFlags.none → children = [] ∧ arg = none ∧ flagsArg = none
  single : f = ChildFlags.single → ∃ x item, children = [x] ∧ arg = some item ∧ x.Builds item ∧
    flagsArg = some (.text "2")
  several : f = ChildFlags.nonKeyed ∨ f = ChildFlags.keyed → ∃ items, 2 ≤ children.length ∧
    arg = some (.array items) ∧ List.Forall₂ Node.Builds children items ∧
    flagsArg = some (.text (toString f))
  keyed : f = ChildFlags.keyed → ∀ x ∈ children, x.key?.isSome
  unkeyed : f = ChildFlags.nonKeyed → ∀ x ∈ children, x.key? = none

namespace ChildFlagsPromise
variable {arg flagsArg : Option Code}

theorem of_empty (absent : arg = none) (unflagged : flagsArg = none) :
    ChildFlagsPromise [] ChildFlags.none arg flagsArg :=
  ⟨fun _ => ⟨rfl, absent, unflagged⟩, fun h => absurd h (by decide), fun h => absurd h (by decide),
    fun h => absurd h (by decide), fun h => absurd h (by decide)⟩

theorem of_single {x : Node} {item : Code} (passed : arg = some item) (builds : x.Builds item)
    (flagged : flagsArg = some (.text "2")) : ChildFlagsPromise [x] ChildFlags.single arg flagsArg :=
  ⟨fun h => absurd h (by decide), fun _ => ⟨x, item, rfl, passed, builds, flagged⟩,
    fun h => absurd h (by decide), fun h => absurd h (by decide), fun h => absurd h (by decide)⟩

theorem of_keyed {children : List Node} {items : List Code} (two : 2 ≤ children.length)
    (keyed : ∀ x ∈ children, x.key?.isSome) (passed : arg = some (.array items))
    (builds : List.Forall₂ Node.Builds children items) (flagged : flagsArg = some (.text "8")) :
    ChildFlagsPromise children ChildFlags.keyed arg flagsArg :=
  ⟨fun h => absurd h (by decide), fun h => absurd h (by decide),
    fun _ => ⟨items, two, passed, builds, flagged⟩, fun _ => keyed, fun h => absurd h (by decide)⟩

theorem of_unkeyed {children : List Node} {items : List Code} (two : 2 ≤ children.length)
    (unkeyed : ∀ x ∈ children, x.key? = none) (passed : arg = some (.array items))
    (builds : List.Forall₂ Node.Builds children items) (flagged : flagsArg = some (.text "4")) :
    ChildFlagsPromise children ChildFlags.nonKeyed arg flagsArg :=
  ⟨fun h => absurd h (by decide), fun h => absurd h (by decide),
    fun _ => ⟨items, two, passed, builds, flagged⟩, fun h => absurd h (by decide), fun _ => unkeyed⟩

end ChildFlagsPromise

/-- What an element's or fragment's code shows of known child flags. Flags left to the runtime
wrap an element's call in `normalizeChildren` with one code per child, passing no children or
flags in the call itself, and make a fragment pass flags `0`; every other value keeps its promise
on the call's children and child flags arguments. -/
def Node.ShowsChildFlags : Node → Code → Prop
  | .element _ _ _ _ _ _ children (.known f) _ _ _ _, c =>
    if f = ChildFlags.unknown then
      ∃ inner items, c.unwrapProps = .call (.helper .normalizeChildren) [inner, Code.sole items] ∧
        children ≠ [] ∧ items.length = children.length ∧
        inner.argument? elementDefaults 3 = none ∧ inner.argument? elementDefaults 4 = none
    else ChildFlagsPromise children f (c.unwrapProps.argument? elementDefaults 3)
      (c.unwrapProps.argument? elementDefaults 4)
  | .fragment _ children (.known f) _ _ _, c =>
    if f = ChildFlags.unknown then
      children ≠ [] ∧ c.argument? fragmentDefaults 1 = some (.text "0")
    else ChildFlagsPromise children f (c.argument? fragmentDefaults 0)
      (c.argument? fragmentDefaults 1)
  | _, _ => False

theorem Layout.resolve_inferred (nodes : List Node) :
    (nodes = [] ∧ Layout.resolve nodes {} = ⟨.known ChildFlags.none, false, false⟩) ∨
    (∃ x, nodes = [x] ∧ x.isSlot = false ∧
      Layout.resolve nodes {} = ⟨.known ChildFlags.single, false, false⟩) ∨
    (2 ≤ nodes.length ∧ (∀ x ∈ nodes, x.isSlot = false ∧ x.key?.isSome) ∧
      Layout.resolve nodes {} = ⟨.known ChildFlags.keyed, false, false⟩) ∨
    (2 ≤ nodes.length ∧ (∀ x ∈ nodes, x.isSlot = false ∧ x.key? = none) ∧
      Layout.resolve nodes {} = ⟨.known ChildFlags.nonKeyed, false, false⟩) ∨
    (nodes ≠ [] ∧ Layout.resolve nodes {} = ⟨.known ChildFlags.unknown, true, false⟩) := by
  rcases nodes with _ | ⟨x, rest⟩
  · exact .inl ⟨rfl, rfl⟩
  simp only [Layout.resolve, List.isEmpty_cons, Bool.false_eq_true, if_false]
  by_cases slot : (x :: rest).any Node.isSlot
  · simp [slot]
  have notSlot : ∀ y ∈ x :: rest, y.isSlot = false := by simpa using slot
  simp only [slot, Bool.false_eq_true, if_false]
  rcases rest with _ | ⟨y, more⟩
  · exact .inr (.inl ⟨x, rfl, notSlot x (by simp), by simp⟩)
  have two : 2 ≤ (x :: y :: more).length := by simp
  by_cases keyed : ∀ z ∈ x :: y :: more, z.key?.isSome
  · have count := List.length_filter_eq_length_iff.mpr keyed
    exact .inr (.inr (.inl ⟨two, fun z hz => ⟨notSlot z hz, keyed z hz⟩, by simp [count]⟩))
  by_cases unkeyed : ∀ z ∈ x :: y :: more, z.key? = none
  · have count : ((x :: y :: more).filter fun n => n.key?.isSome).length = 0 := by
      simpa [List.filter_eq_nil_iff] using unkeyed
    exact .inr (.inr (.inr (.inl ⟨two, fun z hz => ⟨notSlot z hz, unkeyed z hz⟩, by simp [count]⟩)))
  -- a mix of keyed and unkeyed children is left to the runtime
  refine .inr (.inr (.inr (.inr ⟨List.cons_ne_nil _ _, ?_⟩)))
  have some : ((x :: y :: more).filter fun n => n.key?.isSome).length ≠ 0 := by
    simpa [List.filter_eq_nil_iff] using unkeyed
  have notAll : ((x :: y :: more).filter fun n => n.key?.isSome).length ≠ (x :: y :: more).length :=
    mt List.length_filter_eq_length_iff.mp keyed
  simp only [List.length_cons] at notAll
  simp [some, notAll]

namespace Compile

/-! ### Values a computation succeeds with -/

def Returns {α : Type} (post : α → Prop) (x : Compile α) : Prop :=
  ∀ s a t, x.run s = .ok a t → post a

section Returns
variable {α β : Type} {p : α → Prop} {q : β → Prop}

theorem Returns.pure {a : α} (h : p a) : Returns p (Pure.pure a : Compile α) := by
  intro s b t run
  cases run
  exact h

theorem Returns.bind {x : Compile α} {f : α → Compile β} (hx : Returns p x)
    (hf : ∀ a, p a → Returns q (f a)) : Returns q (x >>= f) := by
  intro s b u run
  obtain ⟨a, t, first, rest⟩ := run_bind_eq_ok run
  exact hf a (hx s a t first) t b u rest

theorem Returns.true (x : Compile α) : Returns (fun _ => True) x := fun _ _ _ _ => trivial

theorem Returns.seq {x : Compile α} {f : α → Compile β} (hf : ∀ a, Returns q (f a)) :
    Returns q (x >>= f) :=
  (Returns.true x).bind fun a _ => hf a

theorem Returns.ite {c : Prop} [Decidable c] {x y : Compile α} (hx : c → Returns p x)
    (hy : ¬c → Returns p y) : Returns p (if c then x else y) := by
  split
  · exact hx ‹_›
  · exact hy ‹_›

theorem Returns.mono {x : Compile α} {p' : α → Prop} (h : Returns p x) (imp : ∀ a, p a → p' a) :
    Returns p' x := fun s a t run => imp a (h s a t run)

theorem useHelper_returns (h : Helper) : Returns (· = .helper h) (useHelper h) := by
  intro s c t run
  rw [run_useHelper] at run
  cases run
  rfl

theorem wrapIf_unwrapProps (cond : Bool) {call : Code} (plain : call.unwrapProps = call) :
    Returns (fun c => c.unwrapProps = call) (wrapIf cond .normalizeProps call) := by
  unfold wrapIf
  refine Returns.ite (fun _ => (useHelper_returns _).bind fun callee named => Returns.pure ?_)
    fun _ => Returns.pure plain
  subst named
  rfl

theorem wrapIf_vnode (cond : Bool) {call : Code} (vnode : call.isVNode = true)
    (plain : call.unwrapProps = call) :
    Returns (fun c => c.isVNode = true) (wrapIf cond .normalizeProps call) :=
  (wrapIf_unwrapProps cond plain).mono fun _ unwrapped =>
    Code.isVNode_of_unwrapProps (unwrapped ▸ vnode)

end Returns

/-! ### Sites -/

section Sites
variable {scope : Scope} {nesting : Nesting}

theorem cachedSite_returns (sig : Signature) (build : Compile Code) :
    Returns (fun c => ∃ id skeleton, c = .cached id skeleton) (cachedSite sig build) := by
  intro s c t run
  rw [run_cachedSite] at run
  split at run
  · cases run
    exact ⟨_, _, rfl⟩
  · split at run
    · split at run <;> cases run <;> exact ⟨_, _, rfl⟩
    · cases run

theorem templateSite_returns (sig : Signature) (build : Compile Code) :
    Returns (fun c => ∃ id args, c = .template id args) (templateSite sig build) := by
  intro s c t run
  rw [run_templateSite] at run
  split at run
  · simp only at run
    split at run <;> cases run <;> exact ⟨_, _, rfl⟩
  · cases run

theorem hoisted_returns {n : Node} {direct : Nesting → Compile Code} {p : Code → Prop}
    (cached : ∀ id skeleton, p (.cached id skeleton)) (template : ∀ id args, p (.template id args))
    (own : ∀ k, Returns p (direct k)) : Returns p (hoisted scope nesting n direct) := by
  unfold hoisted
  refine Returns.seq fun options => ?_
  split
  · refine Returns.ite (fun _ => Returns.ite (fun _ => ?_) fun _ => ?_) fun _ => own _
    · refine (cachedSite_returns _ _).mono ?_
      rintro c ⟨id, skeleton, rfl⟩
      exact cached id skeleton
    · refine Returns.ite (fun _ => (templateSite_returns _ _).mono ?_) fun _ => own _
      rintro c ⟨id, args, rfl⟩
      exact template id args
  · exact own _

end Sites

/-! ### The calls of elements and fragments -/

section Calls
variable {scope : Scope} {nesting : Nesting}

theorem element_returns {tag : String} {flags : Nat} {cls : Option Term} {fields : List Field}
    {key ref : Option Term} {children : List Node} {cf : ChildFlagValue}
    {normC collapse normP : Bool} {sig : Option Signature}
    {P Q : Option Code → Prop} {R : List Code → Prop}
    (hch : Returns P (childrenArg children cf collapse (emitNodes scope nesting children)))
    (hcf : Returns Q (emitChildFlags cf)) (hitems : Returns R (emitNodes scope nesting children)) :
    Returns (fun c => ∃ (ch cfa : Option Code) (args : List (Option Code)) (defineAll : Bool),
        args[3]? = some ch ∧ args[4]? = some cfa ∧
        if normC then ch = none ∧ cfa = none ∧ ∃ items, R items ∧
          c.unwrapProps = .call (.helper .normalizeChildren)
            [finishCall (.helper .createVNode) args elementDefaults defineAll,
              if children.length == 1 then Code.sole items else .array items]
        else P ch ∧ Q cfa ∧
          c.unwrapProps = finishCall (.helper .createVNode) args elementDefaults defineAll)
      (emitDirect scope nesting
        (.element tag flags cls fields key ref children cf normC collapse normP sig)) := by
  rw [emitDirect]
  refine (useHelper_returns _).bind fun callee named => ?_
  subst named
  refine Returns.seq fun clsArg => ?_
  cases normC <;> simp only [Bool.false_eq_true, if_false, if_true, pure_bind]
  · refine hch.bind fun ch passed => hcf.bind fun cfa flagged => ?_
    refine Returns.seq fun _ => Returns.seq fun _ => Returns.seq fun _ => Returns.seq fun _ => ?_
    exact (wrapIf_unwrapProps normP rfl).mono fun c unwrapped =>
      ⟨ch, cfa, _, _, rfl, rfl, passed, flagged, unwrapped⟩
  · refine Returns.seq fun _ => Returns.seq fun _ => Returns.seq fun _ => Returns.seq fun _ => ?_
    refine hitems.bind fun items emitted => (useHelper_returns _).bind fun nc named => ?_
    subst named
    exact (wrapIf_unwrapProps normP rfl).mono fun c unwrapped =>
      ⟨none, none, _, _, rfl, rfl, rfl, rfl, items, emitted, unwrapped⟩

theorem fragment_returns {key : Option Term} {children : List Node} {cf : ChildFlagValue}
    {normC collapse : Bool} {sig : Option Signature} {P Q : Option Code → Prop}
    (hch : Returns P (childrenArg children cf collapse (emitNodes scope nesting children)))
    (hcf : Returns Q (emitChildFlags cf)) :
    Returns (fun c => ∃ (ch cfa : Option Code) (args : List (Option Code)) (defineAll : Bool),
        args[0]? = some ch ∧ args[1]? = some cfa ∧ P ch ∧
        (if ch.isNone then cfa = none else Q cfa) ∧
        c = finishCall (.helper .createFragment) args fragmentDefaults defineAll)
      (emitDirect scope nesting (.fragment key children cf normC collapse sig)) := by
  rw [emitDirect]
  refine (useHelper_returns _).bind fun callee named => ?_
  subst named
  refine hch.bind fun ch passed => ?_
  cases absent : ch.isNone <;> simp only [Bool.false_eq_true, if_false, if_true, pure_bind]
  · refine hcf.bind fun cfa flagged => Returns.seq fun _ => Returns.seq fun _ => ?_
    exact Returns.pure ⟨ch, cfa, _, _, rfl, rfl, passed, by simp [absent, flagged], rfl⟩
  · exact Returns.seq fun _ => Returns.seq fun _ =>
      Returns.pure ⟨ch, none, _, _, rfl, rfl, passed, by simp [absent], rfl⟩

theorem direct_builds {n : Node} (notSlot : n.isSlot = false) :
    Returns n.Builds (emitDirect scope nesting n) := by
  cases n with
  | element =>
    refine (element_returns (Returns.true _) (Returns.true _) (Returns.true _)).mono ?_
    rintro c ⟨ch, cfa, args, defineAll, -, -, built⟩
    refine ⟨rfl, Code.isVNode_of_unwrapProps ?_, fun t => Node.noConfusion⟩
    split at built
    · obtain ⟨-, -, items, -, unwrapped⟩ := built
      rw [unwrapped]
      rfl
    · rw [built.2.2]
      rfl
  | component =>
    refine Returns.mono ?_ fun c vnode => ⟨rfl, vnode, fun t => Node.noConfusion⟩
    rw [emitDirect]
    refine (useHelper_returns _).bind fun callee named => ?_
    subst named
    refine Returns.seq fun _ => Returns.seq fun _ => Returns.seq fun _ => ?_
    simp only [pure_bind]
    split
    · exact Returns.seq fun _ => Returns.seq fun _ => wrapIf_vnode _ rfl rfl
    · exact Returns.seq fun _ => Returns.seq fun _ => wrapIf_vnode _ rfl rfl
  | fragment =>
    refine (fragment_returns (Returns.true _) (Returns.true _)).mono ?_
    rintro c ⟨ch, cfa, args, defineAll, -, -, -, -, rfl⟩
    exact ⟨rfl, rfl, fun t => Node.noConfusion⟩
  | text t =>
    rw [emitDirect]
    refine (useHelper_returns _).bind fun callee named => Returns.pure ?_
    subst named
    exact ⟨rfl, rfl, fun t' same => by cases same; rfl⟩
  | slot => cases notSlot

theorem hoisted_builds {n : Node} (notSlot : n.isSlot = false) :
    Returns n.Builds (hoisted scope nesting n fun k => emitDirect scope k n) := by
  by_cases text : ∃ t, n = .text t
  · obtain ⟨t, rfl⟩ := text
    unfold hoisted
    exact Returns.seq fun _ => direct_builds notSlot
  · have hoistedOnly : ∀ c : Code, c.isVNode = true → n.Builds c :=
      fun c vnode => ⟨notSlot, vnode, fun t same => absurd ⟨t, same⟩ text⟩
    exact hoisted_returns (fun _ _ => hoistedOnly _ rfl) (fun _ _ => hoistedOnly _ rfl)
      fun _ => direct_builds notSlot

theorem emitNodes_forall₂ {r : Node → Code → Prop} (nodes : List Node)
    (each : ∀ n ∈ nodes, Returns (r n) (hoisted scope nesting n fun k => emitDirect scope k n)) :
    Returns (List.Forall₂ r nodes) (emitNodes scope nesting nodes) := by
  induction nodes with
  | nil => exact Returns.pure .nil
  | cons n rest ih =>
    rw [emitNodes]
    exact (each n (.head _)).bind fun code first =>
      (ih fun m hm => each m (.tail _ hm)).bind fun more others => Returns.pure (.cons first others)

theorem emitNodes_builds {nodes : List Node} (notSlot : ∀ x ∈ nodes, x.isSlot = false) :
    Returns (List.Forall₂ Node.Builds nodes) (emitNodes scope nesting nodes) :=
  emitNodes_forall₂ nodes fun n hn => hoisted_builds (notSlot n hn)

theorem emitNodes_length (nodes : List Node) :
    Returns (fun items => items.length = nodes.length) (emitNodes scope nesting nodes) :=
  (emitNodes_forall₂ nodes fun _ _ => Returns.true _).mono fun _ related => related.length_eq.symm

theorem emitChildFlags_none : Returns (· = none) (emitChildFlags (.known ChildFlags.none)) :=
  Returns.pure rfl

theorem emitChildFlags_known {f : Nat} (h : f ≠ ChildFlags.none) :
    Returns (· = some (.text (toString f))) (emitChildFlags (.known f)) :=
  Returns.pure (by simp [h])

theorem childrenArg_nil (cf : ChildFlagValue) (collapse : Bool) (items : Compile (List Code)) :
    Returns (· = none) (childrenArg [] cf collapse items) :=
  Returns.pure rfl

theorem childrenArg_single {x : Node} (notSlot : x.isSlot = false) :
    Returns (fun ch => ∃ item, ch = some item ∧ x.Builds item)
      (childrenArg [x] (.known ChildFlags.single) false (emitNodes scope nesting [x])) := by
  have bare : childrenArg [x] (.known ChildFlags.single) false (emitNodes scope nesting [x]) =
      emitNodes scope nesting [x] >>= fun codes => pure (some (Code.sole codes)) := by
    cases x <;> rfl
  rw [bare]
  refine (emitNodes_builds (by simpa using notSlot)).bind fun codes built => Returns.pure ?_
  obtain ⟨item, rfl⟩ : ∃ item, codes = [item] := by
    rcases built with _ | ⟨_, _ | _⟩
    exact ⟨_, rfl⟩
  exact ⟨item, rfl, by simpa using built⟩

theorem childrenArg_several {nodes : List Node} (two : 2 ≤ nodes.length)
    (notSlot : ∀ x ∈ nodes, x.isSlot = false) (cf : ChildFlagValue) (collapse : Bool) :
    Returns (fun ch => ∃ items, ch = some (.array items) ∧ List.Forall₂ Node.Builds nodes items)
      (childrenArg nodes cf collapse (emitNodes scope nesting nodes)) := by
  obtain ⟨x, y, more, rfl⟩ : ∃ x y more, nodes = x :: y :: more := by
    match nodes, two with
    | x :: y :: more, _ => exact ⟨x, y, more, rfl⟩
  simp only [childrenArg]
  exact (emitNodes_builds notSlot).bind fun items built => Returns.pure ⟨items, rfl, built⟩

end Calls

/-! ### Child flags in the emitted call -/

section Shown
variable {scope : Scope} {nesting : Nesting}

section Element
variable {tag : String} {flags : Nat} {cls : Option Term} {fields : List Field}
  {key ref : Option Term} {children : List Node} {normP : Bool} {sig : Option Signature}

theorem element_passes {f : Nat} (known : f ≠ ChildFlags.unknown) {P Q : Option Code → Prop}
    (hch : Returns P (childrenArg children (.known f) false (emitNodes scope nesting children)))
    (hcf : Returns Q (emitChildFlags (.known f)))
    (promise : ∀ ch cfa, P ch → Q cfa →
      ch ≠ some (.text "null") ∧ cfa ≠ some (.text "1") ∧ ChildFlagsPromise children f ch cfa) :
    Returns (Node.element tag flags cls fields key ref children (.known f) false false normP sig).ShowsChildFlags
      (emitDirect scope nesting
        (.element tag flags cls fields key ref children (.known f) false false normP sig)) := by
  refine (element_returns hch hcf (Returns.true _)).mono fun c shape => ?_
  obtain ⟨ch, cfa, args, d, h3, h4, shape⟩ := shape
  rw [if_neg (by decide)] at shape
  obtain ⟨passed, flagged, unwrapped⟩ := shape
  obtain ⟨notNull, notOne, kept⟩ := promise ch cfa passed flagged
  simp only [Node.ShowsChildFlags]
  rw [if_neg known, unwrapped, Code.argument?_finishCall h3, Code.argument?_finishCall h4]
  · exact kept
  · rintro s rfl same
    exact notOne (by rw [same]; rfl)
  · rintro s rfl same
    exact notNull (by rw [same]; rfl)

theorem element_normalizes (nonempty : children ≠ []) :
    Returns (Node.element tag flags cls fields key ref children (.known ChildFlags.unknown) true false
        normP sig).ShowsChildFlags
      (emitDirect scope nesting (.element tag flags cls fields key ref children
        (.known ChildFlags.unknown) true false normP sig)) := by
  refine (element_returns (Returns.true _) (Returns.true _) (emitNodes_length children)).mono
    fun c shape => ?_
  obtain ⟨ch, cfa, args, d, h3, h4, absent, unflagged, items, length, unwrapped⟩ := shape
  subst absent unflagged
  have list : (if children.length == 1 then Code.sole items else .array items) = Code.sole items := by
    split
    · rfl
    · rw [Code.sole_of_length_ne_one (by simp_all)]
  simp only [Node.ShowsChildFlags, if_true]
  exact ⟨_, items, by rw [unwrapped, list], nonempty, length,
    Code.argument?_finishCall h3 (by simp), Code.argument?_finishCall h4 (by simp)⟩

theorem element_shows_child_flags {cf : ChildFlagValue} {normC collapse : Bool}
    (inferred : Layout.resolve children {} = ⟨cf, normC, collapse⟩) :
    Returns (Node.element tag flags cls fields key ref children cf normC collapse normP sig).ShowsChildFlags
      (emitDirect scope nesting
        (.element tag flags cls fields key ref children cf normC collapse normP sig)) := by
  rcases Layout.resolve_inferred children with
    ⟨rfl, resolved⟩ | ⟨x, rfl, notSlot, resolved⟩ | ⟨two, each, resolved⟩ |
      ⟨two, each, resolved⟩ | ⟨nonempty, resolved⟩ <;>
    rw [resolved] at inferred <;> cases inferred
  · refine element_passes (by decide) (childrenArg_nil _ _ _) emitChildFlags_none ?_
    rintro ch cfa rfl rfl
    exact ⟨by simp, by simp, .of_empty rfl rfl⟩
  · refine element_passes (by decide) (childrenArg_single notSlot) (emitChildFlags_known (by decide)) ?_
    rintro ch cfa ⟨item, rfl, builds⟩ rfl
    exact ⟨by simpa using builds.not_text "null", Code.some_text_ne (by decide),
      .of_single rfl builds rfl⟩
  · refine element_passes (by decide) (childrenArg_several two (fun x hx => (each x hx).1) _ _)
      (emitChildFlags_known (by decide)) ?_
    rintro ch cfa ⟨items, rfl, builds⟩ rfl
    exact ⟨by simp, Code.some_text_ne (by decide),
      .of_keyed two (fun x hx => (each x hx).2) rfl builds rfl⟩
  · refine element_passes (by decide) (childrenArg_several two (fun x hx => (each x hx).1) _ _)
      (emitChildFlags_known (by decide)) ?_
    rintro ch cfa ⟨items, rfl, builds⟩ rfl
    exact ⟨by simp, Code.some_text_ne (by decide),
      .of_unkeyed two (fun x hx => (each x hx).2) rfl builds rfl⟩
  · exact element_normalizes nonempty

end Element

section Fragment
variable {key : Option Term} {children : List Node} {sig : Option Signature}

theorem fragment_passes {f : Nat} (known : f ≠ ChildFlags.unknown) {P Q : Option Code → Prop}
    (hch : Returns P (childrenArg children (.known f) false (emitNodes scope nesting children)))
    (hcf : Returns Q (emitChildFlags (.known f)))
    (promise : ∀ ch cfa, P ch → (if ch.isNone then cfa = none else Q cfa) →
      ch ≠ some (.text "null") ∧ cfa ≠ some (.text "1") ∧ ChildFlagsPromise children f ch cfa) :
    Returns (Node.fragment key children (.known f) false false sig).ShowsChildFlags
      (emitDirect scope nesting (.fragment key children (.known f) false false sig)) := by
  refine (fragment_returns hch hcf).mono fun c shape => ?_
  obtain ⟨ch, cfa, args, d, h0, h1, passed, flagged, rfl⟩ := shape
  obtain ⟨notNull, notOne, kept⟩ := promise ch cfa passed flagged
  simp only [Node.ShowsChildFlags]
  rw [if_neg known, Code.argument?_finishCall h0, Code.argument?_finishCall h1]
  · exact kept
  · rintro s rfl same
    exact notOne (by rw [same]; rfl)
  · rintro s rfl same
    exact notNull (by rw [same]; rfl)

theorem fragment_normalizes (nonempty : children ≠ []) :
    Returns (Node.fragment key children (.known ChildFlags.unknown) true false sig).ShowsChildFlags
      (emitDirect scope nesting (.fragment key children (.known ChildFlags.unknown) true false sig)) := by
  refine (fragment_returns (fun s a t run => childrenArg_isNone _ _ _ _ s a t run)
    (emitChildFlags_known (by decide))).mono fun c shape => ?_
  obtain ⟨ch, cfa, args, d, h0, h1, passed, flagged, rfl⟩ := shape
  have present : ch.isNone = false := by simpa [passed] using nonempty
  simp only [present, Bool.false_eq_true, if_false] at flagged
  subst flagged
  simp only [Node.ShowsChildFlags, if_true]
  exact ⟨nonempty, Code.argument?_finishCall h1 (by rintro s ⟨⟩; decide)⟩

theorem fragment_shows_child_flags {cf : ChildFlagValue} {normC collapse : Bool}
    (inferred : Layout.resolve children {} = ⟨cf, normC, collapse⟩) :
    Returns (Node.fragment key children cf normC collapse sig).ShowsChildFlags
      (emitDirect scope nesting (.fragment key children cf normC collapse sig)) := by
  rcases Layout.resolve_inferred children with
    ⟨rfl, resolved⟩ | ⟨x, rfl, notSlot, resolved⟩ | ⟨two, each, resolved⟩ |
      ⟨two, each, resolved⟩ | ⟨nonempty, resolved⟩ <;>
    rw [resolved] at inferred <;> cases inferred
  · refine fragment_passes (by decide) (childrenArg_nil _ _ _) emitChildFlags_none ?_
    rintro ch cfa rfl flagged
    simp only [Option.isNone_none, if_true] at flagged
    subst flagged
    exact ⟨by simp, by simp, .of_empty rfl rfl⟩
  · refine fragment_passes (by decide) (childrenArg_single notSlot) (emitChildFlags_known (by decide)) ?_
    rintro ch cfa ⟨item, rfl, builds⟩ flagged
    simp only [Option.isNone_some, Bool.false_eq_true, if_false] at flagged
    subst flagged
    exact ⟨by simpa using builds.not_text "null", Code.some_text_ne (by decide),
      .of_single rfl builds rfl⟩
  · refine fragment_passes (by decide) (childrenArg_several two (fun x hx => (each x hx).1) _ _)
      (emitChildFlags_known (by decide)) ?_
    rintro ch cfa ⟨items, rfl, builds⟩ flagged
    simp only [Option.isNone_some, Bool.false_eq_true, if_false] at flagged
    subst flagged
    exact ⟨by simp, Code.some_text_ne (by decide),
      .of_keyed two (fun x hx => (each x hx).2) rfl builds rfl⟩
  · refine fragment_passes (by decide) (childrenArg_several two (fun x hx => (each x hx).1) _ _)
      (emitChildFlags_known (by decide)) ?_
    rintro ch cfa ⟨items, rfl, builds⟩ flagged
    simp only [Option.isNone_some, Bool.false_eq_true, if_false] at flagged
    subst flagged
    exact ⟨by simp, Code.some_text_ne (by decide),
      .of_unkeyed two (fun x hx => (each x hx).2) rfl builds rfl⟩
  · exact fragment_normalizes nonempty

end Fragment

/-- Child flags that the children decide are shown in the emitted call, wherever the element or
fragment is emitted: see `Node.ShowsChildFlags`. -/
theorem shows_inferred_child_flags {v : Node} (inferred : v.Inferred) {s : Context} {c : Code}
    {t : Context} (run : (emitDirect scope nesting v).run s = .ok c t) : v.ShowsChildFlags c := by
  cases v with
  | element => exact element_shows_child_flags inferred s c t run
  | fragment => exact fragment_shows_child_flags inferred s c t run
  | component | text | slot => exact inferred.elim

end Shown

end Compile

end JsxVNode
