import JsxVNode.Proofs.Template
import JsxVNode.Proofs.Frame
/-!
Argument elision is sound. Unless every argument is asked for, a construction call stops after
its last present argument; when every argument is asked for, each position is written, absent
ones as the runtime's defaults. The two differ by those trailing defaults only. A compilation
asking for every argument gives the code of the same compilation without them, with every
`createVNode`, `createComponentVNode` and `createFragment` call padded to its full length, also
inside skeletons, template bodies and template arguments. It reaches the same state, its
blueprints and collected values padded the same way, and it fails exactly when the other does.

`Pads r x₁ x₂` says that `x₁` run from a padded state ends as `x₂` run from the state itself,
its result padded by `r`. It is closed under `bind`, so the emitter is handled one statement of
its `do` blocks at a time.
-/
namespace JsxVNode

/-- The runtime's defaults for the positions of a helper's call; none for the helpers whose
calls are always written in full. -/
def Helper.defaults : Helper → List String
  | .createVNode => elementDefaults
  | .createComponentVNode => componentDefaults
  | .createFragment => fragmentDefaults
  | _ => []

namespace Code

def trailingDefaults : Code → Nat → List Code
  | .helper h, written => (h.defaults.drop written).map .text
  | _, _ => []

mutual
/-- The code with every construction call padded with the defaults of the positions it leaves
out at its end. -/
def pad : Code → Code
  | .text s => .text s
  | .source s => .source s
  | .helper h => .helper h
  | .call callee args => .call (pad callee) (padList args ++ callee.trailingDefaults args.length)
  | .array items => .array (padList items)
  | .object entries => .object (padList entries)
  | .entry key value => .entry key (pad value)
  | .spread value => .spread (pad value)
  | .expr parts => .expr (padList parts)
  | .param i => .param i
  | .cached id skeleton => .cached id (pad skeleton)
  | .template id args => .template id (padList args)
  | .paren code => .paren (pad code)

def padList : List Code → List Code
  | [] => []
  | c :: rest => pad c :: padList rest
end

@[simp] theorem padList_eq_map (cs : List Code) : padList cs = cs.map pad := by
  induction cs with
  | nil => rfl
  | cons c rest ih => simp [padList, ih]

section Pad
variable (cs : List Code) (c : Code)

@[simp] theorem pad_text (s : String) : (Code.text s).pad = .text s := rfl
@[simp] theorem pad_helper (h : Helper) : (Code.helper h).pad = .helper h := rfl
@[simp] theorem pad_param (i : Nat) : (Code.param i).pad = .param i := rfl
@[simp] theorem pad_array : (Code.array cs).pad = .array (cs.map pad) := by
  rw [← padList_eq_map]; rfl
@[simp] theorem pad_object : (Code.object cs).pad = .object (cs.map pad) := by
  rw [← padList_eq_map]; rfl
@[simp] theorem pad_expr : (Code.expr cs).pad = .expr (cs.map pad) := by
  rw [← padList_eq_map]; rfl
@[simp] theorem pad_template (id : Nat) : (Code.template id cs).pad = .template id (cs.map pad) := by
  rw [← padList_eq_map]; rfl
@[simp] theorem pad_entry (key : String) : (Code.entry key c).pad = .entry key c.pad := rfl
@[simp] theorem pad_spread : (Code.spread c).pad = .spread c.pad := rfl
@[simp] theorem pad_cached (id : Nat) : (Code.cached id c).pad = .cached id c.pad := rfl
@[simp] theorem pad_paren : (Code.paren c).pad = .paren c.pad := rfl

theorem pad_call_full {h : Helper} (full : h.defaults = []) :
    (Code.call (.helper h) cs).pad = .call (.helper h) (cs.map pad) := by
  simp [pad, trailingDefaults, full]

end Pad

end Code

/-! ### Padding a call -/

section Calls
open Code

theorem writtenCount_true {α : Type} (args : List (Option α)) :
    writtenCount args true = args.length := rfl

theorem pad_finishCall (h : Helper) (args : List (Option Code)) (defaults : List String)
    (defineAll : Bool) (runtime : h.defaults = defaults) (full : args.length = defaults.length) :
    (finishCall (.helper h) args defaults defineAll).pad =
      finishCall (.helper h) (args.map (Option.map pad)) defaults true := by
  subst runtime
  have absent := drop_writtenCount args defineAll
  simp only [finishCall, pad, padList_eq_map, trailingDefaults, writtenCount_true,
    List.length_map, Code.call.injEq, true_and]
  generalize writtenCount args defineAll = k at absent
  apply List.ext_getElem
  · simp only [List.getD_eq_getElem?_getD, List.map_map, List.length_zipIdx, List.length_take,
      List.map_drop, List.length_append, List.length_map, List.length_drop, Std.le_refl,
      Nat.min_eq_left]
    omega
  · intro i _ hr
    simp only [List.length_map, List.length_zipIdx, List.length_take, Std.le_refl,
      Nat.min_eq_left] at hr
    by_cases early : i < min k args.length
    · rw [List.getElem_append_left
        (by simp only [List.length_map, List.length_zipIdx, List.length_take]; omega)]
      simp only [List.getD_eq_getElem?_getD, List.map_map, List.getElem_map, List.getElem_zipIdx,
        List.getElem_take, Nat.zero_add, Function.comp_apply]
      cases args[i] <;> rfl
    · have none : args[i] = none := absent _ (List.mem_iff_getElem.mpr
        ⟨i - k, by simp; omega, by simp; congr 1; omega⟩)
      rw [List.getElem_append_right
        (by simp only [List.length_map, List.length_zipIdx, List.length_take]; omega)]
      simp only [List.length_zipIdx, List.length_take, List.map_drop, List.getD_eq_getElem?_getD,
        List.map_map, List.length_map, List.getElem_drop, List.getElem_map, List.getElem_zipIdx,
        List.getElem_take, none, Option.map_none, Nat.zero_add, Option.getD_none, text.injEq]
      rw [List.getElem?_eq_getElem (by omega), Option.getD_some]
      congr 1
      omega

example : (finishCall (.helper .createVNode) [some (.text "1"), some (.text "\"div\""), none, none,
      none, none, none, none] elementDefaults false).pad =
    .call (.helper .createVNode) [.text "1", .text "\"div\"", .text "null", .text "null",
      .text "1", .text "null", .text "null", .text "null"] := rfl

theorem pad_sole (codes : List Code) : (Code.sole codes).pad = Code.sole (codes.map pad) := by
  unfold Code.sole
  split <;> simp_all

theorem propsObject_pad (entries : List Code) (extra : List (String × Code)) :
    (Compile.propsObject entries extra).map pad =
      Compile.propsObject (entries.map pad) (extra.map fun (k, v) => (k, v.pad)) := by
  unfold Compile.propsObject
  split <;> simp_all [Function.comp_def]

end Calls

/-! ### Padded states -/

def Blueprint.pad (b : Blueprint) : Blueprint := { b with skeleton := b.skeleton.pad }

/-- Where a compilation asking for every argument stands when one that does not stands at `s`:
the options ask for every argument, and every blueprint and collected value is padded. -/
def Context.pad (s : Context) : Context :=
  { s with
    options := { s.options with defineAllArguments := true }
    blueprints := s.blueprints.map Blueprint.pad
    params := s.params.map (List.map Code.pad) }

namespace Context
variable (s : Context)

@[simp] theorem pad_used : s.pad.used = s.used := rfl
@[simp] theorem pad_params : s.pad.params = s.params.map (List.map Code.pad) := rfl
@[simp] theorem pad_blueprints : s.pad.blueprints = s.blueprints.map Blueprint.pad := rfl

theorem pad_lookup (sig : Signature) : s.pad.lookup sig = (s.lookup sig).map Blueprint.pad := by
  simp only [lookup, pad_blueprints, List.find?_map]
  rfl

theorem pad_withParams (params : Option (List Code)) :
    ({ s with params } : Context).pad = { s.pad with params := params.map (List.map Code.pad) } :=
  rfl

theorem pad_snoc (b : Blueprint) :
    ({ s with blueprints := s.blueprints ++ [b] } : Context).pad =
      { s.pad with blueprints := s.pad.blueprints ++ [b.pad] } := by
  simp [pad]

end Context

namespace Compile

def padOutcome {α : Type} (r : α → α) :
    EStateM.Result CompileError Context α → EStateM.Result CompileError Context α
  | .ok a s => .ok (r a) s.pad
  | .error e s => .error e s.pad

/-- `x₁` run from a padded state ends as `x₂` run from the state itself, its value padded by
`r`. -/
def Pads {α : Type} (r : α → α) (x₁ x₂ : Compile α) : Prop :=
  ∀ s : Context, x₁.run s.pad = padOutcome r (x₂.run s)

section Rules
variable {α β : Type} {ra : α → α} {rb : β → β}

theorem Pads.pure {a₁ a₂ : α} (h : a₁ = ra a₂) : Pads ra (Pure.pure a₁ : Compile α) (Pure.pure a₂) :=
  fun _ => h ▸ rfl

theorem Pads.bind {x₁ x₂ : Compile α} {f₁ f₂ : α → Compile β} (hx : Pads ra x₁ x₂)
    (hf : ∀ a, Pads rb (f₁ (ra a)) (f₂ a)) : Pads rb (x₁ >>= f₁) (x₂ >>= f₂) := by
  intro s
  simp only [EStateM.run_bind, hx s]
  cases x₂.run s with
  | ok a t => exact hf a t
  | error e t => rfl

theorem Pads.throw (e : CompileError) : Pads ra (throw e : Compile α) (throw e) :=
  fun _ => rfl

theorem Pads.ite {c : Prop} [Decidable c] {x₁ x₂ y₁ y₂ : Compile α} (hx : c → Pads ra x₁ x₂)
    (hy : ¬c → Pads ra y₁ y₂) : Pads ra (if c then x₁ else y₁) (if c then x₂ else y₂) := by
  by_cases h : c
  · simpa only [if_pos h] using hx h
  · simpa only [if_neg h] using hy h

theorem useHelper_bind (h : Helper) {f₁ f₂ : Code → Compile β}
    (hf : Pads rb (f₁ (.helper h)) (f₂ (.helper h))) :
    Pads rb (useHelper h >>= f₁) (useHelper h >>= f₂) := by
  intro s
  simp only [EStateM.run_bind, run_useHelper, Context.pad_used]
  by_cases recorded : s.used.contains h = true
  · simp only [recorded, if_true]
    exact hf s
  · simp only [recorded, Bool.false_eq_true, if_false]
    exact hf { s with used := s.used ++ [h] }

theorem options_bind {f₁ f₂ : Options → Compile β}
    (hf : ∀ o, Pads rb (f₁ { o with defineAllArguments := true }) (f₂ o)) :
    Pads rb (options >>= f₁) (options >>= f₂) :=
  fun s => hf s.options s

theorem bindParam_pads (code : Code) : Pads Code.pad (bindParam code.pad) (bindParam code) := by
  intro s
  simp only [run_bindParam, Context.pad_params]
  cases s.params with
  | none => rfl
  | some ps => simp [padOutcome, Context.pad_withParams]

theorem suspended_pads {x₁ x₂ : Compile α} (hx : Pads ra x₁ x₂) :
    Pads ra (suspended x₁) (suspended x₂) := by
  intro s
  simp only [run_suspended]
  rw [show ({ s.pad with params := none } : Context) = ({ s with params := none } : Context).pad
    from rfl, hx]
  cases x₂.run { s with params := none } <;> rfl

theorem ofExcept_pads (r : Except CompileError α) : Pads id (ofExcept r) (ofExcept r) := by
  intro s
  cases r <;> rfl

theorem attempt_pads {x₁ x₂ : Compile α} (hx : Pads ra x₁ x₂) :
    Pads (Except.map ra) (attempt x₁) (attempt x₂) := by
  intro s
  simp only [run_attempt, hx s]
  cases x₂.run s <;> rfl

theorem lookup_pads (sig : Signature) :
    Pads (Option.map Blueprint.pad) (lookup sig) (lookup sig) := by
  intro s
  simp only [run_lookup, Context.pad_lookup]
  rfl

theorem insert_pads (sig : Signature) (skeleton : Code) (n : Nat) :
    Pads id (insert sig skeleton.pad n) (insert sig skeleton n) := by
  intro s
  simp only [run_insert, Context.pad_lookup]
  cases s.lookup sig with
  | some b => rfl
  | none => simp [padOutcome, Context.pad_snoc, Blueprint.pad]

theorem beginParams_pads :
    Pads (Option.map (List.map Code.pad)) beginParams beginParams := fun _ => rfl

theorem endParams_pads (outer : Option (List Code)) :
    Pads (List.map Code.pad) (endParams (outer.map (List.map Code.pad))) (endParams outer) := by
  intro s
  simp only [endParams, EStateM.run_modifyGet, Context.pad_params]
  cases s.params <;> rfl

theorem wrapIf_pads (cond : Bool) {h : Helper} (full : h.defaults = []) {call₁ call : Code}
    (padded : call₁ = call.pad) : Pads Code.pad (wrapIf cond h call₁) (wrapIf cond h call) := by
  subst padded
  unfold wrapIf
  refine Pads.ite (fun _ => useHelper_bind h (Pads.pure ?_)) (fun _ => Pads.pure rfl)
  simp [Code.pad_call_full _ full]

end Rules

/-! ### Sites -/

section Sites
variable {scope : Scope}

theorem cachedSite_pads (sig : Signature) {build₁ build₂ : Compile Code}
    (hb : Pads Code.pad build₁ build₂) :
    Pads Code.pad (cachedSite sig build₁) (cachedSite sig build₂) := by
  unfold cachedSite
  refine (lookup_pads sig).bind fun found => ?_
  cases found with
  | some b =>
    simp only [Option.map_some, pure_bind]
    exact Pads.pure rfl
  | none =>
    simp only [Option.map_none, pure_bind]
    exact hb.bind fun skeleton => (insert_pads sig skeleton 0).bind fun id => Pads.pure rfl

theorem templateSite_pads (sig : Signature) {build₁ build₂ : Compile Code}
    (hb : Pads Code.pad build₁ build₂) :
    Pads Code.pad (templateSite sig build₁) (templateSite sig build₂) := by
  unfold templateSite
  refine beginParams_pads.bind fun outer => (attempt_pads hb).bind fun built => ?_
  refine (endParams_pads outer).bind fun args => ?_
  refine Pads.bind (?_ : Pads Code.pad _ _) fun body => ?_
  · intro s
    cases built <;> rfl
  refine (lookup_pads sig).bind fun found => ?_
  cases found with
  | some b =>
    simp only [Option.map_some, pure_bind]
    exact Pads.pure (by simp [Blueprint.pad])
  | none =>
    simp only [Option.map_none, List.length_map]
    exact (insert_pads sig body args.length).bind fun id => Pads.pure (by simp)

theorem shouldCache_allArguments (o : Options) (scope : Scope) :
    shouldCache { o with defineAllArguments := true } scope = shouldCache o scope := rfl

theorem hoisted_pads (nesting : Nesting) (n : Node) {direct₁ direct₂ : Nesting → Compile Code}
    (hd : ∀ nest, Pads Code.pad (direct₁ nest) (direct₂ nest)) :
    Pads Code.pad (hoisted scope nesting n direct₁) (hoisted scope nesting n direct₂) := by
  unfold hoisted
  refine options_bind fun o => ?_
  rw [shouldCache_allArguments]
  split
  · exact Pads.ite (fun _ => Pads.ite (fun _ => cachedSite_pads _ (hd _))
      (fun _ => Pads.ite (fun _ => templateSite_pads _ (hd _)) fun _ => hd _)) fun _ => hd _
  · exact hd _

theorem rooted_pads (n : Node) {direct₁ direct₂ : Nesting → Compile Code}
    (hd : ∀ nest, Pads Code.pad (direct₁ nest) (direct₂ nest)) :
    Pads Code.pad (rooted scope n direct₁) (rooted scope n direct₂) := by
  unfold rooted
  refine options_bind fun o => (hoisted_pads .site n hd).bind fun code => Pads.pure ?_
  rw [shouldCache_allArguments]
  split <;> rfl

theorem childrenArg_pads (nodes : List Node) (cf : ChildFlagValue) (collapse : Bool)
    {items₁ items₂ : Compile (List Code)} (hi : Pads (List.map Code.pad) items₁ items₂) :
    Pads (Option.map Code.pad) (childrenArg nodes cf collapse items₁)
      (childrenArg nodes cf collapse items₂) := by
  unfold childrenArg
  split
  · exact Pads.pure rfl
  · exact Pads.ite (fun _ => Pads.pure rfl) fun _ => hi.bind fun codes => Pads.pure (by
      split <;> simp [pad_sole])
  · exact hi.bind fun codes => Pads.pure (by split <;> simp [pad_sole])
  · exact hi.bind fun codes => Pads.pure (by simp)

end Sites

/-! ### The emitter -/

/-- Every emission function, run from a padded state, ends as it does from the state itself,
with its code padded. The induction follows the emitter's own recursion; a call is the one
place where the two runs write different code, and `pad_finishCall` says how. -/
theorem emit_pads :
    (∀ scope nesting n, Pads Code.pad (emitDirect scope nesting n) (emitDirect scope nesting n)) ∧
    (∀ v, Pads Code.pad (emitParam v) (emitParam v)) ∧
    (∀ pieces, Pads (List.map Code.pad) (emitPieces pieces) (emitPieces pieces)) ∧
    (∀ scope nodes, Pads (List.map Code.pad) (emitComponentChildren scope nodes)
      (emitComponentChildren scope nodes)) ∧
    (∀ cf, Pads (Option.map Code.pad) (emitChildFlags cf) (emitChildFlags cf)) ∧
    (∀ scope nesting nodes, Pads (List.map Code.pad) (emitNodes scope nesting nodes)
      (emitNodes scope nesting nodes)) ∧
    (∀ fields, Pads (List.map Code.pad) (emitFieldEntries fields) (emitFieldEntries fields)) ∧
    (∀ v, Pads Code.pad (emitValue v) (emitValue v)) ∧
    (∀ o, Pads (Option.map Code.pad) (emitOptional o) (emitOptional o)) := by
  refine emitDirect.mutual_induct
    (fun scope nesting n => Pads Code.pad (emitDirect scope nesting n) (emitDirect scope nesting n))
    (fun v => Pads Code.pad (emitParam v) (emitParam v))
    (fun pieces => Pads (List.map Code.pad) (emitPieces pieces) (emitPieces pieces))
    (fun scope nodes => Pads (List.map Code.pad) (emitComponentChildren scope nodes)
      (emitComponentChildren scope nodes))
    (fun cf => Pads (Option.map Code.pad) (emitChildFlags cf) (emitChildFlags cf))
    (fun scope nesting nodes => Pads (List.map Code.pad) (emitNodes scope nesting nodes)
      (emitNodes scope nesting nodes))
    (fun fields => Pads (List.map Code.pad) (emitFieldEntries fields) (emitFieldEntries fields))
    (fun v => Pads Code.pad (emitValue v) (emitValue v))
    (fun o => Pads (Option.map Code.pad) (emitOptional o) (emitOptional o))
    ?_ ?_ ?_ ?_ ?_ ?_ ?_ ?_ ?_ ?_ ?_ ?_ ?_ ?_ ?_ ?_ ?_ ?_ ?_ ?_ ?_ ?_ ?_ ?_ ?_
  · intro l
    exact bindParam_pads (.text l.render)
  · intro pieces ih
    exact (suspended_pads ih).bind fun parts => by simpa using bindParam_pads (.expr parts)
  · intro l
    exact Pads.pure rfl
  · intro pieces ih
    exact (suspended_pads ih).bind fun parts => by simpa using bindParam_pads (.expr parts)
  · intro f
    exact Pads.pure (by split <;> rfl)
  · intro v ih
    exact ih.bind fun code => Pads.pure rfl
  · intro scope nesting tag flags cls fields key ref children cf normC collapse normP sig
      hcls hfields hkey href hchildren hcf
    -- normalised children come after the other positions: the two layouts are two programs
    cases normC <;> simp only [emitDirect, Bool.false_eq_true, if_false, if_true, pure_bind]
    · refine useHelper_bind _ (hcls.bind fun clsArg => ?_)
      refine (childrenArg_pads _ _ _ hchildren).bind fun chArg => hcf.bind fun cfArg => ?_
      refine hfields.bind fun entries => hkey.bind fun keyArg => href.bind fun refArg => ?_
      refine options_bind fun o => wrapIf_pads normP rfl ?_
      rw [pad_finishCall .createVNode _ elementDefaults _ rfl rfl]
      simp [propsObject_pad]
    · refine useHelper_bind _ (hcls.bind fun clsArg => ?_)
      refine hfields.bind fun entries => hkey.bind fun keyArg => href.bind fun refArg => ?_
      refine options_bind fun o => hchildren.bind fun items => useHelper_bind _ ?_
      refine wrapIf_pads normP rfl ?_
      rw [Code.pad_call_full _ rfl]
      simp only [List.map_cons, List.map_nil]
      rw [pad_finishCall .createVNode _ elementDefaults _ rfl rfl]
      simp [propsObject_pad, apply_ite Code.pad, pad_sole]
  · intro scope nesting tag flags fields key ref hooks children normP hchildren hfields hkey href
      hhooks
    refine useHelper_bind _ (hchildren.bind fun items => hfields.bind fun entries => ?_)
    refine hkey.bind fun keyArg => ?_
    dsimp only
    refine Pads.ite (fun _ => href.bind fun refArg => options_bind fun o => wrapIf_pads normP rfl ?_)
      fun _ => hhooks.bind fun hookEntries =>
        (Pads.pure (by simp [propsObject_pad]) : Pads (Option.map Code.pad) _ _).bind fun refArg =>
          options_bind fun o => wrapIf_pads normP rfl ?_
    all_goals
      rw [pad_finishCall .createComponentVNode _ componentDefaults _ rfl rfl]
      rcases items with _ | ⟨a, _ | ⟨b, rest⟩⟩ <;> simp [propsObject_pad]
  · intro scope nesting key children cf normC collapse sig hchildren hkey hcf
    refine useHelper_bind _ ((childrenArg_pads _ _ _ hchildren).bind fun chArg => ?_)
    simp only [Option.isNone_map, pure_bind]
    split
    · refine hkey.bind fun keyArg => options_bind fun o => Pads.pure ?_
      rw [pad_finishCall .createFragment _ fragmentDefaults _ rfl rfl]
      simp
    · refine hcf.bind fun cfArg => hkey.bind fun keyArg => options_bind fun o => Pads.pure ?_
      rw [pad_finishCall .createFragment _ fragmentDefaults _ rfl rfl]
      simp
  · intro scope nesting value
    exact useHelper_bind _ (Pads.pure (by rw [Code.pad_call_full _ rfl]; rfl))
  · intro scope nesting v ih
    exact ih
  · exact Pads.pure rfl
  · intro code rest ih
    exact ih.bind fun more => Pads.pure rfl
  · intro e scope tail
    exact Pads.throw e
  · intro n scope rest ihn ih
    exact (rooted_pads n ihn).bind fun code => ih.bind fun more => Pads.pure rfl
  · intro v nullish
    simp only [emitOptional, nullish, if_true]
    exact Pads.pure rfl
  · intro v present ih
    simp only [emitOptional, present]
    exact ih.bind fun code => Pads.pure rfl
  · exact Pads.pure rfl
  · exact Pads.pure rfl
  · intro name category value rest ihv ih
    exact ihv.bind fun code => ih.bind fun more => Pads.pure (by split <;> rfl)
  · intro scope
    exact Pads.pure rfl
  · intro scope rest t ih
    simp only [emitComponentChildren, pure_bind]
    exact ih.bind fun more => Pads.pure rfl
  · intro scope n rest notText ih ihn
    simp only [emitComponentChildren]
    exact (hoisted_pads .site n ihn).bind fun code => ih.bind fun more => Pads.pure rfl
  · intro scope nesting
    exact Pads.pure rfl
  · intro scope nesting n rest ihn ih
    exact (hoisted_pads nesting n ihn).bind fun code => ih.bind fun more => Pads.pure rfl

theorem tree_pads (t : Tree) (scope : Scope) :
    Pads Code.pad (Compile.tree t scope) (Compile.tree t scope) :=
  (ofExcept_pads (classify t)).bind fun n => rooted_pads n fun nest => emit_pads.1 scope nest n

/-- Argument elision is sound. Compiling a tree from a state asking for every argument, with its
blueprints and collected values padded, gives the code compiled from the state itself with every
construction call padded with the runtime's defaults of the positions it left out, the calls
inside skeletons, template bodies and template arguments too, and it reaches the padded state.
Both fail alike, with the same error. So leaving out trailing arguments never drops one that
differs from its default, and never moves a later argument to an earlier position. -/
theorem argument_elision_sound (t : Tree) (scope : Scope) (s : Context) :
    (Compile.tree t scope).run s.pad = match (Compile.tree t scope).run s with
      | .ok c s' => .ok c.pad s'.pad
      | .error e s' => .error e s'.pad := by
  rw [tree_pads t scope s]
  cases (Compile.tree t scope).run s <;> rfl

end Compile

end JsxVNode
