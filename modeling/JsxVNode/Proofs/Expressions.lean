import JsxVNode.Proofs.Declarations
/-!
Every expression of a classified node is emitted once. An expression is seen by its view: its
source text in order, with the markup nested in it seen by the expressions that markup shows. A
node shows the expressions it holds in the positions the emitter reads, in the order the code
prints them: an element's class name, children, child flags, props, key and ref (with children
the runtime normalises last); a component's props, children, key, ref and hooks; a fragment's
children, its child flags when it has children, and its key.

The code of a successful step shows exactly the expressions of its node, in that order: each
inline, or as the value a template call passes, never both and never twice. Skeletons and
template bodies show none, so reading a slot, calling a template, or building a body that is
then thrown away at a cache hit evaluates nothing.
-/
namespace JsxVNode

/-- An expression as emitted code shows it: source text, or markup nested in it, seen by the
expressions the markup shows. -/
inductive ExprView where
  | source (code : String)
  | markup (exprs : List (List ExprView))

namespace Code

mutual
def exprs : Code → List (List ExprView)
  | .text _ | .source _ | .helper _ | .param _ => []
  | .call callee args => exprs callee ++ exprsList args
  | .array items | .object items | .template _ items => exprsList items
  | .entry _ value | .spread value | .cached _ value | .paren value => exprs value
  | .expr parts => [partViews parts]

def exprsList : List Code → List (List ExprView)
  | [] => []
  | c :: rest => exprs c ++ exprsList rest

def partViews : List Code → List ExprView
  | [] => []
  | .source code :: rest => .source code :: partViews rest
  | c :: rest => .markup (exprs c) :: partViews rest
end

def optionExprs (c : Option Code) : List (List ExprView) := (c.map exprs).getD []

@[simp] theorem exprsList_eq_flatMap (cs : List Code) : exprsList cs = cs.flatMap exprs := by
  induction cs with
  | nil => rfl
  | cons c rest ih => simp [exprsList, ih]

section Exprs
variable (cs : List Code) (c : Code)

@[simp] theorem exprs_text (s : String) : (Code.text s).exprs = [] := rfl
@[simp] theorem exprs_source (s : String) : (Code.source s).exprs = [] := rfl
@[simp] theorem exprs_helper (h : Helper) : (Code.helper h).exprs = [] := rfl
@[simp] theorem exprs_param (i : Nat) : (Code.param i).exprs = [] := rfl
@[simp] theorem exprs_call : (Code.call c cs).exprs = c.exprs ++ cs.flatMap exprs := by
  rw [← exprsList_eq_flatMap]; rfl
@[simp] theorem exprs_array : (Code.array cs).exprs = cs.flatMap exprs := by
  rw [← exprsList_eq_flatMap]; rfl
@[simp] theorem exprs_object : (Code.object cs).exprs = cs.flatMap exprs := by
  rw [← exprsList_eq_flatMap]; rfl
@[simp] theorem exprs_template (id : Nat) : (Code.template id cs).exprs = cs.flatMap exprs := by
  rw [← exprsList_eq_flatMap]; rfl
@[simp] theorem exprs_expr : (Code.expr cs).exprs = [partViews cs] := rfl
@[simp] theorem exprs_entry (key : String) : (Code.entry key c).exprs = c.exprs := rfl
@[simp] theorem exprs_spread : (Code.spread c).exprs = c.exprs := rfl
@[simp] theorem exprs_cached (id : Nat) : (Code.cached id c).exprs = c.exprs := rfl
@[simp] theorem exprs_paren : (Code.paren c).exprs = c.exprs := rfl

@[simp] theorem optionExprs_none : optionExprs none = [] := rfl
@[simp] theorem optionExprs_some : optionExprs (some c) = c.exprs := rfl

@[simp] theorem partViews_nil : partViews [] = [] := rfl
@[simp] theorem partViews_source (s : String) :
    partViews (.source s :: cs) = .source s :: partViews cs := rfl

theorem partViews_markup (markup : ∀ s, c ≠ .source s) :
    partViews (c :: cs) = .markup c.exprs :: partViews cs := by
  cases c <;> first | rfl | exact absurd rfl (markup _)

end Exprs

theorem exprs_finishCall (callee : Code) (args : List (Option Code)) (defaults : List String)
    (defineAll : Bool) :
    (finishCall callee args defaults defineAll).exprs = callee.exprs ++ args.flatMap optionExprs :=
  flatMap_finishCall exprs (fun _ => rfl) (fun callee args => exprs_call args callee) callee args
    defaults defineAll

theorem optionExprs_propsObject (entries : List Code) (extra : List (String × Code)) :
    optionExprs (Compile.propsObject entries extra) =
      entries.flatMap exprs ++ extra.flatMap fun kv => kv.2.exprs := by
  unfold Compile.propsObject
  split
  · simp_all
  · simp [List.flatMap_map]

theorem exprs_sole (codes : List Code) : (Code.sole codes).exprs = codes.flatMap exprs := by
  unfold Code.sole
  split <;> simp

mutual
theorem exprs_subst (σ : Nat → Code) : ∀ (c : Code), c.exprs = [] →
    (c.subst σ).exprs = c.params.flatMap fun i => (σ i).exprs
  | .text _, _ | .source _, _ | .helper _, _ => rfl
  | .param i, _ => by simp [subst]
  | .call callee args, h => by
    simp only [exprs_call, List.append_eq_nil_iff] at h
    simp only [subst, substList_eq_map, exprs_call, params_call, List.flatMap_append,
      exprs_subst σ callee h.1, exprsList_subst σ args (by simpa using h.2)]
  | .array cs, h | .object cs, h | .template _ cs, h => by
    simp only [exprs_array, exprs_object, exprs_template] at h
    simp only [subst, substList_eq_map, exprs_array, exprs_object, exprs_template, params_array,
      params_object, params_template, exprsList_subst σ cs (by simpa using h)]
  | .expr cs, h => by simp at h
  | .entry _ c, h | .spread c, h | .cached _ c, h | .paren c, h => by
    simp only [exprs_entry, exprs_spread, exprs_cached, exprs_paren] at h
    simp only [subst, exprs_entry, exprs_spread, exprs_cached, exprs_paren, params_entry,
      params_spread, params_cached, params_paren, exprs_subst σ c h]

theorem exprsList_subst (σ : Nat → Code) : ∀ (cs : List Code), cs.flatMap exprs = [] →
    (cs.map (subst σ)).flatMap exprs = (cs.flatMap params).flatMap fun i => (σ i).exprs
  | [], _ => rfl
  | c :: rest, h => by
    simp only [List.flatMap_cons, List.append_eq_nil_iff] at h
    simp only [List.map_cons, List.flatMap_cons, List.flatMap_append, exprs_subst σ c h.1,
      exprsList_subst σ rest h.2]
end

theorem flatMap_range_getD {α β : Type} (l : List α) (d : Nat → α) (f : α → List β) :
    (List.range l.length).flatMap (fun i => f (l.getD i (d i))) = l.flatMap f := by
  induction l generalizing d with
  | nil => rfl
  | cons a rest ih =>
    rw [List.length_cons, List.range_succ_eq_map, List.flatMap_cons, List.flatMap_map,
      List.flatMap_cons]
    simp only [List.getD_cons_zero, List.getD_cons_succ]
    rw [ih fun i => d (i + 1)]

theorem exprs_fill {body : Code} {args : List Code} (none : body.exprs = [])
    (params : body.params = List.range args.length) :
    (body.fill args).exprs = args.flatMap exprs := by
  rw [fill, exprs_subst _ body none, params]
  exact flatMap_range_getD args Code.param exprs

end Code

mutual
def Term.exprs : Term → List (List ExprView)
  | .literal _ => []
  | .expr pieces => [Piece.views pieces]

def Term.optionExprs : Option Term → List (List ExprView)
  | some t => Term.exprs t
  | none => []

/-- The pieces of an expression: its source text, and its nested markup seen by the expressions
that markup holds. -/
def Piece.views : List Piece → List ExprView
  | [] => []
  | .source code :: rest => .source code :: Piece.views rest
  | .tree (.ok n) _ :: rest => .markup (Node.exprs n) :: Piece.views rest
  | .tree (.error _) _ :: rest => Piece.views rest

def Field.exprsList : List Field → List (List ExprView)
  | [] => []
  | .mk _ _ value :: rest => Term.exprs value ++ Field.exprsList rest

def ChildFlagValue.exprs : ChildFlagValue → List (List ExprView)
  | .known _ => []
  | .dynamic value => Term.exprs value

/-- The expressions a node holds where the emitter reads them, in the order its code prints
them. -/
def Node.exprs : Node → List (List ExprView)
  | .element _ _ cls fields key ref children cf normC _ _ _ =>
    if normC then
      Term.optionExprs cls ++ Field.exprsList fields ++ Term.optionExprs key ++
        Term.optionExprs ref ++ Node.exprsList children
    else
      Term.optionExprs cls ++ Node.exprsList children ++ ChildFlagValue.exprs cf ++
        Field.exprsList fields ++ Term.optionExprs key ++ Term.optionExprs ref
  | .component _ _ fields key ref hooks children _ =>
    Field.exprsList fields ++ Node.exprsList children ++ Term.optionExprs key ++
      Term.optionExprs ref ++ Field.exprsList hooks
  | .fragment key children cf _ _ _ =>
    Node.exprsList children ++ (if children.isEmpty then [] else ChildFlagValue.exprs cf) ++
      Term.optionExprs key
  | .text _ => []
  | .slot value => Term.exprs value

def Node.exprsList : List Node → List (List ExprView)
  | [] => []
  | n :: rest => Node.exprs n ++ Node.exprsList rest
end

/-! ### The code of a signature shows no expression -/

section Signatures
open Code
variable {o : Options} {site : Signature → Option Code} {hole : Nat → Code}

theorem exprs_shapeCode (holes : ∀ i, (hole i).exprs = []) (s : Shape) : (s.code hole).exprs = [] := by
  cases s with
  | literal => rfl
  | slot => exact holes 0

theorem optionExprs_optionCode (holes : ∀ i, (hole i).exprs = []) (s : Option Shape) :
    optionExprs (Shape.optionCode hole s) = [] := by
  rcases s with _ | ⟨l | _⟩
  · rfl
  · cases l <;> rfl
  · exact holes 0

theorem exprs_entries (holes : ∀ i, (hole i).exprs = []) (fields : List FieldShape) :
    (FieldShape.entries hole fields).flatMap exprs = [] := by
  induction fields generalizing hole with
  | nil => rfl
  | cons f rest ih =>
    have entry : (f.entry hole).exprs = [] := by
      unfold FieldShape.entry
      split <;> simp [exprs_shapeCode holes]
    simp only [FieldShape.entries, List.flatMap_cons, entry, List.nil_append]
    exact ih fun i => holes _

theorem optionExprs_childFlagsCode (holes : ∀ i, (hole i).exprs = []) (cf : Option Nat) :
    optionExprs (childFlagsCode hole cf) = [] := by
  rcases cf with _ | n
  · exact holes 0
  · simp only [childFlagsCode]
    split <;> rfl

theorem optionExprs_childrenCode (children : List Signature) (cf : Option Nat) (collapse : Bool)
    {codes : List Code} (none : codes.flatMap exprs = []) :
    optionExprs (Signature.childrenCode children cf collapse codes) = [] := by
  unfold Signature.childrenCode
  split
  · rfl
  · split
    · rfl
    · split <;> simp [exprs_sole, none]
  · split <;> simp [exprs_sole, none]
  · simp [none]

mutual
/-- The code of a signature shows no expression when its holes and the sites it reads show
none: every value of a template is a hole, and a skeleton has no values. -/
theorem exprs_code (quiet : ∀ c x, c.isStatic = true → site c = some x → x.exprs = []) :
    ∀ (hole : Nat → Code), (∀ i, (hole i).exprs = []) → ∀ (sig : Signature),
      (sig.code o site hole).exprs = []
  | hole, holes, .element tag flags cls fields key ref cf children => by
    have shifted : ∀ k, ∀ i, (shiftHoles hole k i).exprs = [] := fun k i => holes (k + i)
    simp only [Signature.code]
    split
    · simp [exprs_finishCall, optionExprs_propsObject, optionExprs_optionCode holes,
        optionExprs_optionCode (shifted _), exprs_entries (shifted _), apply_ite Code.exprs,
        exprs_sole, exprsList_code quiet _ (shifted _)]
    · simp [exprs_finishCall, optionExprs_propsObject, optionExprs_optionCode holes,
        optionExprs_optionCode (shifted _), exprs_entries (shifted _),
        optionExprs_childFlagsCode (shifted _),
        optionExprs_childrenCode _ _ _ (exprsList_code quiet _ (shifted _) children)]
  | hole, holes, .fragment key cf children => by
    have shifted : ∀ k, ∀ i, (shiftHoles hole k i).exprs = [] := fun k i => holes (k + i)
    simp only [Signature.code, exprs_finishCall]
    simp [optionExprs_optionCode (shifted _), apply_ite optionExprs,
      optionExprs_childFlagsCode (shifted _),
      optionExprs_childrenCode _ _ _ (exprsList_code quiet _ holes children)]
  | _, _, .text _ => rfl
  | _, holes, .slot => holes 0

theorem exprsList_code (quiet : ∀ c x, c.isStatic = true → site c = some x → x.exprs = []) :
    ∀ (hole : Nat → Code), (∀ i, (hole i).exprs = []) → ∀ (sigs : List Signature),
      (Signature.codeList o site hole sigs).flatMap exprs = []
  | _, _, [] => rfl
  | hole, holes, c :: rest => by
    simp only [Signature.codeList, List.flatMap_cons, List.append_eq_nil_iff]
    refine ⟨?_, exprsList_code quiet _ (fun i => holes _) rest⟩
    split
    · rename_i read
      cases hx : site c with
      | none => simpa using exprs_code quiet hole holes c
      | some x => simpa using quiet c x (Bool.and_eq_true _ _ ▸ read).2 hx
    · exact exprs_code quiet hole holes c
end

end Signatures

theorem Context.Sound.exprs_skeleton {s : Context} (sound : s.Sound) {b : Blueprint}
    (hb : b ∈ s.blueprints) : b.skeleton.exprs = [] := by
  have skeleton : ∀ sig : Signature, (sig.code s.options (fun _ => none) .param).exprs = [] :=
    exprs_code (by simp) .param fun _ => rfl
  cases Context.sound_iff.mp sound b hb with
  | static => exact skeleton _
  | template id body _ _ _ _ built =>
    rw [built _ (List.prefix_refl _)]
    refine exprs_code ?_ .param (fun _ => rfl) _
    intro c x static hx
    simp only [Blueprint.sites, Option.map_eq_some_iff] at hx
    obtain ⟨b', found, rfl⟩ := hx
    have named : b'.signature = c := by simpa using List.find?_some found
    cases Context.sound_iff.mp sound b' (List.mem_of_find?_eq_some found) with
    | static => exact skeleton _
    | template _ _ _ _ dynamic => simp_all

namespace Compile

/-! ### Runs that show the expressions of their node -/

/-- Every successful run of `x` from a sound state that collects no template values ends in one,
with a result satisfying `post`. -/
def Gives {α : Type} (post : α → Prop) (x : Compile α) : Prop :=
  ∀ s a t, s.params = none → s.Sound → x.run s = .ok a t → t.params = none ∧ t.Sound ∧ post a

def Shows (n : Node) (c : Code) : Prop := c.exprs = n.exprs ∧ ∀ x, c ≠ .source x

section Gives
variable {α β : Type}

theorem Gives.bind {x : Compile α} {f : α → Compile β} {p : α → Prop} {q : β → Prop}
    (hx : Gives p x) (hf : ∀ a, p a → Gives q (f a)) : Gives q (x >>= f) := by
  intro s b u idle sound run
  obtain ⟨a, t, first, rest⟩ := run_bind_eq_ok run
  obtain ⟨idle', sound', post⟩ := hx s a t idle sound first
  exact hf a post t b u idle' sound' rest

theorem Gives.pure {a : α} {q : α → Prop} (h : q a) : Gives q (Pure.pure a : Compile α) := by
  intro s b u idle sound run
  cases run
  exact ⟨idle, sound, h⟩

theorem Gives.mono {x : Compile α} {p q : α → Prop} (h : Gives p x) (imp : ∀ a, p a → q a) :
    Gives q x := fun s a t idle sound run =>
  let ⟨idle', sound', post⟩ := h s a t idle sound run
  ⟨idle', sound', imp a post⟩

theorem Gives.throw {q : α → Prop} (e : CompileError) : Gives q (throw e : Compile α) := by
  intro s a t _ _ run
  cases run

theorem Gives.ite {c : Prop} [Decidable c] {q : α → Prop} {x y : Compile α} (hx : Gives q x)
    (hy : Gives q y) : Gives q (if c then x else y) := by
  split
  · exact hx
  · exact hy

theorem useHelper_gives (h : Helper) : Gives (· = .helper h) (useHelper h) := by
  intro s c t idle sound run
  rw [run_useHelper] at run
  cases run
  split
  · exact ⟨idle, sound, rfl⟩
  · exact ⟨idle, sound, rfl⟩

theorem options_gives : Gives (fun _ => True) options := by
  intro s o t idle sound run
  cases run
  exact ⟨idle, sound, trivial⟩

theorem bindParam_gives (code : Code) : Gives (· = code) (bindParam code) := by
  intro s c t idle sound run
  rw [run_bindParam, idle] at run
  cases run
  exact ⟨idle, sound, rfl⟩

theorem suspended_gives {p : α → Prop} {x : Compile α} (hx : Gives p x) : Gives p (suspended x) := by
  intro s a t idle sound run
  rw [run_suspended] at run
  cases inner : x.run { s with params := none } with
  | error e t' => rw [inner] at run; cases run
  | ok a' t' =>
    rw [inner] at run
    cases run
    obtain ⟨-, sound', post⟩ := hx { s with params := none } a t' rfl sound inner
    exact ⟨idle, sound', post⟩

theorem wrapIf_gives (cond : Bool) (h : Helper) {n : Node} {call : Code} (shows : Shows n call) :
    Gives (Shows n) (wrapIf cond h call) := by
  unfold wrapIf
  refine Gives.ite ((useHelper_gives h).bind fun callee named => Gives.pure ?_) (Gives.pure shows)
  subst named
  exact ⟨by simpa using shows.1, fun _ => Code.noConfusion⟩

theorem childrenArg_gives (nodes : List Node) (cf : ChildFlagValue) (collapse : Bool)
    {items : Compile (List Code)} (hi : Gives (fun codes => codes.flatMap Code.exprs = Node.exprsList nodes) items) :
    Gives (fun o => Code.optionExprs o = Node.exprsList nodes ∧ o.isNone = nodes.isEmpty)
      (childrenArg nodes cf collapse items) := by
  unfold childrenArg
  split
  · exact Gives.pure ⟨rfl, rfl⟩
  · refine Gives.ite (Gives.pure ⟨rfl, rfl⟩) (hi.bind fun codes shown => Gives.pure ⟨?_, rfl⟩)
    split <;> simp [Code.exprs_sole, shown]
  · refine hi.bind fun codes shown => Gives.pure ⟨?_, rfl⟩
    split <;> simp [Code.exprs_sole, shown]
  · rename_i several _ _
    refine hi.bind fun codes shown => Gives.pure ⟨by simp [shown], ?_⟩
    cases nodes with
    | nil => exact absurd rfl several
    | cons => rfl

end Gives

/-! ### Sites -/

theorem hoisted_gives (scope : Scope) (nesting : Nesting) {n : Node} (wf : n.wellFormed = true)
    (direct : ∀ nest, Gives (Shows n) (emitDirect scope nest n)) :
    Gives (Shows n) (hoisted scope nesting n fun nest => emitDirect scope nest n) := by
  intro s c t idle sound run
  have soundAfter : t.Sound := by
    have := hoisted_completes scope nesting n wf (fun nest => direct_completes [] scope nest n wf) s
      sound
    rwa [run] at this
  have idleAfter : t.params = none := by
    have := (hoisted_grows scope nesting n fun nest => emit_grows.1 scope nest n).run s
    rw [run] at this
    exact this.params idle
  refine ⟨idleAfter, soundAfter, ?_⟩
  simp only [hoisted, EStateM.run_bind, run_options] at run
  cases hsig : n.hoistSignature? with
  | none =>
    rw [hsig] at run
    exact (direct nesting s c t idle sound run).2.2
  | some sig =>
    rw [hsig] at run
    simp only at run
    split at run
    · split at run
      · rename_i static
        obtain ⟨id, skeleton, rfl, ⟨t', built⟩, -⟩ := cachedSite_skeleton wf hsig static sound run
        have shows := (direct .skeleton s skeleton t' idle sound built).2.2
        exact ⟨by simpa using shows.1, fun _ => Code.noConfusion⟩
      · split at run
        · rename_i cached dynamic site
          simp only [Bool.and_eq_true, bne_iff_ne, ne_eq] at cached site
          obtain ⟨id, args, rfl, -, b, mem, -, -, -, params, inline, t', inlineRun, filled⟩ :=
            templateSite_fills wf hsig (Bool.eq_false_iff.mpr dynamic) (by simpa using site.2) sound
              cached.2 run
          have shows := (direct .template { s with params := none } inline t' rfl sound inlineRun).2.2
          have values : args.flatMap Code.exprs = inline.exprs := by
            rw [← filled, Code.exprs_fill (soundAfter.exprs_skeleton mem) params]
          exact ⟨by simpa [values] using shows.1, fun _ => Code.noConfusion⟩
        · exact (direct nesting s c t idle sound run).2.2
    · exact (direct nesting s c t idle sound run).2.2

theorem rooted_gives (scope : Scope) {n : Node} (wf : n.wellFormed = true)
    (direct : ∀ nest, Gives (Shows n) (emitDirect scope nest n)) :
    Gives (Shows n) (rooted scope n fun nest => emitDirect scope nest n) :=
  options_gives.bind fun _ _ => (hoisted_gives scope .site wf direct).bind fun code shows =>
    Gives.pure (by
      split
      · exact ⟨by simpa using shows.1, fun _ => Code.noConfusion⟩
      · exact shows)

theorem Term.exprs_of_isNullish {v : Term} (nullish : v.isNullish = true) : v.exprs = [] := by
  cases v with
  | literal => rfl
  | expr => simp [Term.isNullish] at nullish

/-- Every emission of a classified node, from a sound state collecting no values, shows the
expressions the node holds, in the order it prints them. The induction follows the emitter's own
recursion; a value emitted inline is one expression, and each statement of a `do` block adds
what its part shows. -/
theorem emit_shows :
    (∀ scope nesting n, n.wellFormed = true → Gives (Shows n) (emitDirect scope nesting n)) ∧
    (∀ v, v.wellFormed = true →
      Gives (fun c => c.exprs = v.exprs ∧ ∀ x, c ≠ .source x) (emitParam v)) ∧
    (∀ pieces, Piece.allWellFormed pieces = true →
      Gives (fun parts => Code.partViews parts = Piece.views pieces) (emitPieces pieces)) ∧
    (∀ scope nodes, (∀ n ∈ nodes, n.wellFormed = true) →
      Gives (fun cs => cs.flatMap Code.exprs = Node.exprsList nodes)
        (emitComponentChildren scope nodes)) ∧
    (∀ cf, cf.wellFormed = true →
      Gives (fun o => Code.optionExprs o = cf.exprs) (emitChildFlags cf)) ∧
    (∀ scope nesting nodes, (∀ n ∈ nodes, n.wellFormed = true) →
      Gives (fun cs => cs.flatMap Code.exprs = Node.exprsList nodes)
        (emitNodes scope nesting nodes)) ∧
    (∀ fields, (∀ f ∈ fields, f.value.wellFormed = true) →
      Gives (fun cs => cs.flatMap Code.exprs = Field.exprsList fields) (emitFieldEntries fields)) ∧
    (∀ v, v.wellFormed = true → Gives (fun c => c.exprs = v.exprs) (emitValue v)) ∧
    (∀ o, (∀ t ∈ o, t.wellFormed = true) →
      Gives (fun c => Code.optionExprs c = Term.optionExprs o) (emitOptional o)) := by
  refine emitDirect.mutual_induct
    (fun scope nesting n => n.wellFormed = true → Gives (Shows n) (emitDirect scope nesting n))
    (fun v => v.wellFormed = true →
      Gives (fun c => c.exprs = v.exprs ∧ ∀ x, c ≠ .source x) (emitParam v))
    (fun pieces => Piece.allWellFormed pieces = true →
      Gives (fun parts => Code.partViews parts = Piece.views pieces) (emitPieces pieces))
    (fun scope nodes => (∀ n ∈ nodes, n.wellFormed = true) →
      Gives (fun cs => cs.flatMap Code.exprs = Node.exprsList nodes)
        (emitComponentChildren scope nodes))
    (fun cf => cf.wellFormed = true →
      Gives (fun o => Code.optionExprs o = cf.exprs) (emitChildFlags cf))
    (fun scope nesting nodes => (∀ n ∈ nodes, n.wellFormed = true) →
      Gives (fun cs => cs.flatMap Code.exprs = Node.exprsList nodes)
        (emitNodes scope nesting nodes))
    (fun fields => (∀ f ∈ fields, f.value.wellFormed = true) →
      Gives (fun cs => cs.flatMap Code.exprs = Field.exprsList fields) (emitFieldEntries fields))
    (fun v => v.wellFormed = true → Gives (fun c => c.exprs = v.exprs) (emitValue v))
    (fun o => (∀ t ∈ o, t.wellFormed = true) →
      Gives (fun c => Code.optionExprs c = Term.optionExprs o) (emitOptional o))
    ?_ ?_ ?_ ?_ ?_ ?_ ?_ ?_ ?_ ?_ ?_ ?_ ?_ ?_ ?_ ?_ ?_ ?_ ?_ ?_ ?_ ?_ ?_ ?_ ?_
  · intro l _
    exact (bindParam_gives _).bind fun c named => Gives.pure
      ⟨by simp [named, Term.exprs], by simp [named]⟩
  · intro pieces ih wf
    refine (suspended_gives (ih (by simpa [Term.wellFormed] using wf))).bind fun parts shown =>
      (bindParam_gives _).bind fun c named => Gives.pure ⟨?_, by simp [named]⟩
    simp [named, shown, Term.exprs]
  · intro l _
    exact Gives.pure (by simp [Term.exprs])
  · intro pieces ih wf
    refine (suspended_gives (ih (by simpa [Term.wellFormed] using wf))).bind fun parts shown =>
      (bindParam_gives _).bind fun c named => Gives.pure ?_
    simp [named, shown, Term.exprs]
  · intro f _
    exact Gives.pure (by split <;> simp [ChildFlagValue.exprs])
  · intro v ih wf
    exact (ih (by simpa [ChildFlagValue.wellFormed] using wf)).bind fun code shown =>
      Gives.pure (by simp [shown.1, ChildFlagValue.exprs])
  · intro scope nesting tag flags cls fields key ref children cf normC collapse normP sig
      hcls hfields hkey href hchildren hcf wf
    obtain ⟨-, -, -, wcls, wfields, wkey, wref, wchildren, wcf⟩ := Node.wellFormed_element_iff.mp wf
    cases normC <;> simp only [emitDirect, Bool.false_eq_true, if_false, if_true]
    · refine (useHelper_gives _).bind fun callee named => (hcls wcls).bind fun clsArg cls' => ?_
      refine (childrenArg_gives _ _ _ (hchildren wchildren)).bind fun chArg ch' =>
        (hcf wcf).bind fun cfArg cf' => ?_
      refine (hfields wfields).bind fun entries fields' => (hkey wkey).bind fun keyArg key' =>
        (href wref).bind fun refArg ref' => ?_
      refine options_gives.bind fun o _ => (Gives.pure (q := Shows _) ⟨?_, fun _ => Code.noConfusion⟩).bind
        fun call shows => wrapIf_gives _ _ shows
      simp [Node.exprs, named, Code.exprs_finishCall, Code.optionExprs_propsObject, cls', ch'.1,
        cf', fields', key', ref']
    · simp only [pure_bind]
      refine (useHelper_gives _).bind fun callee named => (hcls wcls).bind fun clsArg cls' => ?_
      refine (hfields wfields).bind fun entries fields' => (hkey wkey).bind fun keyArg key' =>
        (href wref).bind fun refArg ref' => ?_
      refine options_gives.bind fun o _ => (hchildren wchildren).bind fun items items' =>
        (useHelper_gives _).bind fun nc named' => wrapIf_gives _ _ ⟨?_, fun _ => Code.noConfusion⟩
      simp [Node.exprs, named, named', Code.exprs_finishCall, Code.optionExprs_propsObject,
        apply_ite Code.exprs, Code.exprs_sole, cls', fields', key', ref', items']
  · intro scope nesting tag flags fields key ref hooks children normP hchildren hfields hkey href
      hhooks wf
    obtain ⟨single, wfields, wkey, wref, whooks, wchildren⟩ := Node.wellFormed_component_iff.mp wf
    refine (useHelper_gives _).bind fun callee named => (hchildren wchildren).bind
      fun items items' => ?_
    refine (hfields wfields).bind fun entries fields' => (hkey wkey).bind fun keyArg key' => ?_
    dsimp only
    split
    · rename_i noHooks
      refine (href wref).bind fun refArg ref' => options_gives.bind fun o _ =>
        wrapIf_gives _ _ ⟨?_, fun _ => Code.noConfusion⟩
      have empty : hooks = [] := List.isEmpty_iff.mp noHooks
      subst empty
      split <;> simp_all [Node.exprs, Field.exprsList, Code.exprs_finishCall,
        Code.optionExprs_propsObject]
    · rename_i hooked
      simp only [pure_bind]
      refine (hhooks whooks).bind fun hookEntries hooks' => options_gives.bind fun o _ =>
        wrapIf_gives _ _ ⟨?_, fun _ => Code.noConfusion⟩
      have absent : ref = none := by simpa [hooked] using single
      subst absent
      split <;> simp_all [Node.exprs, Term.optionExprs, Code.exprs_finishCall,
        Code.optionExprs_propsObject]
  · intro scope nesting key children cf normC collapse sig hchildren hkey hcf wf
    obtain ⟨-, -, wkey, wchildren, wcf⟩ := Node.wellFormed_fragment_iff.mp wf
    refine (useHelper_gives _).bind fun callee named =>
      (childrenArg_gives _ _ _ (hchildren wchildren)).bind fun chArg ch' => ?_
    dsimp only
    split
    · rename_i absent
      simp only [pure_bind]
      refine (hkey wkey).bind fun keyArg key' => options_gives.bind fun o _ =>
        Gives.pure ⟨?_, fun _ => Code.noConfusion⟩
      have empty : children.isEmpty = true := ch'.2 ▸ absent
      simp [Node.exprs, named, empty, Code.exprs_finishCall, ch'.1, key']
    · rename_i present
      refine (hcf wcf).bind fun cfArg cf' => (hkey wkey).bind fun keyArg key' =>
        options_gives.bind fun o _ => Gives.pure ⟨?_, fun _ => Code.noConfusion⟩
      have nonempty : children.isEmpty = false := by simpa [ch'.2] using present
      simp [Node.exprs, named, nonempty, Code.exprs_finishCall, ch'.1, cf', key']
  · intro scope nesting value _
    exact (useHelper_gives _).bind fun callee named =>
      Gives.pure ⟨by simp [named, Node.exprs], fun _ => Code.noConfusion⟩
  · intro scope nesting v ih wf
    exact (ih (by simpa [Node.wellFormed] using wf)).mono fun c shown =>
      ⟨by simpa [Node.exprs] using shown.1, shown.2⟩
  · intro _
    exact Gives.pure (by simp [Piece.views])
  · intro code rest ih wf
    exact (ih (by simpa [Piece.allWellFormed] using wf)).bind fun more shown =>
      Gives.pure (by simp [Piece.views, shown])
  · intro e scope tail _
    exact Gives.throw e
  · intro n scope rest ihn ih wf
    simp only [Piece.allWellFormed, Bool.and_eq_true] at wf
    refine (rooted_gives scope wf.1 fun nest => ihn nest wf.1).bind fun code shows =>
      (ih wf.2).bind fun more shown => Gives.pure ?_
    rw [Code.partViews_markup _ _ shows.2, shows.1, shown]
    simp [Piece.views]
  · intro v nullish _
    simp only [emitOptional, nullish, if_true]
    exact Gives.pure (by simp [Term.optionExprs, Term.exprs_of_isNullish nullish])
  · intro v present ih wf
    simp only [emitOptional, present]
    exact (ih (wf v rfl)).bind fun code shown => Gives.pure (by simp [Term.optionExprs, shown])
  · intro _
    exact Gives.pure (by simp [Term.optionExprs])
  · intro _
    exact Gives.pure (by simp [Field.exprsList])
  · intro name category value rest ihv ih wf
    refine (ihv (wf (.mk name category value) (by simp))).bind fun code shown =>
      (ih fun f hf => wf f (by simp [hf])).bind fun more shown' => Gives.pure ?_
    simp [Field.exprsList, apply_ite Code.exprs, shown, shown']
  · intro scope _
    exact Gives.pure (by simp [Node.exprsList])
  · intro scope rest t ih wf
    exact (Gives.pure (q := fun c : Code => c.exprs = []) rfl).bind fun code text =>
      (ih fun n hn => wf n (by simp [hn])).bind fun more shown =>
        Gives.pure (by simp [Node.exprsList, Node.exprs, text, shown])
  · intro scope n rest notText ih ihn wf
    simp only [emitComponentChildren]
    exact (hoisted_gives scope .site (wf n (by simp)) fun nest => ihn nest (wf n (by simp))).bind
      fun code shows => (ih fun m hm => wf m (by simp [hm])).bind fun more shown =>
        Gives.pure (by simp [Node.exprsList, shows.1, shown])
  · intro scope nesting _
    exact Gives.pure (by simp [Node.exprsList])
  · intro scope nesting n rest ihn ih wf
    exact (hoisted_gives scope nesting (wf n (by simp)) fun nest => ihn nest (wf n (by simp))).bind
      fun code shows => (ih fun m hm => wf m (by simp [hm])).bind fun more shown =>
        Gives.pure (by simp [Node.exprsList, shows.1, shown])

/-! ### Expressions over a step -/

/-- No expression is duplicated or lost: the code of a successful step shows exactly the
expressions its classified tree holds where the emitter reads them, each once and in the order
the code prints them, inline or as a value a template call passes, with the markup nested in an
expression shown inside it; and the blueprints the step allocates show none. -/
theorem expressions_emitted_once (t : Tree) (scope : Scope) (s : Context) (idle : s.params = none)
    (sound : s.Sound) :
    ∀ c s', (Compile.tree t scope).run s = .ok c s' →
      ∃ n, classify t = .ok n ∧ c.exprs = n.exprs ∧
        ∃ added, s'.blueprints = s.blueprints ++ added ∧ ∀ b ∈ added, b.skeleton.exprs = [] := by
  intro c s' run
  have grows := (tree_grows t scope).run s
  rw [run, final_ok] at grows
  obtain ⟨added, table⟩ := grows.earlier
  simp only [Compile.tree, EStateM.run_bind, run_ofExcept] at run
  cases classified : classify t with
  | error e => rw [classified] at run; cases run
  | ok n =>
    rw [classified] at run
    have wf := classify_wellFormed.1 t n classified
    obtain ⟨-, soundAfter, shows⟩ :=
      rooted_gives scope wf (fun nest => emit_shows.1 scope nest n wf) s c s' idle sound run
    refine ⟨n, rfl, shows.1, added, table.symm, fun b hb => soundAfter.exprs_skeleton ?_⟩
    rw [← table]
    exact List.mem_append_right _ hb

theorem expressions_emitted_once_template :
    let t := Tree.element "li" false [.named (.plain "className") (.code "c") ⟨1, 5⟩]
      [.slot (.code "y")] ⟨1, 1⟩
    let s := Context.ofOptions { optimizeStaticVNodes := true }
    s.params = none ∧ s.Sound ∧ ∃ c s', (Compile.tree t .function).run s = .ok c s' ∧
      s'.blueprints.map Blueprint.slotCount = [2] ∧ c.exprs.length = 2 ∧
      ∃ n, classify t = .ok n ∧ c.exprs = n.exprs ∧
        ∃ added, s'.blueprints = s.blueprints ++ added ∧ ∀ b ∈ added, b.skeleton.exprs = [] := by
  intro t s
  have sound : s.Sound := ⟨[], rfl, by simp⟩
  have ran : ((Compile.tree t .function).run' s).isSome = true := by decide +kernel
  have allocated : (final ((Compile.tree t .function).run s)).blueprints.map Blueprint.slotCount =
      [2] := by decide +kernel
  have passed : ((Compile.tree t .function).run' s).map (·.exprs.length) = some 2 := by
    decide +kernel
  obtain ⟨c, s', run⟩ := run_ok_of_isSome ran
  rw [run, final_ok] at allocated
  delta EStateM.run' at passed
  rw [run] at passed
  exact ⟨rfl, sound, c, s', run, allocated, Option.some.inj passed,
    expressions_emitted_once t .function s rfl sound c s' run⟩

end Compile

end JsxVNode
