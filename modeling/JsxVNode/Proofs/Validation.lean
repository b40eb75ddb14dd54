import JsxVNode.Proofs.Splicing
import JsxVNode.Proofs.Reuse
/-!
Where markup is validated. Classifying a tree checks its attributes and those of the markup below
it in the tree, and keeps the outcome of classifying markup nested in an expression, failure
included, inside the node. Compiling the node raises such a failure only where the emitter reads
the expression that holds it: an attribute value the classifier replaced or ignored is never
read, and the markup in it never checked.

`Node.faults` lists the failures a node holds where the emitter reads it. Every run of the
emitter fails with one of them, and succeeds exactly when there are none; a file transform
fails exactly when the tree of some site has one.
-/
namespace JsxVNode

mutual
def Term.faults : Term → List CompileError
  | .literal _ => []
  | .expr pieces => Piece.faults pieces

def Term.optionFaults : Option Term → List CompileError
  | some t => Term.faults t
  | none => []

def Piece.faults : List Piece → List CompileError
  | [] => []
  | .source _ :: rest => Piece.faults rest
  | .tree (.ok n) _ :: rest => Node.faults n ++ Piece.faults rest
  | .tree (.error e) _ :: rest => e :: Piece.faults rest

def Field.faultsList : List Field → List CompileError
  | [] => []
  | .mk _ _ value :: rest => Term.faults value ++ Field.faultsList rest

def ChildFlagValue.faults : ChildFlagValue → List CompileError
  | .known _ => []
  | .dynamic value => Term.faults value

def Node.faults : Node → List CompileError
  | .element _ _ cls fields key ref children cf normC _ _ _ =>
    if normC then
      Term.optionFaults cls ++ Field.faultsList fields ++ Term.optionFaults key ++
        Term.optionFaults ref ++ Node.faultsList children
    else
      Term.optionFaults cls ++ Node.faultsList children ++ ChildFlagValue.faults cf ++
        Field.faultsList fields ++ Term.optionFaults key ++ Term.optionFaults ref
  | .component _ _ fields key ref hooks children _ =>
    Field.faultsList fields ++ Node.faultsList children ++ Term.optionFaults key ++
      Term.optionFaults ref ++ Field.faultsList hooks
  | .fragment key children cf _ _ _ =>
    Node.faultsList children ++ (if children.isEmpty then [] else ChildFlagValue.faults cf) ++
      Term.optionFaults key
  | .text _ => []
  | .slot value => Term.faults value

def Node.faultsList : List Node → List CompileError
  | [] => []
  | n :: rest => Node.faults n ++ Node.faultsList rest
end

def Tree.faults (t : Tree) : List CompileError :=
  match classify t with
  | .error e => [e]
  | .ok n => n.faults

namespace Compile

def Raises {α : Type} (faults : List CompileError) (x : Compile α) : Prop :=
  ∀ s, match x.run s with
    | .ok _ _ => faults = []
    | .error e _ => e ∈ faults

section Raises
variable {α β : Type} {F G : List CompileError}

theorem Raises.pure (a : α) : Raises [] (Pure.pure a : Compile α) := fun _ => rfl

theorem Raises.throw (e : CompileError) : Raises [e] (throw e : Compile α) :=
  fun _ => List.mem_singleton_self e

theorem Raises.throw_of_mem {e : CompileError} (mem : e ∈ F) :
    Raises F (MonadExcept.throw e : Compile α) :=
  fun _ => mem

theorem Raises.of_ok {x : Compile α} (ok : ∀ s, ∃ a s', x.run s = .ok a s') : Raises [] x := by
  intro s
  obtain ⟨a, s', run⟩ := ok s
  rw [run]

theorem Raises.congr {x : Compile α} (hx : Raises F x) (same : ∀ e, e ∈ F ↔ e ∈ G) :
    Raises G x := by
  intro s
  have raised := hx s
  split at raised
  · exact List.eq_nil_iff_forall_not_mem.mpr fun e mem =>
      List.eq_nil_iff_forall_not_mem.mp raised e ((same e).mpr mem)
  · exact (same _).mp raised

theorem Raises.bind_of {x : Compile α} {f : α → Compile β} {p : α → Prop} (hx : Raises F x)
    (post : ∀ s a s', x.run s = .ok a s' → p a) (hf : ∀ a, p a → Raises G (f a)) :
    Raises (F ++ G) (x >>= f) := by
  intro s
  have first := hx s
  simp only [EStateM.run_bind]
  cases run : x.run s with
  | error e s' =>
    rw [run] at first
    exact List.mem_append_left G first
  | ok a s' =>
    rw [run] at first
    have next := hf a (post s a s' run) s'
    subst first
    exact next

theorem Raises.bind {x : Compile α} {f : α → Compile β} (hx : Raises F x)
    (hf : ∀ a, Raises G (f a)) : Raises (F ++ G) (x >>= f) :=
  hx.bind_of (fun _ _ _ _ => (trivial : True)) fun a _ => hf a

theorem Raises.ite {c : Prop} [Decidable c] {x y : Compile α} (hx : Raises F x)
    (hy : Raises F y) : Raises F (if c then x else y) := by
  split
  · exact hx
  · exact hy

theorem useHelper_raises (h : Helper) : Raises [] (useHelper h) :=
  Raises.of_ok fun s => ⟨_, _, run_useHelper h s⟩

theorem options_raises : Raises [] options :=
  Raises.of_ok fun s => ⟨_, _, run_options s⟩

theorem bindParam_raises (code : Code) : Raises [] (bindParam code) := by
  refine Raises.of_ok fun s => ?_
  rw [run_bindParam]
  split <;> exact ⟨_, _, rfl⟩

theorem suspended_raises {x : Compile α} (hx : Raises F x) : Raises F (suspended x) := by
  intro s
  have inner := hx { s with params := none }
  rw [run_suspended]
  cases run : x.run { s with params := none } with
  | ok a s' => rw [run] at inner; exact inner
  | error e s' => rw [run] at inner; exact inner

theorem wrapIf_raises (cond : Bool) (h : Helper) (call : Code) : Raises [] (wrapIf cond h call) := by
  unfold wrapIf
  exact Raises.ite (((useHelper_raises h).bind fun _ => Raises.pure _).congr (by simp))
    (Raises.pure _)

theorem cachedSite_raises (sig : Signature) {build : Compile Code} (hb : Raises F build)
    (runs : ∃ s a s', build.run s = .ok a s') : Raises F (cachedSite sig build) := by
  have clean : F = [] := by
    obtain ⟨s, a, s', run⟩ := runs
    have built := hb s
    rwa [run] at built
  intro s
  have built := hb s
  rw [run_cachedSite]
  cases s.lookup sig with
  | some b => exact clean
  | none =>
    cases run : build.run s with
    | error e s' => rw [run] at built; exact built
    | ok skeleton s' =>
      dsimp only
      cases s'.lookup sig <;> exact clean

theorem templateSite_raises (sig : Signature) {build : Compile Code} (hb : Raises F build) :
    Raises F (templateSite sig build) := by
  intro s
  have built := hb { s with params := some [] }
  rw [run_templateSite]
  cases run : build.run { s with params := some [] } with
  | error e s' => rw [run] at built; exact built
  | ok body s' =>
    rw [run] at built
    dsimp only at built ⊢
    cases Context.lookup { s' with params := s.params } sig <;> exact built

theorem childrenArg_raises (nodes : List Node) (cf : ChildFlagValue) (collapse : Bool)
    {items : Compile (List Code)} (hi : Raises (Node.faultsList nodes) items) :
    Raises (Node.faultsList nodes) (childrenArg nodes cf collapse items) := by
  have sequenced : ∀ g : List Code → Option Code,
      Raises (Node.faultsList nodes) (items >>= fun codes => Pure.pure (g codes)) :=
    fun _ => (hi.bind fun _ => Raises.pure _).congr (by simp)
  unfold childrenArg
  split
  · exact Raises.pure _
  · exact Raises.ite (Raises.pure _) (sequenced _)
  · exact sequenced _
  · exact sequenced _

theorem childrenArg_isNone (nodes : List Node) (cf : ChildFlagValue) (collapse : Bool)
    (items : Compile (List Code)) :
    ∀ s a s', (childrenArg nodes cf collapse items).run s = .ok a s' → a.isNone = nodes.isEmpty := by
  intro s a s' run
  unfold childrenArg at run
  split at run
  · cases run
    rfl
  · split at run
    · cases run
      rfl
    · simp only [EStateM.run_bind] at run
      split at run <;> cases run
      rfl
  · simp only [EStateM.run_bind] at run
    split at run <;> cases run
    rfl
  · simp only [EStateM.run_bind] at run
    split at run <;> cases run
    cases nodes <;> simp_all

end Raises

/-! ### Every emission raises the failures its node holds -/

theorem hoisted_raises (scope : Scope) (nesting : Nesting) {n : Node} (wf : n.wellFormed = true)
    (direct : ∀ nest, Raises n.faults (emitDirect scope nest n)) :
    Raises n.faults (hoisted scope nesting n fun nest => emitDirect scope nest n) := by
  refine (options_raises.bind fun o => (?_ : Raises n.faults _)).congr (by simp)
  dsimp only
  split
  · rename_i sig hsig
    split
    · split
      · rename_i static
        obtain ⟨U, hU⟩ := @skeleton_records o scope n sig .param wf
          (Node.signature_of_hoistSignature hsig) static
        exact cachedSite_raises sig (direct .skeleton) ⟨_, _, _, hU (Context.ofOptions o) rfl⟩
      · exact Raises.ite (templateSite_raises sig (direct .template)) (direct nesting)
    · exact direct nesting
  · exact direct nesting

theorem rooted_raises (scope : Scope) {n : Node} (wf : n.wellFormed = true)
    (direct : ∀ nest, Raises n.faults (emitDirect scope nest n)) :
    Raises n.faults (rooted scope n fun nest => emitDirect scope nest n) := by
  refine (options_raises.bind fun _ => (hoisted_raises scope .site wf direct).bind fun _ =>
    Raises.pure _).congr ?_
  simp

theorem Term.faults_of_isNullish {v : Term} (nullish : v.isNullish = true) : v.faults = [] := by
  cases v with
  | literal => rfl
  | expr => simp [Term.isNullish] at nullish

/-- Every emission of a well-formed node fails with a failure the node holds where the emitter
reads it, and succeeds exactly when it holds none. The induction follows the emitter's own
recursion, one `Raises.bind` per statement of each `do` block. -/
theorem emit_raises :
    (∀ scope nesting n, n.wellFormed = true → Raises n.faults (emitDirect scope nesting n)) ∧
    (∀ v, v.wellFormed = true → Raises v.faults (emitParam v)) ∧
    (∀ pieces, Piece.allWellFormed pieces = true →
      Raises (Piece.faults pieces) (emitPieces pieces)) ∧
    (∀ scope nodes, (∀ n ∈ nodes, n.wellFormed = true) →
      Raises (Node.faultsList nodes) (emitComponentChildren scope nodes)) ∧
    (∀ cf, cf.wellFormed = true → Raises cf.faults (emitChildFlags cf)) ∧
    (∀ scope nesting nodes, (∀ n ∈ nodes, n.wellFormed = true) →
      Raises (Node.faultsList nodes) (emitNodes scope nesting nodes)) ∧
    (∀ fields, (∀ f ∈ fields, f.value.wellFormed = true) →
      Raises (Field.faultsList fields) (emitFieldEntries fields)) ∧
    (∀ v, v.wellFormed = true → Raises v.faults (emitValue v)) ∧
    (∀ o, (∀ t ∈ o, t.wellFormed = true) → Raises (Term.optionFaults o) (emitOptional o)) := by
  refine emitDirect.mutual_induct
    (fun scope nesting n => n.wellFormed = true → Raises n.faults (emitDirect scope nesting n))
    (fun v => v.wellFormed = true → Raises v.faults (emitParam v))
    (fun pieces => Piece.allWellFormed pieces = true →
      Raises (Piece.faults pieces) (emitPieces pieces))
    (fun scope nodes => (∀ n ∈ nodes, n.wellFormed = true) →
      Raises (Node.faultsList nodes) (emitComponentChildren scope nodes))
    (fun cf => cf.wellFormed = true → Raises cf.faults (emitChildFlags cf))
    (fun scope nesting nodes => (∀ n ∈ nodes, n.wellFormed = true) →
      Raises (Node.faultsList nodes) (emitNodes scope nesting nodes))
    (fun fields => (∀ f ∈ fields, f.value.wellFormed = true) →
      Raises (Field.faultsList fields) (emitFieldEntries fields))
    (fun v => v.wellFormed = true → Raises v.faults (emitValue v))
    (fun o => (∀ t ∈ o, t.wellFormed = true) → Raises (Term.optionFaults o) (emitOptional o))
    ?_ ?_ ?_ ?_ ?_ ?_ ?_ ?_ ?_ ?_ ?_ ?_ ?_ ?_ ?_ ?_ ?_ ?_ ?_ ?_ ?_ ?_ ?_ ?_ ?_
  · intro l _
    exact bindParam_raises _
  · intro pieces ih wf
    exact ((suspended_raises (ih (by simpa [Term.wellFormed] using wf))).bind fun _ =>
      bindParam_raises _).congr (by simp [Term.faults])
  · intro l _
    exact Raises.pure _
  · intro pieces ih wf
    exact ((suspended_raises (ih (by simpa [Term.wellFormed] using wf))).bind fun _ =>
      bindParam_raises _).congr (by simp [Term.faults])
  · intro f _
    exact Raises.pure _
  · intro v ih wf
    exact ((ih (by simpa [ChildFlagValue.wellFormed] using wf)).bind fun _ =>
      Raises.pure _).congr (by simp [ChildFlagValue.faults])
  · intro scope nesting tag flags cls fields key ref children cf normC collapse normP sig
      hcls hfields hkey href hchildren hcf wf
    obtain ⟨-, -, -, wcls, wfields, wkey, wref, wchildren, wcf⟩ := Node.wellFormed_element_iff.mp wf
    cases normC <;> simp only [emitDirect, Bool.false_eq_true, if_false, if_true]
    · refine ((useHelper_raises _).bind fun _ => (hcls wcls).bind fun _ =>
        (childrenArg_raises _ _ _ (hchildren wchildren)).bind fun _ =>
        (hcf wcf).bind fun _ => (hfields wfields).bind fun _ => (hkey wkey).bind fun _ =>
        (href wref).bind fun _ => options_raises.bind fun _ => (Raises.pure _).bind fun _ =>
        wrapIf_raises _ _ _).congr ?_
      simp [Node.faults]
    · refine ((useHelper_raises _).bind fun _ => (hcls wcls).bind fun _ =>
        (Raises.pure _).bind fun _ => (Raises.pure _).bind fun _ =>
        (hfields wfields).bind fun _ => (hkey wkey).bind fun _ => (href wref).bind fun _ =>
        options_raises.bind fun _ => (hchildren wchildren).bind fun _ =>
        (useHelper_raises _).bind fun _ => (Raises.pure _).bind fun _ =>
        wrapIf_raises _ _ _).congr ?_
      simp [Node.faults]
  · intro scope nesting tag flags fields key ref hooks children normP hchildren hfields hkey href
      hhooks wf
    obtain ⟨single, wfields, wkey, wref, whooks, wchildren⟩ := Node.wellFormed_component_iff.mp wf
    refine ((useHelper_raises _).bind fun _ => (hchildren wchildren).bind fun _ =>
      (hfields wfields).bind fun _ => (hkey wkey).bind fun _ =>
      (?_ : Raises (Term.optionFaults ref ++ Field.faultsList hooks) _)).congr ?_
    · dsimp only
      split
      · rename_i noHooks
        have empty : hooks = [] := List.isEmpty_iff.mp noHooks
        subst empty
        exact ((href wref).bind fun _ => options_raises.bind fun _ =>
          wrapIf_raises _ _ _).congr (by simp [Field.faultsList])
      · rename_i hooked
        have absent : ref = none := by simpa [hooked] using single
        subst absent
        exact ((hhooks whooks).bind fun _ => (Raises.pure _).bind fun _ =>
          options_raises.bind fun _ => wrapIf_raises _ _ _).congr (by simp [Term.optionFaults])
    · simp [Node.faults]
      tauto
  · intro scope nesting key children cf normC collapse sig hchildren hkey hcf wf
    obtain ⟨-, -, wkey, wchildren, wcf⟩ := Node.wellFormed_fragment_iff.mp wf
    refine ((useHelper_raises _).bind fun _ =>
      ((childrenArg_raises _ _ _ (hchildren wchildren)).bind_of
        (childrenArg_isNone children cf collapse _) fun chArg absent =>
        (?_ : Raises ((if children.isEmpty then [] else cf.faults) ++ Term.optionFaults key) _))).congr
        (by simp [Node.faults])
    dsimp only
    by_cases none : chArg.isNone = true
    · have empty : children.isEmpty = true := absent ▸ none
      rw [if_pos none, if_pos empty]
      refine ((Raises.pure _).bind fun _ => (hkey wkey).bind fun _ => options_raises.bind fun _ =>
        Raises.pure _).congr ?_
      simp
    · have nonempty : children.isEmpty = false := by simpa [absent] using none
      rw [if_neg none, if_neg (by simp [nonempty])]
      refine ((hcf wcf).bind fun _ => (hkey wkey).bind fun _ => options_raises.bind fun _ =>
        Raises.pure _).congr ?_
      simp
  · intro scope nesting value _
    exact ((useHelper_raises _).bind fun _ => Raises.pure _).congr (by simp [Node.faults])
  · intro scope nesting v ih wf
    exact (ih (by simpa [Node.wellFormed] using wf)).congr (by simp [Node.faults])
  · intro _
    exact Raises.pure _
  · intro code rest ih wf
    exact ((ih (by simpa [Piece.allWellFormed] using wf)).bind fun _ => Raises.pure _).congr
      (by simp [Piece.faults])
  · intro e scope tail _
    exact Raises.throw_of_mem (by simp [Piece.faults])
  · intro n scope rest ihn ih wf
    simp only [Piece.allWellFormed, Bool.and_eq_true] at wf
    exact ((rooted_raises scope wf.1 fun nest => ihn nest wf.1).bind fun _ =>
      (ih wf.2).bind fun _ => Raises.pure _).congr (by simp [Piece.faults])
  · intro v nullish _
    simp only [emitOptional, nullish, if_true]
    exact (Raises.pure _).congr (by simp [Term.optionFaults, Term.faults_of_isNullish nullish])
  · intro v present ih wf
    simp only [emitOptional, present]
    exact ((ih (wf v rfl)).bind fun _ => Raises.pure _).congr (by simp [Term.optionFaults])
  · intro _
    exact Raises.pure _
  · intro _
    exact Raises.pure _
  · intro name category value rest ihv ih wf
    exact ((ihv (wf (.mk name category value) (by simp))).bind fun _ =>
      (ih fun f hf => wf f (by simp [hf])).bind fun _ => Raises.pure _).congr
        (by simp [Field.faultsList])
  · intro scope _
    exact Raises.pure _
  · intro scope rest t ih wf
    exact ((Raises.pure _).bind fun _ => (ih fun n hn => wf n (by simp [hn])).bind fun _ =>
      Raises.pure _).congr (by simp [Node.faultsList, Node.faults])
  · intro scope n rest notText ih ihn wf
    simp only [emitComponentChildren]
    exact ((hoisted_raises scope .site (wf n (by simp)) fun nest => ihn nest (wf n (by simp))).bind
      fun _ => (ih fun m hm => wf m (by simp [hm])).bind fun _ => Raises.pure _).congr
        (by simp [Node.faultsList])
  · intro scope nesting _
    exact Raises.pure _
  · intro scope nesting n rest ihn ih wf
    exact ((hoisted_raises scope nesting (wf n (by simp)) fun nest => ihn nest (wf n (by simp))).bind
      fun _ => (ih fun m hm => wf m (by simp [hm])).bind fun _ => Raises.pure _).congr
        (by simp [Node.faultsList])

/-- Compiling a tree fails with the failure of classifying it or with one its node holds, and
succeeds exactly when it has none, from every state. -/
theorem tree_raises (t : Tree) (scope : Scope) : Raises t.faults (Compile.tree t scope) := by
  unfold Compile.tree Tree.faults
  cases classified : classify t with
  | error e =>
    intro s
    simp only [EStateM.run_bind, run_ofExcept]
    exact List.mem_singleton_self e
  | ok n =>
    have wf := classify_wellFormed.1 t n classified
    simp only [ofExcept, pure_bind, Compile.node]
    exact rooted_raises scope wf fun nest => emit_raises.1 scope nest n wf

theorem sites_raises (sites : List Source.Site) :
    Raises (sites.flatMap (·.tree.faults))
      (sites.mapM fun site => Compile.tree site.tree site.scope) := by
  induction sites with
  | nil => exact Raises.pure _
  | cons site rest ih =>
    rw [List.mapM_cons]
    refine ((tree_raises site.tree site.scope).bind fun _ => ih.bind fun _ => Raises.pure _).congr ?_
    simp

end Compile

open Source

/-- A file transform fails exactly when the tree of some site holds a failure where the compiled
code reads it: the failure of classifying the tree itself, the markup below it and markup that
stands alone in an expression child, or that of markup nested in an expression the code keeps.
It then fails with one of those, its file set. Markup held only in an attribute value that the
classifier replaces or ignores is never checked. -/
theorem transform_fails_exactly_on_read_faults (source file : String) (o : Options)
    (parsed : Parsed) (parses : parse source file = .ok parsed) :
    ((∀ out, transform source file o ≠ .ok out) ↔ ∃ site ∈ parsed.sites, site.tree.faults ≠ []) ∧
      ∀ e, transform source file o = .error e →
        ∃ site ∈ parsed.sites, ∃ fault ∈ site.tree.faults, e = fault.inFile file := by
  by_cases empty : parsed.sites = []
  · rw [transform_without_sites parses empty, empty]
    simp
  · have raised := Compile.sites_raises parsed.sites ((Context.ofOptions o).bind parsed.imports)
    cases run : (parsed.sites.mapM fun site => Compile.tree site.tree site.scope).run
        ((Context.ofOptions o).bind parsed.imports) with
    | error e s' =>
      rw [run] at raised
      -- the first failing site's failure is the transform's
      obtain ⟨site, mem, held⟩ := List.mem_flatMap.mp raised
      rw [transform_of_failure parses empty run]
      refine ⟨⟨fun _ => ⟨site, mem, List.ne_nil_of_mem held⟩, fun _ out => ?_⟩, fun e' failed => ?_⟩
      · exact fun compiled => by cases compiled
      · cases failed
        exact ⟨site, mem, e, held, rfl⟩
    | ok codes final =>
      rw [run] at raised
      have clean : ∀ site ∈ parsed.sites, site.tree.faults = [] :=
        List.flatMap_eq_nil_iff.mp raised
      rw [transform_of_success parses empty run]
      refine ⟨⟨fun refused => absurd rfl (refused _), fun ⟨site, mem, held⟩ => ?_⟩,
        fun e failed => ?_⟩
      · exact absurd (clean site mem) held
      · cases failed

theorem transform_fails_exactly_on_read_faults_replaced :
    ∃ parsed, parse "const a = <div className=\x7b<b noNormalize/>\x7d className=\"x\"/>;"
        "input.jsx" = .ok parsed ∧
      (((∀ out, transform "const a = <div className=\x7b<b noNormalize/>\x7d className=\"x\"/>;"
          "input.jsx" {} ≠ .ok out) ↔ ∃ site ∈ parsed.sites, site.tree.faults ≠ []) ∧
        ∀ e, transform "const a = <div className=\x7b<b noNormalize/>\x7d className=\"x\"/>;"
            "input.jsx" {} = .error e →
          ∃ site ∈ parsed.sites, ∃ fault ∈ site.tree.faults, e = fault.inFile "input.jsx") := by
  have read : (match parse "const a = <div className=\x7b<b noNormalize/>\x7d className=\"x\"/>;"
      "input.jsx" with
      | .ok _ => true
      | .error _ => false) = true := by
    decide +kernel
  split at read
  · rename_i parsed parses
    exact ⟨parsed, parses, transform_fails_exactly_on_read_faults _ _ _ parsed parses⟩
  · cases read

/-- A retired attribute name fails the transform of an element that carries it, but not once the
element is the value of a class name that a later class name replaces. -/
theorem retired_name_in_replaced_class_is_accepted :
    (∃ e, transform "const a = <b noNormalize/>;" "input.jsx" {} = .error e ∧
      e.fault.code = "VNC-DEPRECATED-ATTRIBUTE") ∧
    ∃ out, transform "const a = <div className=\x7b<b noNormalize/>\x7d className=\"x\"/>;"
      "input.jsx" {} = .ok out := by
  have alone :
      ((transform "const a = <b noNormalize/>;" "input.jsx" {} |>.map fun _ => none).tryCatch
        fun e => .ok (some e.fault.code)).toOption = some (some "VNC-DEPRECATED-ATTRIBUTE") := by
    decide +kernel
  have nested : (transform "const a = <div className=\x7b<b noNormalize/>\x7d className=\"x\"/>;"
      "input.jsx" {}).toBool = true := by
    decide +kernel
  constructor
  · cases failed : transform "const a = <b noNormalize/>;" "input.jsx" {} with
    | error e =>
      rw [failed] at alone
      exact ⟨e, rfl, Option.some.inj (Option.some.inj alone)⟩
    | ok out =>
      rw [failed] at alone
      cases alone
  · cases compiled : transform "const a = <div className=\x7b<b noNormalize/>\x7d className=\"x\"/>;"
        "input.jsx" {} with
    | ok out => exact ⟨out, rfl⟩
    | error e =>
      rw [compiled] at nested
      cases nested

end JsxVNode
