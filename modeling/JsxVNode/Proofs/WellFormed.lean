import JsxVNode.Node.Classify
import Mathlib.Tactic.SplitIfs
/-!
What classifying guarantees of the nodes it builds, and what compiling them relies on. An
element or fragment carries the signature of its own parts (an element whose props need
normalising, or one with a component below it, has none); an element's children are normalised
by the runtime exactly when its child flags are "unknown", and a lone text is passed as a string
exactly when the flags ask for text; a component never has both a ref and lifecycle hooks. The
conditions hold at every depth, also in the markup nested in expressions.
-/
namespace JsxVNode

def loneText : List Node → Bool
  | [.text _] => true
  | _ => false

def elementSignature (tag : String) (flags : Nat) (cls : Option Term) (fields : List Field)
    (key ref : Option Term) (children : List Node) (cf : ChildFlagValue) (normP : Bool) :
    Option Signature :=
  if normP then none
  else (children.mapM Node.signature?).map fun sigs =>
    .element tag flags (cls.map Term.shape) (fields.map Field.shape) (key.map Term.shape)
      (ref.map Term.shape) cf.known? sigs

def fragmentSignature (key : Option Term) (children : List Node) (cf : ChildFlagValue) :
    Option Signature :=
  (children.mapM Node.signature?).map fun sigs =>
    .fragment (key.map Term.shape) (if sigs.isEmpty then some ChildFlags.none else cf.known?) sigs

def collapses (cf : ChildFlagValue) (children : List Node) : Bool :=
  cf.known? == some ChildFlags.text && loneText children

mutual
def Node.wellFormed : Node → Bool
  | .element tag flags cls fields key ref children cf normC collapse normP sig =>
    sig == elementSignature tag flags cls fields key ref children cf normP &&
      normC == (cf.known? == some ChildFlags.unknown) && collapse == collapses cf children &&
      Term.optionWellFormed cls && Field.allWellFormed fields && Term.optionWellFormed key &&
      Term.optionWellFormed ref && Node.allWellFormed children && ChildFlagValue.wellFormed cf
  | .component _ _ fields key ref hooks children _ =>
    (hooks.isEmpty || ref.isNone) && Field.allWellFormed fields && Term.optionWellFormed key &&
      Term.optionWellFormed ref && Field.allWellFormed hooks && Node.allWellFormed children
  | .fragment key children cf _ collapse sig =>
    sig == fragmentSignature key children cf && collapse == collapses cf children &&
      Term.optionWellFormed key && Node.allWellFormed children && ChildFlagValue.wellFormed cf
  | .text _ => true
  | .slot value => Term.wellFormed value

def Node.allWellFormed : List Node → Bool
  | [] => true
  | n :: rest => Node.wellFormed n && Node.allWellFormed rest

def Term.wellFormed : Term → Bool
  | .literal _ => true
  | .expr pieces => Piece.allWellFormed pieces

def Term.optionWellFormed : Option Term → Bool
  | some t => Term.wellFormed t
  | none => true

def Piece.allWellFormed : List Piece → Bool
  | [] => true
  | .source _ :: rest => Piece.allWellFormed rest
  | .tree (.ok n) _ :: rest => Node.wellFormed n && Piece.allWellFormed rest
  | .tree (.error _) _ :: rest => Piece.allWellFormed rest

def Field.allWellFormed : List Field → Bool
  | [] => true
  | .mk _ _ value :: rest => Term.wellFormed value && Field.allWellFormed rest

def ChildFlagValue.wellFormed : ChildFlagValue → Bool
  | .known _ => true
  | .dynamic value => Term.wellFormed value
end

@[simp] theorem Node.allWellFormed_iff (nodes : List Node) :
    Node.allWellFormed nodes = true ↔ ∀ n ∈ nodes, n.wellFormed = true := by
  induction nodes with
  | nil => simp [Node.allWellFormed]
  | cons n rest ih => simp [Node.allWellFormed, ih]

@[simp] theorem Field.allWellFormed_iff (fields : List Field) :
    Field.allWellFormed fields = true ↔ ∀ f ∈ fields, f.value.wellFormed = true := by
  induction fields with
  | nil => simp [Field.allWellFormed]
  | cons f rest ih => cases f; simp [Field.allWellFormed, Field.value, ih]

@[simp] theorem Term.optionWellFormed_iff (o : Option Term) :
    Term.optionWellFormed o = true ↔ ∀ t ∈ o, t.wellFormed = true := by
  cases o <;> simp [Term.optionWellFormed]

@[simp] theorem Node.wellFormed_element_iff {tag : String} {flags : Nat} {cls : Option Term}
    {fields : List Field} {key ref : Option Term} {children : List Node} {cf : ChildFlagValue}
    {normC collapse normP : Bool} {sig : Option Signature} :
    (Node.element tag flags cls fields key ref children cf normC collapse normP sig).wellFormed =
        true ↔
      sig = elementSignature tag flags cls fields key ref children cf normP ∧
        normC = (cf.known? == some ChildFlags.unknown) ∧ collapse = collapses cf children ∧
        (∀ t ∈ cls, t.wellFormed = true) ∧ (∀ f ∈ fields, f.value.wellFormed = true) ∧
        (∀ t ∈ key, t.wellFormed = true) ∧ (∀ t ∈ ref, t.wellFormed = true) ∧
        (∀ n ∈ children, n.wellFormed = true) ∧ cf.wellFormed = true := by
  simp [Node.wellFormed, and_assoc]

@[simp] theorem Node.wellFormed_fragment_iff {key : Option Term} {children : List Node}
    {cf : ChildFlagValue} {normC collapse : Bool} {sig : Option Signature} :
    (Node.fragment key children cf normC collapse sig).wellFormed = true ↔
      sig = fragmentSignature key children cf ∧ collapse = collapses cf children ∧
        (∀ t ∈ key, t.wellFormed = true) ∧ (∀ n ∈ children, n.wellFormed = true) ∧
        cf.wellFormed = true := by
  simp [Node.wellFormed, and_assoc]

theorem Node.wellFormed_component_iff {tag : String} {flags : Nat} {fields : List Field}
    {key ref : Option Term} {hooks : List Field} {children : List Node} {normP : Bool} :
    (Node.component tag flags fields key ref hooks children normP).wellFormed = true ↔
      (hooks.isEmpty || ref.isNone) = true ∧ (∀ f ∈ fields, f.value.wellFormed = true) ∧
        (∀ t ∈ key, t.wellFormed = true) ∧ (∀ t ∈ ref, t.wellFormed = true) ∧
        (∀ f ∈ hooks, f.value.wellFormed = true) ∧ (∀ n ∈ children, n.wellFormed = true) := by
  simp only [Node.wellFormed, Bool.and_eq_true, Field.allWellFormed_iff,
    Term.optionWellFormed_iff, Node.allWellFormed_iff, and_assoc]

@[simp] theorem Field.value_mk (name : String) (category : Category) (value : Term) :
    (Field.mk name category value).value = value := rfl

/-! ### Sorting attributes -/

private theorem except_bind_ok {ε α β : Type} {x : Except ε α} {f : α → Except ε β} {b : β}
    (h : (x >>= f) = .ok b) : ∃ a, x = .ok a ∧ f a = .ok b := by
  cases x with
  | error e => cases h
  | ok a => exact ⟨a, rfl, h⟩

private theorem except_ok_bind {ε α β : Type} (a : α) (f : α → Except ε β) :
    (Except.ok a >>= f) = f a := rfl

def Attr.wellFormed : Attr → Bool
  | .named _ value _ => value.wellFormed
  | .spread argument _ => Piece.allWellFormed argument

/-- Directives as attributes set them: a `$Has…Children` directive never names "unknown". -/
structure Directives.WellFormed (d : Directives) : Prop where
  explicit : d.explicit ≠ some ChildFlags.unknown
  childFlag : Term.optionWellFormed d.childFlag = true

/-- Sorted attributes whose terms are well formed. -/
structure Partition.WellFormed (p : Partition) : Prop where
  className : Term.optionWellFormed p.className = true
  key : Term.optionWellFormed p.key = true
  ref : Term.optionWellFormed p.ref = true
  hooks : Field.allWellFormed p.hooks = true
  fields : Field.allWellFormed p.fields = true
  childrenProp : Term.optionWellFormed p.childrenProp = true
  directives : p.directives.WellFormed

theorem ChildFlags.ofDirective_ne_unknown {name : String} {flags : Nat}
    (h : ChildFlags.ofDirective name = some flags) : flags ≠ ChildFlags.unknown := by
  unfold ChildFlags.ofDirective at h
  split_ifs at h <;> cases h <;> decide

theorem Directives.WellFormed.route {d d' : Directives} {name : String} {value : Term}
    (hd : d.WellFormed) (hv : value.wellFormed = true) (h : d.route name value = some d') :
    d'.WellFormed := by
  unfold Directives.route at h
  split at h
  · cases h
    exact ⟨by simpa using ChildFlags.ofDirective_ne_unknown ‹_›, hd.childFlag⟩
  · split_ifs at h <;> cases h
    · exact ⟨hd.explicit, by simpa using hv⟩
    · exact ⟨hd.explicit, hd.childFlag⟩

theorem Partition.WellFormed.addNamed {p : Partition} (hp : p.WellFormed) (isComponent : Bool)
    (name : String) {value : Term} (hv : value.wellFormed = true) :
    (p.addNamed isComponent name value).WellFormed := by
  have append : ∀ {fs : List Field} (n : String) (c : Category), Field.allWellFormed fs = true →
      Field.allWellFormed (fs ++ [Field.mk n c value]) = true := by
    intro fs n c h
    simp only [Field.allWellFormed_iff] at h ⊢
    simpa [or_imp, forall_and, hv] using h
  unfold Partition.addNamed
  by_cases key : (name == "key") = true
  · rw [if_pos key]; exact { hp with key := hv }
  rw [if_neg key]
  by_cases ref : (name == "ref") = true
  · rw [if_pos ref]; exact { hp with ref := hv }
  rw [if_neg ref]
  by_cases children : (name == "children" && !isComponent) = true
  · rw [if_pos children]; exact { hp with childrenProp := hv }
  rw [if_neg children]
  by_cases component : isComponent = true
  · rw [if_pos component]
    by_cases hook : Attribute.isHookName name = true
    · rw [if_pos hook]; exact { hp with hooks := append _ _ hp.hooks }
    · rw [if_neg hook]; exact { hp with fields := append _ _ hp.fields }
  rw [if_neg component]
  by_cases cls : (name == "className" || name == "class") = true
  · rw [if_pos cls]; exact { hp with className := hv }
  rw [if_neg cls]
  split
  · exact { hp with fields := append _ _ hp.fields }
  split
  · exact { hp with fields := append _ _ hp.fields }
  split
  · exact { hp with fields := append _ _ hp.fields }
  · exact { hp with fields := append _ _ hp.fields }

theorem Partition.WellFormed.add {p q : Partition} {isComponent : Bool} {a : Attr}
    (hp : p.WellFormed) (ha : a.wellFormed = true) (h : Partition.add isComponent p a = .ok q) :
    q.WellFormed := by
  cases a with
  | spread argument loc =>
    cases h
    have hf := hp.fields
    have hv : Piece.allWellFormed argument = true := ha
    simp only [Field.allWellFormed_iff] at hf
    exact { hp with fields := by simpa [or_imp, forall_and, Term.wellFormed, hv] using hf }
  | named rawName value loc =>
    have hv : value.wellFormed = true := ha
    obtain ⟨name, -, h⟩ := except_bind_ok h
    obtain ⟨u, -, h⟩ := except_bind_ok h
    split at h
    · rename_i d routed
      cases h
      split at routed
      · exact { hp with directives := hp.directives.route hv routed }
      · cases routed
    · cases h
      exact hp.addNamed isComponent name hv

theorem Partition.WellFormed.foldlM {isComponent : Bool} :
    ∀ {attrs : List Attr} {p q : Partition}, p.WellFormed → (∀ a ∈ attrs, a.wellFormed = true) →
      attrs.foldlM (Partition.add isComponent) p = .ok q → q.WellFormed
  | [], _, _, hp, _, h => by cases h; exact hp
  | a :: rest, _, _, hp, ha, h => by
    rw [List.foldlM_cons] at h
    obtain ⟨p', step, h⟩ := except_bind_ok h
    exact (hp.add (ha a (by simp)) step).foldlM (fun b hb => ha b (by simp [hb])) h

theorem Partition.ofAttrs_wellFormed {tag : String} {isComponent : Bool} {loc : Location}
    {attrs : List Attr} {p : Partition} (ha : ∀ a ∈ attrs, a.wellFormed = true)
    (h : Partition.ofAttrs tag isComponent loc attrs = .ok p) :
    p.WellFormed ∧ (isComponent = true → p.hooks.isEmpty ∨ p.ref.isNone) := by
  obtain ⟨p', sorted, h⟩ := except_bind_ok h
  have hp' : p'.WellFormed :=
    Partition.WellFormed.foldlM ⟨rfl, rfl, rfl, rfl, rfl, rfl, ⟨by simp, rfl⟩⟩ ha sorted
  split at h
  · cases h
  · cases h
    refine ⟨hp', fun hc => ?_⟩
    cases hr : p.ref <;> simp_all

theorem fragmentAttrs_wellFormed {attrs : List Attr} (ha : ∀ a ∈ attrs, a.wellFormed = true) :
    Term.optionWellFormed (fragmentAttrs attrs).1 = true ∧ (fragmentAttrs attrs).2.WellFormed := by
  unfold fragmentAttrs
  suffices ∀ (acc : Option Term × Directives), Term.optionWellFormed acc.1 = true →
      acc.2.WellFormed → Term.optionWellFormed (attrs.foldl _ acc).1 = true ∧
        (attrs.foldl _ acc).2.WellFormed from this _ rfl ⟨by simp, rfl⟩
  induction attrs with
  | nil => exact fun acc hk hd => ⟨hk, hd⟩
  | cons a rest ih =>
    intro ⟨key, d⟩ hk hd
    have hv := ha a (by simp)
    have next := ih fun b hb => ha b (by simp [hb])
    rw [List.foldl_cons]
    cases a with
    | spread => exact next _ hk hd
    | named name value loc =>
      cases name with
      | namespaced => exact next _ hk hd
      | plain name =>
        simp only [Attr.wellFormed] at hv
        dsimp only
        split_ifs
        · exact next _ (by simpa using hv) hd
        · refine next _ hk ?_
          cases route : d.route name value
          · exact hd
          · exact hd.route hv route
        · exact next _ hk hd

/-! ### How children are passed -/

section Layout
variable (nodes : List Node) {d : Directives}

theorem Layout.resolve_normalize (hd : d.explicit ≠ some ChildFlags.unknown) :
    (Layout.resolve nodes d).normalize =
      ((Layout.resolve nodes d).childFlags.known? == some ChildFlags.unknown) := by
  unfold Layout.resolve
  split
  · rfl
  · rename_i flags _ explicit
    simpa [ChildFlagValue.known?, explicit] using hd
  · split
    · rfl
    · dsimp only
      split_ifs <;> rfl

theorem Layout.resolve_collapse :
    (Layout.resolve nodes d).collapseText = collapses (Layout.resolve nodes d).childFlags nodes := by
  unfold Layout.resolve collapses
  split
  · rfl
  · cases nodes with
    | nil => simp [ChildFlagValue.known?, loneText]
    | cons n rest => cases n <;> cases rest <;> simp [ChildFlagValue.known?, loneText]
  · split
    · rfl
    · dsimp only
      split_ifs <;> rfl

theorem Layout.resolve_wellFormed (hd : d.WellFormed) :
    (Layout.resolve nodes d).childFlags.wellFormed = true := by
  have hc := hd.childFlag
  unfold Layout.resolve
  split
  · rename_i value flag
    simpa [flag, ChildFlagValue.wellFormed] using hc
  · rfl
  · split
    · rfl
    · dsimp only
      split <;> rfl

end Layout

/-! ### Classifying builds well-formed nodes -/

theorem Term.wellFormed_of_soleTree {v : Term} {n : Node} (h : v.soleTree? = some (.ok n))
    (hv : v.wellFormed = true) : n.wellFormed = true := by
  unfold Term.soleTree? at h
  split at h
  · cases h
    simpa [Term.wellFormed, Piece.allWellFormed] using hv
  · cases h

theorem childrenOfProp_wellFormed {v : Term} {nodes : List Node} (hv : v.wellFormed = true)
    (h : childrenOfProp v = .ok nodes) : ∀ n ∈ nodes, n.wellFormed = true := by
  unfold childrenOfProp at h
  split at h
  · rename_i r sole
    obtain ⟨n, rfl, h⟩ := except_bind_ok h
    cases h
    simpa using Term.wellFormed_of_soleTree sole hv
  · split at h <;> cases h <;> simp [Node.wellFormed, hv]

theorem classifyElement_wellFormed (tag : String) {p : Partition} {nodes : List Node}
    (hp : p.WellFormed) (hn : ∀ n ∈ nodes, n.wellFormed = true) :
    (classifyElement tag p nodes).wellFormed = true := by
  have := hp.className
  have := hp.key
  have := hp.ref
  have := hp.fields
  simp_all [classifyElement, Node.wellFormed, elementSignature,
    Layout.resolve_normalize nodes hp.directives.explicit, Layout.resolve_collapse,
    Layout.resolve_wellFormed nodes hp.directives]

theorem classifyComponent_wellFormed (tag : String) {p : Partition} {nodes : List Node}
    (hp : p.WellFormed) (apart : p.hooks.isEmpty ∨ p.ref.isNone)
    (hn : ∀ n ∈ nodes, n.wellFormed = true) : (classifyComponent tag p nodes).wellFormed = true := by
  have := hp.key
  have := hp.ref
  have := hp.fields
  have := hp.hooks
  simp only [classifyComponent, Node.wellFormed, Bool.and_eq_true, Bool.or_eq_true]
  refine ⟨⟨⟨⟨⟨apart, ?_⟩, hp.key⟩, hp.ref⟩, hp.hooks⟩, by simpa using hn⟩
  split
  · exact hp.fields
  · simp_all

theorem classifyFragment_wellFormed {key : Option Term} {d : Directives} {nodes : List Node}
    (hk : Term.optionWellFormed key = true) (hd : d.WellFormed)
    (hn : ∀ n ∈ nodes, n.wellFormed = true) : (classifyFragment key d nodes).wellFormed = true := by
  simp_all [classifyFragment, Node.wellFormed, fragmentSignature, Layout.resolve_collapse,
    Layout.resolve_wellFormed nodes hd]

/-- Every node classifying builds is well formed, down to the markup nested in its expressions.
The induction follows the classifier's own recursion. -/
theorem classify_wellFormed :
    (∀ t n, classify t = .ok n → n.wellFormed = true) ∧ (∀ v, (termOf v).wellFormed = true) ∧
    (∀ parts, Piece.allWellFormed (piecesOf parts) = true) ∧
    (∀ o, Term.optionWellFormed (termOfOption o) = true) ∧
    (∀ ts ns, classifyChildren ts = .ok ns → ∀ n ∈ ns, n.wellFormed = true) ∧
    (∀ attrs, ∀ a ∈ attrsOf attrs, a.wellFormed = true) := by
  refine classify.mutual_induct (fun t => ∀ n, classify t = .ok n → n.wellFormed = true)
    (fun v => (termOf v).wellFormed = true) (fun parts => Piece.allWellFormed (piecesOf parts) = true)
    (fun o => Term.optionWellFormed (termOfOption o) = true)
    (fun ts => ∀ ns, classifyChildren ts = .ok ns → ∀ n ∈ ns, n.wellFormed = true)
    (fun attrs => ∀ a ∈ attrsOf attrs, a.wellFormed = true)
    ?_ ?_ ?_ ?_ ?_ ?_ ?_ ?_ ?_ ?_ ?_ ?_ ?_ ?_ ?_ ?_ ?_ ?_ ?_ ?_ ?_ ?_ ?_
  · intro tag isComponent attrs children loc attrs' fragment key d split ihattrs ihchildren n h
    simp only [classify, fragment, if_true, attrs', split] at h
    obtain ⟨nodes, hnodes, h⟩ := except_bind_ok h
    cases h
    obtain ⟨hk, hd⟩ := split ▸ fragmentAttrs_wellFormed ihattrs
    exact classifyFragment_wellFormed hk hd (ihchildren nodes hnodes)
  · intro tag attrs children loc notFragment ihattrs ihchildren n h
    simp only [classify, notFragment, Bool.false_eq_true, if_false] at h
    obtain ⟨p, hp, h⟩ := except_bind_ok h
    obtain ⟨nodes, hnodes, h⟩ := except_bind_ok h
    cases h
    obtain ⟨wf, apart⟩ := Partition.ofAttrs_wellFormed ihattrs hp
    exact classifyComponent_wellFormed tag wf (apart rfl) (ihchildren nodes hnodes)
  · intro tag isComponent attrs children loc notFragment notComponent ihattrs ihchildren n h
    simp only [classify, notComponent, Bool.false_and, Bool.false_eq_true, if_false] at h
    obtain ⟨p, hp, h⟩ := except_bind_ok h
    obtain ⟨nodes, hnodes, h⟩ := except_bind_ok h
    have wf := (Partition.ofAttrs_wellFormed ihattrs hp).1
    split at h
    · split at h
      · rename_i v prop
        obtain ⟨given, hgiven, h⟩ := except_bind_ok h
        cases h
        have hv : v.wellFormed = true := by simpa [prop] using wf.childrenProp
        exact classifyElement_wellFormed tag wf (childrenOfProp_wellFormed hv hgiven)
      · cases h
        exact classifyElement_wellFormed tag wf (by simp)
    · cases h
      exact classifyElement_wellFormed tag wf (ihchildren nodes hnodes)
  · intro key children loc ihchildren ihkey n h
    simp only [classify] at h
    obtain ⟨nodes, hnodes, h⟩ := except_bind_ok h
    cases h
    exact classifyFragment_wellFormed ihkey ⟨by simp, rfl⟩ (ihchildren nodes hnodes)
  · intro value n h
    simp only [classify] at h
    obtain rfl := Except.ok.inj h
    split <;> simp [Node.wellFormed, Term.wellFormed]
  · intro value ih n h
    simp only [classify] at h
    cases h
    exact ih
  · intro l
    simp [termOf, Term.wellFormed]
  · intro parts ih
    simpa [termOf, Term.wellFormed] using ih
  · simp [piecesOf, Piece.allWellFormed]
  · intro code rest ih
    simpa [piecesOf, Piece.allWellFormed] using ih
  · intro node scope rest ihnode ih
    simp only [piecesOf]
    cases classified : classify node with
    | error e => simpa [Piece.allWellFormed] using ih
    | ok n => simp [Piece.allWellFormed, ihnode n classified, ih]
  · intro v ih
    simpa [termOfOption] using ih
  · simp [termOfOption]
  · intro ns h
    simp only [classifyChildren] at h
    cases h
    simp
  · intro value rest ih ns h
    simp only [classifyChildren] at h
    obtain ⟨more, hmore, h⟩ := except_bind_ok h
    obtain rfl := Except.ok.inj h
    split <;> simp_all [Node.wellFormed]
  · intro value rest term r sole ihv ih ns h
    simp only [classifyChildren, term, sole] at h
    cases r with
    | error e => cases h
    | ok n =>
      simp only [except_ok_bind, pure_bind] at h
      obtain ⟨more, hmore, h⟩ := except_bind_ok h
      cases h
      have := Term.wellFormed_of_soleTree sole ihv
      simp_all
  · intro value rest term none str isStr ihv ih ns h
    simp only [classifyChildren, term, isStr] at h
    obtain ⟨here, hhere, h⟩ := except_bind_ok h
    obtain ⟨more, hmore, h⟩ := except_bind_ok h
    cases h
    cases hhere
    split <;> simp_all [Node.wellFormed]
  · intro value rest term none notStr ihv ih ns h
    simp only [classifyChildren, term, none] at h
    obtain ⟨here, hhere, h⟩ := except_bind_ok h
    obtain ⟨more, hmore, h⟩ := except_bind_ok h
    cases h
    cases hhere
    split <;> simp_all [Node.wellFormed]
  · intro tag isComponent attrs children loc rest ihchild ih ns h
    simp only [classifyChildren] at h
    obtain ⟨n, hn, h⟩ := except_bind_ok h
    obtain ⟨more, hmore, h⟩ := except_bind_ok h
    cases h
    simpa [ihchild n hn] using ih more hmore
  · intro key children loc rest ihchild ih ns h
    simp only [classifyChildren] at h
    obtain ⟨n, hn, h⟩ := except_bind_ok h
    obtain ⟨more, hmore, h⟩ := except_bind_ok h
    cases h
    simpa [ihchild n hn] using ih more hmore
  · simp [attrsOf]
  · intro name value loc rest ihv ih
    simpa [attrsOf, Attr.wellFormed, ihv] using ih
  · intro argument loc rest ihargument ih
    simpa [attrsOf, Attr.wellFormed, ihargument] using ih

end JsxVNode
