import JsxVNode.Proofs.Constant
import JsxVNode.Proofs.ChildFlags
/-!
Which subtrees are hoisted. With blueprints on (static optimisation, markup written inside a
function), a static element or fragment is read from a static blueprint's slot when it is the
root or its parent is not static, and one whose signature has slots is built by a template's call
when it is the root or its parent has no signature; everything else is built in place. So exactly
the maximal subtrees of each kind are hoisted: below a static node everything is static and built
in place in its skeleton, and below a node with a signature no template is called. With
blueprints off nothing is hoisted.

`Code.placements` reads off the code how it builds each element and fragment, in printed order,
looking into template bodies through the table; `Node.placements` says where the rule puts each
element and fragment of a tree, in preorder. The main statement, `maximal_subtrees_hoisted`, says
that the two agree for every step that succeeds, and that the code of a root is parenthesised
exactly when the root is read from a slot.

`Places o post x` says that every successful run of `x` from a valid state (options `o`, a sound
table numbered by position) ends in one whose table has grown from the first, with a value
satisfying `post` under the template bodies of every table the final one grows into.
-/
namespace JsxVNode

/-- How code builds an element or fragment: in place, by reading a static blueprint's slot, or by
calling a template. -/
inductive Placement where
  | inline
  | cached
  | template
deriving DecidableEq, Repr

def Helper.buildsMarkup : Helper → Bool
  | .createVNode | .createFragment => true
  | _ => false

namespace Code

mutual
/-- How the code builds each element and fragment, in printed order; `calls id` is how the body
of template `id` builds those below its root. Markup nested in an expression is a tree of its own
and is not counted. -/
def placements (calls : Nat → List Placement) : Code → List Placement
  | .call (.helper h) args =>
    (if h.buildsMarkup then [.inline] else []) ++ placementsList calls args
  | .call callee args => placements calls callee ++ placementsList calls args
  | .array cs | .object cs => placementsList calls cs
  | .entry _ c | .spread c | .paren c => placements calls c
  | .cached _ skeleton => .cached :: (placements calls skeleton).tail
  | .template id _ => .template :: calls id
  | .text _ | .source _ | .helper _ | .param _ | .expr _ => []

def placementsList (calls : Nat → List Placement) : List Code → List Placement
  | [] => []
  | c :: rest => placements calls c ++ placementsList calls rest
end

@[simp] theorem placementsList_eq_flatMap (calls : Nat → List Placement) (cs : List Code) :
    placementsList calls cs = cs.flatMap (placements calls) := by
  induction cs with
  | nil => rfl
  | cons c rest ih => simp [placementsList, ih]

theorem placements_finishCall (calls : Nat → List Placement) (h : Helper)
    (args : List (Option Code)) (defaults : List String) (defineAll : Bool) :
    (finishCall (.helper h) args defaults defineAll).placements calls =
      (if h.buildsMarkup then [.inline] else []) ++
        args.flatMap fun a => (a.map (placements calls)).getD [] := by
  have absent := drop_writtenCount args defineAll
  have rest : (args.drop (writtenCount args defineAll)).flatMap
      (fun a => (a.map (placements calls)).getD []) = [] := by
    simp only [List.flatMap_eq_nil_iff]
    intro a ha
    simp [absent a ha]
  conv => rhs; rw [← List.take_append_drop (writtenCount args defineAll) args]
  rw [List.flatMap_append, rest, List.append_nil, finishCall, placements, placementsList_eq_flatMap,
    List.flatMap_map]
  have plain : ∀ (a : Option Code) (i : Nat),
      placements calls (a.getD (.text (defaults.getD i ""))) = (a.map (placements calls)).getD [] := by
    intro a i
    cases a <;> rfl
  simp only [plain]
  conv => rhs; rw [← List.zipIdx_map_fst 0 (List.take _ args), List.flatMap_map]

theorem placements_array (calls : Nat → List Placement) (codes : List Code) :
    (Code.array codes).placements calls = codes.flatMap (placements calls) := by
  rw [← placementsList_eq_flatMap]; rfl

theorem placements_sole (calls : Nat → List Placement) (codes : List Code) :
    (Code.sole codes).placements calls = codes.flatMap (placements calls) := by
  match codes with
  | [c] => simp [Code.sole]
  | [] | _ :: _ :: _ => simp [Code.sole, placements_array]

theorem placements_propsObject (calls : Nat → List Placement) (entries : List Code)
    (extra : List (String × Code)) :
    ((Compile.propsObject entries extra).map (placements calls)).getD [] =
      entries.flatMap (placements calls) ++ extra.flatMap fun e => e.2.placements calls := by
  unfold Compile.propsObject
  split
  · rename_i empty
    simp only [Bool.and_eq_true, List.isEmpty_iff] at empty
    simp [empty.1, empty.2]
  · show placementsList calls _ = _
    simp only [placementsList_eq_flatMap, List.flatMap_append, List.flatMap_map]
    rfl

end Code

def Blueprint.calls (bs : List Blueprint) (id : Nat) : List Placement :=
  match bs.find? (·.id = id) with
  | some b => (b.skeleton.placements fun _ => []).tail
  | none => []

theorem Signature.slotCount_le_of_mem {s : Signature} {sigs : List Signature} (mem : s ∈ sigs) :
    s.slotCount ≤ Signature.slotCountList sigs := by
  induction sigs with
  | nil => cases mem
  | cons t rest ih =>
    simp only [Signature.slotCountList]
    rcases List.mem_cons.mp mem with rfl | later
    · omega
    · have := ih later
      omega

namespace Node

theorem child_signed {p c : Node} (wf : p.wellFormed = true) {sig : Signature}
    (signed : p.signature? = some sig) (child : c ∈ p.children) :
    ∃ s, c.signature? = some s ∧ s.slotCount ≤ sig.slotCount := by
  cases p with
  | element tag flags cls fields key ref children cf normC collapse normP sig' =>
    obtain ⟨rfl, -⟩ := Node.wellFormed_element_iff.mp wf
    obtain ⟨-, sigs, hsigs, rfl⟩ := elementSignature_eq_some signed
    obtain ⟨s, mem, hs⟩ := Node.signature_of_mem hsigs child
    have below := Signature.slotCount_le_of_mem mem
    exact ⟨s, hs, by simp only [Signature.slotCount]; omega⟩
  | fragment key children cf normC collapse sig' =>
    obtain ⟨rfl, -⟩ := Node.wellFormed_fragment_iff.mp wf
    obtain ⟨sigs, hsigs, rfl⟩ := fragmentSignature_eq_some signed
    obtain ⟨s, mem, hs⟩ := Node.signature_of_mem hsigs child
    have below := Signature.slotCount_le_of_mem mem
    exact ⟨s, hs, by simp only [Signature.slotCount]; omega⟩
  | component => cases signed
  | text => simp [Node.children] at child
  | slot => simp [Node.children] at child

def hasSlots (v : Node) : Bool := v.hoistSignature?.any (0 < ·.slotCount)

/-- Where blueprints put an element or fragment `v` under `parent` (none at a root) when `cache`
turns them on: a static one under a parent that is not static in a static blueprint's slot, one
whose signature has slots under a parent without a signature behind a template's call, and any
other in place. -/
def placement (cache : Bool) (parent : Option Node) (v : Node) : Placement :=
  if cache && v.isHoistable && v.isStatic && parent.all (!·.isStatic) then .cached
  else if cache && v.hasSlots && parent.all (·.signature?.isNone) then .template
  else .inline

mutual
def placements (cache : Bool) (parent : Option Node) : Node → List Placement
  | v@(.element _ _ _ _ _ _ children _ _ _ _ _) | v@(.fragment _ children _ _ _ _) =>
    v.placement cache parent :: placementsList cache (some v) children
  | v@(.component _ _ _ _ _ _ children _) => placementsList cache (some v) children
  | .text _ | .slot _ => []

def placementsList (cache : Bool) (parent : Option Node) : List Node → List Placement
  | [] => []
  | n :: rest => placements cache parent n ++ placementsList cache parent rest
end

def inlinePlacements (cache : Bool) (v : Node) : List Placement :=
  (if v.isHoistable then [.inline] else []) ++ placementsList cache (some v) v.children

theorem signature_of_hasSlots {v : Node} (slots : v.hasSlots = true) :
    ∃ sig, v.hoistSignature? = some sig ∧ v.signature? = some sig ∧ 0 < sig.slotCount := by
  simp only [hasSlots, Option.any_eq_true, decide_eq_true_eq] at slots
  obtain ⟨sig, hsig, count⟩ := slots
  exact ⟨sig, hsig, Node.signature_of_hoistSignature hsig, count⟩

theorem isStatic_hoistSignature {v : Node} {sig : Signature} (hsig : v.hoistSignature? = some sig) :
    v.isStatic = sig.isStatic := by
  cases v <;> simp_all [Node.hoistSignature?, Node.isStatic]

theorem inlinePlacements_of_hoistable {cache : Bool} {v : Node} (hoistable : v.isHoistable = true) :
    v.inlinePlacements cache = .inline :: placementsList cache (some v) v.children := by
  simp [inlinePlacements, hoistable]

theorem placements_eq (cache : Bool) (parent : Option Node) (v : Node) :
    v.placements cache parent =
      (if v.isHoistable then [v.placement cache parent] else []) ++
        placementsList cache (some v) v.children := by
  cases v <;> rfl

theorem placement_without_cache (parent : Option Node) (v : Node) :
    v.placement false parent = .inline := rfl

theorem placement_of_unsigned {v : Node} (unsigned : v.hoistSignature? = none) (cache : Bool)
    (parent : Option Node) : v.placement cache parent = .inline := by
  cases v <;> simp_all [placement, hasSlots, Node.hoistSignature?, Node.isStatic, Node.isHoistable]

theorem hoistable_of_hoistSignature {n : Node} {sig : Signature} (hsig : n.hoistSignature? = some sig) :
    n.isHoistable = true := by
  cases n <;> simp_all [Node.isHoistable, Node.hoistSignature?]

theorem placement_signed {v : Node} {sig : Signature} (hsig : v.hoistSignature? = some sig)
    (cache : Bool) (parent : Option Node) :
    v.placement cache parent =
      if cache && sig.isStatic && parent.all (!·.isStatic) then .cached
      else if cache && 0 < sig.slotCount && parent.all (·.signature?.isNone) then .template
      else .inline := by
  simp [placement, hoistable_of_hoistSignature hsig, isStatic_hoistSignature hsig, hasSlots, hsig]

theorem child_wellFormed {p g : Node} (wf : p.wellFormed = true) (child : g ∈ p.children) :
    g.wellFormed = true := by
  cases p with
  | element => exact (Node.wellFormed_element_iff.mp wf).2.2.2.2.2.2.2.1 g child
  | fragment => exact (Node.wellFormed_fragment_iff.mp wf).2.2.2.1 g child
  | component =>
    simp only [Node.wellFormed, Bool.and_eq_true, Node.allWellFormed_iff] at wf
    exact wf.2 g child
  | text => simp [Node.children] at child
  | slot => simp [Node.children] at child

/-- The nesting `k` a child `g` of `parent` is emitted at agrees with the rule, when blueprints
are on: a skeleton holds exactly the children of static nodes, which are static; a template body
only children of nodes with a signature; and at a site a child with slots has a parent without a
signature. -/
structure Fits (k : Nesting) (parent : Option Node) (g : Node) : Prop where
  skeleton : k = .skeleton ↔ parent.any Node.isStatic
  static : k = .skeleton → g.isStatic
  template : k = .template → parent.any (·.signature?.isSome)
  site : k = .site → g.hasSlots → parent.all (·.signature?.isNone)

namespace Fits
variable {p g : Node}

theorem root (g : Node) : Fits .site none g :=
  ⟨by simp, nofun, nofun, fun _ _ => rfl⟩

theorem below_static (wf : p.wellFormed = true) (static : p.isStatic = true) (child : g ∈ p.children) :
    Fits .skeleton (some p) g :=
  ⟨by simp [static], fun _ => (Node.child_static wf static child).2, nofun, nofun⟩

theorem below_template {sig : Signature} (signed : p.signature? = some sig)
    (dynamic : p.isStatic = false) : Fits .template (some p) g :=
  ⟨by simp [dynamic], nofun, fun _ => by simp [signed], nofun⟩

theorem below_site (wf : p.wellFormed = true) (dynamic : p.isStatic = false)
    (unslotted : ∀ sig, p.signature? = some sig → sig.slotCount = 0) (child : g ∈ p.children) :
    Fits .site (some p) g := by
  refine ⟨by simp [dynamic], nofun, nofun, fun _ slots => ?_⟩
  cases signed : p.signature? with
  | none => simp [signed]
  | some sig =>
    obtain ⟨s, hs, below⟩ := child_signed wf signed child
    obtain ⟨s', -, hs', count⟩ := signature_of_hasSlots slots
    rw [hs] at hs'
    cases hs'
    have := unslotted sig signed
    omega

end Fits

/-- A node `g` under `parent` emitted at nesting `k`: well formed, with a signature unless at a
site, and where the rule puts it when blueprints are on (`cache`). -/
structure Placed (cache : Bool) (k : Nesting) (parent : Option Node) (g : Node) : Prop where
  wellFormed : g.wellFormed = true
  signed : k ≠ .site → g.signature?.isSome
  fits : cache = true → Fits k parent g

/-- A node built in place at nesting `k`, its children emitted at `k` too: well formed, with a
signature unless at a site, and with its children where the rule puts them. -/
structure BuiltAt (cache : Bool) (k : Nesting) (n : Node) : Prop where
  wellFormed : n.wellFormed = true
  signed : k ≠ .site → n.signature?.isSome
  children : cache = true → n.isHoistable = true → ∀ g ∈ n.children, Fits k (some n) g

theorem BuiltAt.child {cache : Bool} {k : Nesting} {n g : Node} (built : n.BuiltAt cache k)
    (hoistable : n.isHoistable = true) (child : g ∈ n.children) : g.Placed cache k (some n) := by
  refine ⟨child_wellFormed built.wellFormed child, fun away => ?_,
    fun cache => built.children cache hoistable g child⟩
  obtain ⟨sig, hsig⟩ := Option.isSome_iff_exists.mp (built.signed away)
  obtain ⟨s, hs, -⟩ := child_signed built.wellFormed hsig child
  simp [hs]

theorem unsigned_of_hoistable {n : Node} (hoistable : n.isHoistable = true)
    (unsigned : n.hoistSignature? = none) : n.signature? = none ∧ n.isStatic = false := by
  cases n <;> simp_all [Node.isHoistable, Node.hoistSignature?, Node.signature?, Node.isStatic]

theorem placements_of_inline {cache : Bool} {parent : Option Node} {n : Node}
    (inline : n.isHoistable = true → n.placement cache parent = .inline) :
    n.placements cache parent = n.inlinePlacements cache := by
  rw [placements_eq, inlinePlacements]
  cases hoistable : n.isHoistable
  · rfl
  · simp [inline hoistable]

theorem placements_of_hoisted {cache : Bool} {parent : Option Node} {n : Node}
    (hoistable : n.isHoistable = true) :
    n.placements cache parent = n.placement cache parent :: (n.inlinePlacements cache).tail := by
  simp [placements_eq, inlinePlacements, hoistable]

theorem placement_root_eq_cached {cache : Bool} {n : Node} :
    n.placement cache none = .cached ↔ (n.isStatic && n.hoistSignature?.isSome && cache) = true := by
  constructor
  · intro cached
    unfold placement at cached
    split at cached
    · rename_i on
      simp only [Bool.and_eq_true] at on
      obtain ⟨⟨⟨cache, hoistable⟩, static⟩, -⟩ := on
      obtain ⟨sig, hsig, -⟩ := Node.hoistSignature_of_static hoistable static
      simp [static, hsig, cache]
    · split at cached <;> cases cached
  · intro on
    simp only [Bool.and_eq_true, Option.isSome_iff_exists] at on
    obtain ⟨⟨static, sig, hsig⟩, cache⟩ := on
    simp [placement, cache, hoistable_of_hoistSignature hsig, static]

mutual
theorem placements_without_cache (parent : Option Node) :
    ∀ v : Node, ∀ q ∈ v.placements false parent, q = .inline
  | .element tag flags cls fields key ref children cf normC collapse normP sig, q, mem => by
    simp only [placements, List.mem_cons] at mem
    rcases mem with rfl | below
    · exact placement_without_cache _ _
    · exact placementsList_without_cache _ children q below
  | .fragment key children cf normC collapse sig, q, mem => by
    simp only [placements, List.mem_cons] at mem
    rcases mem with rfl | below
    · exact placement_without_cache _ _
    · exact placementsList_without_cache _ children q below
  | .component tag flags fields key ref hooks children normP, q, mem => by
    simp only [placements] at mem
    exact placementsList_without_cache _ children q mem
  | .text _, q, mem | .slot _, q, mem => by simp [placements] at mem

theorem placementsList_without_cache (parent : Option Node) :
    ∀ nodes : List Node, ∀ q ∈ placementsList false parent nodes, q = .inline
  | [], q, mem => by simp [placementsList] at mem
  | v :: rest, q, mem => by
    rcases List.mem_append.mp mem with here | later
    · exact placements_without_cache parent v q here
    · exact placementsList_without_cache parent rest q later
end

/-! The emitter's choice at a site, against the rule. A site with blueprints on (`cache`) and
outside a skeleton reads a static node from a slot and calls a template for one with slots at a
site; anything else it builds in place. Each lemma says that the rule agrees, and that the node's
children fit the nesting it is built at. -/

namespace Placed
variable {cache : Bool} {k : Nesting} {parent : Option Node} {n : Node} {sig : Signature}

theorem inPlace_unsigned (placed : n.Placed cache k parent) (unsigned : n.hoistSignature? = none) :
    n.BuiltAt cache k ∧ n.placements cache parent = n.inlinePlacements cache := by
  refine ⟨⟨placed.wellFormed, placed.signed, fun on hoistable g child => ?_⟩,
    placements_of_inline fun _ => placement_of_unsigned unsigned cache parent⟩
  -- an element or fragment without a signature is dynamic, so it is only ever at a site
  obtain ⟨none_sig, dynamic⟩ := unsigned_of_hoistable hoistable unsigned
  have fits := placed.fits on
  cases k with
  | site => exact Fits.below_site placed.wellFormed dynamic (by simp [none_sig]) child
  | template => simpa [none_sig] using placed.signed (by decide)
  | skeleton => simp [fits.static rfl] at dynamic

theorem inPlace_off (placed : n.Placed cache k parent) (hsig : n.hoistSignature? = some sig)
    (off : cache = true → k = .skeleton) :
    n.BuiltAt cache k ∧ n.placements cache parent = n.inlinePlacements cache := by
  cases on : cache with
  | false =>
    exact ⟨⟨placed.wellFormed, placed.signed, nofun⟩,
      placements_of_inline fun _ => placement_without_cache parent n⟩
  | true =>
    have skeleton : k = .skeleton := off on
    subst skeleton
    have fits := placed.fits on
    have static := fits.static rfl
    have parentStatic := fits.skeleton.mp rfl
    refine ⟨⟨placed.wellFormed, placed.signed, fun _ _ g child =>
      Fits.below_static placed.wellFormed static child⟩, placements_of_inline fun _ => ?_⟩
    rw [isStatic_hoistSignature hsig] at static
    have unslotted := slotCount_eq_zero_of_isStatic static
    rw [placement_signed hsig]
    cases parent <;> simp_all

theorem inPlace_signed (placed : n.Placed cache k parent) (hsig : n.hoistSignature? = some sig)
    (on : cache = true) (away : k ≠ .skeleton) (dynamic : sig.isStatic = false)
    (unslotted : k = .site → sig.slotCount = 0) :
    n.BuiltAt cache k ∧ n.placements cache parent = n.inlinePlacements cache := by
  subst on
  have fits := placed.fits rfl
  have signature := Node.signature_of_hoistSignature hsig
  have nodeDynamic : n.isStatic = false := by rw [isStatic_hoistSignature hsig, dynamic]
  cases k with
  | skeleton => exact absurd rfl away
  | template =>
    have parentSigned := fits.template rfl
    refine ⟨⟨placed.wellFormed, placed.signed, fun _ _ g _ =>
      Fits.below_template signature nodeDynamic⟩, placements_of_inline fun _ => ?_⟩
    rw [placement_signed hsig]
    cases parent <;> simp_all [Option.isSome_iff_ne_none]
  | site =>
    have none_slots := unslotted rfl
    refine ⟨⟨placed.wellFormed, placed.signed, fun _ _ g child =>
      Fits.below_site placed.wellFormed nodeDynamic (by simp [signature, none_slots]) child⟩,
      placements_of_inline fun _ => ?_⟩
    rw [placement_signed hsig]
    simp_all

theorem cached (placed : n.Placed cache k parent) (hsig : n.hoistSignature? = some sig)
    (on : cache = true) (away : k ≠ .skeleton) (static : sig.isStatic = true) :
    n.BuiltAt cache .skeleton ∧
      n.placements cache parent = .cached :: (n.inlinePlacements cache).tail := by
  subst on
  have fits := placed.fits rfl
  have nodeStatic : n.isStatic = true := by rw [isStatic_hoistSignature hsig, static]
  have parentDynamic : ¬parent.any Node.isStatic = true := fun h => away (fits.skeleton.mpr h)
  refine ⟨⟨placed.wellFormed, fun _ => by simp [Node.signature_of_hoistSignature hsig],
    fun _ _ g child => Fits.below_static placed.wellFormed nodeStatic child⟩, ?_⟩
  rw [placements_of_hoisted (hoistable_of_hoistSignature hsig), placement_signed hsig]
  cases parent <;> simp_all

theorem template (placed : n.Placed cache .site parent) (hsig : n.hoistSignature? = some sig)
    (on : cache = true) (dynamic : sig.isStatic = false) (slots : 0 < sig.slotCount) :
    n.BuiltAt cache .template ∧
      n.placements cache parent = .template :: (n.inlinePlacements cache).tail := by
  subst on
  have fits := placed.fits rfl
  have signature := Node.signature_of_hoistSignature hsig
  have nodeDynamic : n.isStatic = false := by rw [isStatic_hoistSignature hsig, dynamic]
  have parentUnsigned := fits.site rfl (by simp [hasSlots, hsig, slots])
  refine ⟨⟨placed.wellFormed, fun _ => by simp [signature],
    fun _ _ g _ => Fits.below_template signature nodeDynamic⟩, ?_⟩
  rw [placements_of_hoisted (hoistable_of_hoistSignature hsig), placement_signed hsig]
  simp_all

end Placed

end Node

/-- The template bodies that code emitted at nesting `k` is read under: at a site those of the
table the file ends with; inside a blueprint any at all, since a template is called only at a
site. -/
def Nesting.Reads (k : Nesting) (calls calls' : Nat → List Placement) : Prop :=
  k = .site → calls' = calls

def Code.Plain (c : Code) : Prop := ∀ calls, c.placements calls = []

theorem Code.Plain.flatMap {codes : List Code} (plain : ∀ c ∈ codes, c.Plain)
    (calls : Nat → List Placement) : codes.flatMap (Code.placements calls) = [] :=
  List.flatMap_eq_nil_iff.mpr fun c mem => plain c mem calls

theorem Code.Plain.option {a : Option Code} (plain : ∀ c ∈ a, c.Plain) (calls : Nat → List Placement) :
    (a.map (placements calls)).getD [] = [] := by
  cases a with
  | none => rfl
  | some c => exact plain c rfl calls

/-- A state a step may start from: options `o`, and complete blueprints numbered by position. -/
structure Context.Valid (o : Options) (s : Context) : Prop where
  options : s.options = o
  sound : s.Sound
  numbered : Numbered s.blueprints

theorem Context.Valid.params {o : Options} {s : Context} (valid : s.Valid o) (p : Option (List Code)) :
    ({ s with params := p } : Context).Valid o :=
  ⟨valid.options, valid.sound, valid.numbered⟩

theorem Numbered.find?_id {bs : List Blueprint} (numbered : Numbered bs) {b : Blueprint}
    (mem : b ∈ bs) : bs.find? (·.id = b.id) = some b := by
  obtain ⟨i, hi, rfl⟩ := List.getElem_of_mem mem
  refine List.find?_eq_some_iff_getElem.mpr ⟨by simp, i, hi, rfl, fun j hj => ?_⟩
  rw [numbered.id_getElem, numbered.id_getElem]
  simp only [Bool.not_eq_eq_eq_not, Bool.not_true, decide_eq_false_iff_not]
  omega

theorem Blueprint.calls_of_mem {table bs : List Blueprint} (numbered : Numbered table)
    {b : Blueprint} (mem : b ∈ table) (grown : table <+: bs) :
    Blueprint.calls bs b.id = (b.skeleton.placements fun _ => []).tail := by
  obtain ⟨more, rfl⟩ := grown
  simp [Blueprint.calls, List.find?_append, numbered.find?_id mem]

namespace Compile

/-- Every successful run of `x` from a valid state ends in one, with the table grown and a value
satisfying `post` under the template bodies of every table the final one grows into. -/
def Places (o : Options) {α : Type} (post : (Nat → List Placement) → α → Prop) (x : Compile α) :
    Prop :=
  ∀ s a t, s.Valid o → x.run s = .ok a t →
    t.Valid o ∧ s.blueprints <+: t.blueprints ∧
      ∀ bs, t.blueprints <+: bs → post (Blueprint.calls bs) a

section Places
variable {o : Options} {α β : Type} {p p' : (Nat → List Placement) → α → Prop}
  {q : (Nat → List Placement) → β → Prop}

theorem Places.intro {x : Compile α} (grows : Grows x)
    (sound : ∀ s, s.Valid o → (final (x.run s)).Sound)
    (post : ∀ s a t, s.Valid o → t.Valid o → x.run s = .ok a t →
      ∀ bs, t.blueprints <+: bs → p (Blueprint.calls bs) a) : Places o p x := by
  intro s a t valid run
  have grown := grows.run s
  have kept := sound s valid
  rw [run, final_ok] at grown kept
  have validT : t.Valid o := ⟨grown.options.trans valid.options, kept, grown.numbered valid.numbered⟩
  exact ⟨validT, grown.earlier, post s a t valid validT run⟩

theorem Places.of_returns {x : Compile α} {r : α → Prop} (h : Returns r x) (grows : Grows x)
    (sound : Keeps Context.Sound x) : Places o (fun _ a => r a) x :=
  Places.intro grows (fun s valid => sound s valid.sound) fun s a t _ _ run _ _ => h s a t run

theorem Places.pure {a : α} (h : ∀ calls, p calls a) : Places o p (Pure.pure a : Compile α) := by
  intro s b t valid run
  cases run
  exact ⟨valid, List.prefix_refl _, fun _ _ => h _⟩

theorem Places.bind {x : Compile α} {f : α → Compile β} (hx : Places o p x)
    (hf : ∀ a, Places o (fun calls b => p calls a → q calls b) (f a)) : Places o q (x >>= f) := by
  intro s b t valid run
  obtain ⟨a, u, first, rest⟩ := run_bind_eq_ok run
  obtain ⟨validU, earlier, post⟩ := hx s a u valid first
  obtain ⟨validT, later, post'⟩ := hf a u b t validU rest
  exact ⟨validT, earlier.trans later, fun bs grown => post' bs grown (post bs (later.trans grown))⟩

theorem Places.bind_value {x : Compile α} {f : α → Compile β} {r : α → Prop}
    (hx : Places o (fun _ a => r a) x) (hf : ∀ a, r a → Places o q (f a)) :
    Places o q (x >>= f) := by
  intro s b t valid run
  obtain ⟨a, u, first, rest⟩ := run_bind_eq_ok run
  obtain ⟨validU, earlier, post⟩ := hx s a u valid first
  obtain ⟨validT, later, post'⟩ := hf a (post _ (List.prefix_refl _)) u b t validU rest
  exact ⟨validT, earlier.trans later, post'⟩

theorem Places.ite {c : Prop} [Decidable c] {x y : Compile α} (hx : c → Places o p x)
    (hy : ¬c → Places o p y) : Places o p (if c then x else y) := by
  split
  · exact hx ‹_›
  · exact hy ‹_›

theorem Places.mono {x : Compile α} (h : Places o p x) (imp : ∀ calls a, p calls a → p' calls a) :
    Places o p' x := by
  intro s a t valid run
  obtain ⟨validT, earlier, post⟩ := h s a t valid run
  exact ⟨validT, earlier, fun bs grown => imp _ _ (post bs grown)⟩

theorem Places.and {x : Compile α} (h : Places o p x) (h' : Places o p' x) :
    Places o (fun calls a => p calls a ∧ p' calls a) x := by
  intro s a t valid run
  obtain ⟨validT, earlier, post⟩ := h s a t valid run
  obtain ⟨-, -, post'⟩ := h' s a t valid run
  exact ⟨validT, earlier, fun bs grown => ⟨post bs grown, post' bs grown⟩⟩

theorem options_places : Places o (fun _ o' => o' = o) options := by
  intro s a t valid run
  rw [run_options] at run
  cases run
  exact ⟨valid, List.prefix_refl _, fun _ _ => valid.options⟩

theorem useHelper_places (h : Helper) : Places o (fun _ c => c = .helper h) (useHelper h) :=
  Places.of_returns (useHelper_returns h) (useHelper_grows h) (useHelper_keeps (fun _ _ h => h) h)

theorem wrapIf_places (cond : Bool) (call : Code) :
    Places o (fun _ c => ∀ calls, c.placements calls = call.placements calls)
      (wrapIf cond .normalizeProps call) := by
  refine Places.of_returns ?_ (wrapIf_grows _ _ _) (wrapIf_keeps (fun _ _ h => h) _ _ _)
  unfold wrapIf
  refine Returns.ite (fun _ => (useHelper_returns _).bind fun callee named => Returns.pure ?_)
    fun _ => Returns.pure fun _ => rfl
  subst named
  intro calls
  simp [Code.placements, Helper.buildsMarkup]

end Places

/-! ### Values build no markup -/

section Values
variable {o : Options}

theorem bindParam_returns {r : Code → Prop} {code : Code} (h : r code) (param : ∀ i, r (.param i)) :
    Returns r (bindParam code) := by
  intro s c t run
  rw [run_bindParam] at run
  split at run <;> cases run
  · exact param _
  · exact h

section Shapes
variable {r : Code → Prop} (text : ∀ s, r (.text s)) (expr : ∀ parts, r (.expr parts))
  (param : ∀ i, r (.param i))
include text expr param

theorem emitValue_returns (v : Term) : Returns r (emitValue v) := by
  cases v with
  | literal l =>
    rw [emitValue]
    exact Returns.pure (text _)
  | expr pieces =>
    rw [emitValue]
    exact Returns.seq fun _ => bindParam_returns (expr _) param

theorem emitParam_returns (v : Term) : Returns r (emitParam v) := by
  cases v with
  | literal l =>
    rw [emitParam]
    exact bindParam_returns (text _) param
  | expr pieces =>
    rw [emitParam]
    exact Returns.seq fun _ => bindParam_returns (expr _) param

end Shapes

theorem emitValue_plain (v : Term) : Returns Code.Plain (emitValue v) :=
  emitValue_returns (fun _ _ => rfl) (fun _ _ => rfl) (fun _ _ => rfl) v

theorem emitParam_plain (v : Term) : Returns Code.Plain (emitParam v) :=
  emitParam_returns (fun _ _ => rfl) (fun _ _ => rfl) (fun _ _ => rfl) v

theorem emitOptional_plain (t : Option Term) :
    Returns (fun a => ∀ c ∈ a, Code.Plain c) (emitOptional t) := by
  cases t with
  | none =>
    rw [emitOptional]
    exact Returns.pure (by simp)
  | some v =>
    rw [emitOptional]
    refine Returns.ite (fun _ => Returns.pure (by simp)) fun _ =>
      (emitValue_plain v).bind fun c plain => Returns.pure ?_
    simpa using plain

theorem emitFieldEntries_plain (fields : List Field) :
    Returns (fun entries => ∀ c ∈ entries, Code.Plain c) (emitFieldEntries fields) := by
  induction fields with
  | nil =>
    rw [emitFieldEntries]
    exact Returns.pure (by simp)
  | cons f rest ih =>
    obtain ⟨name, category, value⟩ := f
    rw [emitFieldEntries]
    refine (emitValue_plain value).bind fun code plain => ih.bind fun more others => Returns.pure ?_
    intro c mem
    rcases List.mem_cons.mp mem with rfl | later
    · split <;> exact plain
    · exact others c later

theorem emitChildFlags_plain (cf : ChildFlagValue) :
    Returns (fun a => ∀ c ∈ a, Code.Plain c) (emitChildFlags cf) := by
  cases cf with
  | known f =>
    rw [emitChildFlags]
    exact Returns.pure (by split <;> simp [Code.Plain, Code.placements])
  | dynamic v =>
    rw [emitChildFlags]
    exact (emitParam_plain v).bind fun c plain => Returns.pure (by simpa using plain)

theorem values_keep_sound :
    (∀ v : Term, v.wellFormed = true → Keeps Context.Sound (emitParam v)) ∧
    (∀ cf : ChildFlagValue, cf.wellFormed = true → Keeps Context.Sound (emitChildFlags cf)) ∧
    (∀ fields : List Field, (∀ f ∈ fields, f.value.wellFormed = true) →
      Keeps Context.Sound (emitFieldEntries fields)) ∧
    (∀ t : Option Term, (∀ v ∈ t, v.wellFormed = true) → Keeps Context.Sound (emitOptional t)) := by
  have sound := emit_keeps (P := Context.Sound) (fun _ _ h => h) (fun _ _ h => h)
    fun scope nesting n => hoisted_completes scope nesting n
  exact ⟨sound.2.1, sound.2.2.2.2.1, sound.2.2.2.2.2.2.1, sound.2.2.2.2.2.2.2.2⟩

theorem emitParam_places {v : Term} (wf : v.wellFormed = true) :
    Places o (fun _ c => c.Plain) (emitParam v) :=
  Places.of_returns (emitParam_plain v) (emit_grows.2.1 v) (values_keep_sound.1 v wf)

theorem emitChildFlags_places {cf : ChildFlagValue} (wf : cf.wellFormed = true) :
    Places o (fun _ a => ∀ c ∈ a, c.Plain) (emitChildFlags cf) :=
  Places.of_returns (emitChildFlags_plain cf) (emit_grows.2.2.2.2.1 cf) (values_keep_sound.2.1 cf wf)

theorem emitFieldEntries_places {fields : List Field} (wf : ∀ f ∈ fields, f.value.wellFormed = true) :
    Places o (fun _ entries => ∀ c ∈ entries, c.Plain) (emitFieldEntries fields) :=
  Places.of_returns (emitFieldEntries_plain fields) (emit_grows.2.2.2.2.2.2.1 fields)
    (values_keep_sound.2.2.1 fields wf)

theorem emitOptional_places {t : Option Term} (wf : ∀ v ∈ t, v.wellFormed = true) :
    Places o (fun _ a => ∀ c ∈ a, c.Plain) (emitOptional t) :=
  Places.of_returns (emitOptional_plain t) (emit_grows.2.2.2.2.2.2.2.2 t)
    (values_keep_sound.2.2.2 t wf)

end Values

/-! ### Sites -/

section Sites
variable {o : Options} {scope : Scope} {want : List Placement}

theorem templateSite_body {n : Node} {sig : Signature} (wf : n.wellFormed = true)
    (hsig : n.hoistSignature? = some sig) (dynamic : sig.isStatic = false)
    (slots : 0 < sig.slotCount) {s : Context} (sound : s.Sound)
    (cache : shouldCache s.options scope = true) {c : Code} {t : Context}
    (run : (templateSite sig (emitDirect scope .template n)).run s = .ok c t) :
    ∃ id args body s', c = .template id args ∧
      (emitDirect scope .template n).run { s with params := some [] } = .ok body s' ∧
      s'.blueprints <+: t.blueprints ∧ ∃ b ∈ t.blueprints, b.id = id ∧ b.skeleton = body := by
  have signature := Node.signature_of_hoistSignature hsig
  have soundAfter : t.Sound := by
    have := templateSite_completes wf hsig dynamic slots (direct_completes [] scope .template n wf)
      sound cache
    rwa [run] at this
  rw [run_templateSite] at run
  cases build : (emitDirect scope .template n).run { s with params := some [] } with
  | error e s' => rw [build] at run; cases run
  | ok body s' =>
    rw [build] at run
    obtain ⟨vals, collected⟩ :=
      direct_collects cache n wf signature { s with params := some [] } [] body s' rfl rfl build
    simp only at run
    split at run
    · rename_i b found
      cases run
      obtain ⟨mem, named⟩ := Context.lookup_some found
      cases Context.sound_iff.mp soundAfter b mem with
      | static _ _ _ isStatic => simp_all
      | template id B _ _ _ _ built =>
        subst named
        refine ⟨_, _, body, s', rfl, rfl, List.prefix_refl _, _, mem, rfl, ?_⟩
        rw [built _ (List.prefix_refl _), collected.code _ (List.prefix_refl _)]
        simp [collected.options]
    · cases run
      exact ⟨_, _, body, s', rfl, rfl, List.prefix_append _ _, _,
        List.mem_append_right _ (List.mem_singleton_self _), rfl, rfl⟩

theorem cachedSite_places {n : Node} {sig : Signature} (wf : n.wellFormed = true)
    (hsig : n.hoistSignature? = some sig) (static : sig.isStatic = true)
    (direct : Places o (fun calls c => ∀ calls', Nesting.skeleton.Reads calls calls' →
      c.placements calls' = want) (emitDirect scope .skeleton n)) :
    Places o (fun _ c => ∀ calls, c.placements calls = .cached :: want.tail)
      (cachedSite sig (emitDirect scope .skeleton n)) := by
  refine Places.intro (cachedSite_grows sig (emit_grows.1 scope .skeleton n))
    (fun s valid => cachedSite_completes wf hsig static s valid.sound) ?_
  intro s c t valid _ run bs _ calls
  obtain ⟨id, skeleton, rfl, ⟨t', built⟩, -⟩ := cachedSite_skeleton wf hsig static valid.sound run
  obtain ⟨-, -, post⟩ := direct s skeleton t' valid built
  simp [Code.placements, post t'.blueprints (List.prefix_refl _) calls nofun]

theorem templateSite_places {n : Node} {sig : Signature} (wf : n.wellFormed = true)
    (hsig : n.hoistSignature? = some sig) (dynamic : sig.isStatic = false)
    (slots : 0 < sig.slotCount) (cache : shouldCache o scope = true)
    (direct : Places o (fun calls c => ∀ calls', Nesting.template.Reads calls calls' →
      c.placements calls' = want) (emitDirect scope .template n)) :
    Places o (fun calls c => c.placements calls = .template :: want.tail)
      (templateSite sig (emitDirect scope .template n)) := by
  refine Places.intro (templateSite_grows sig (emit_grows.1 scope .template n))
    (fun s valid => templateSite_completes wf hsig dynamic slots
      (direct_completes [] scope .template n wf) valid.sound (valid.options ▸ cache)) ?_
  intro s c t valid validT run bs grown
  obtain ⟨id, args, body, s', rfl, built, -, b, mem, rfl, stored⟩ :=
    templateSite_body wf hsig dynamic slots valid.sound (valid.options ▸ cache) run
  obtain ⟨-, -, post⟩ := direct _ body s' (valid.params _) built
  simp only [Code.placements]
  rw [Blueprint.calls_of_mem validT.numbered mem grown, stored,
    post s'.blueprints (List.prefix_refl _) _ nofun]

theorem hoisted_places {n : Node} {k : Nesting} {parent : Option Node}
    (placed : n.Placed (shouldCache o scope) k parent)
    (direct : ∀ k', n.BuiltAt (shouldCache o scope) k' →
      Places o (fun calls c => ∀ calls', k'.Reads calls calls' →
        c.placements calls' = n.inlinePlacements (shouldCache o scope)) (emitDirect scope k' n)) :
    Places o (fun calls c => ∀ calls', k.Reads calls calls' →
        c.placements calls' = n.placements (shouldCache o scope) parent)
      (hoisted scope k n fun nest => emitDirect scope nest n) := by
  have wf := placed.wellFormed
  have inPlace : n.BuiltAt (shouldCache o scope) k →
      n.placements (shouldCache o scope) parent = n.inlinePlacements (shouldCache o scope) →
      Places o (fun calls c => ∀ calls', k.Reads calls calls' →
        c.placements calls' = n.placements (shouldCache o scope) parent) (emitDirect scope k n) :=
    fun built inline => (direct k built).mono fun calls c h calls' reads =>
      (h calls' reads).trans inline.symm
  unfold hoisted
  refine options_places.bind_value fun options named => ?_
  subst options
  cases hsig : n.hoistSignature? with
  | none => exact (placed.inPlace_unsigned hsig).elim inPlace
  | some sig =>
    dsimp only
    refine Places.ite (fun on => ?_) fun off => ?_
    · simp only [Bool.and_eq_true, bne_iff_ne, ne_eq] at on
      obtain ⟨away, cache⟩ := on
      refine Places.ite (fun static => ?_) fun dynamic => ?_
      · obtain ⟨built, cached⟩ := placed.cached hsig cache away static
        exact (cachedSite_places wf hsig static (direct .skeleton built)).mono
          fun calls c h calls' _ => (h calls').trans cached.symm
      · have dynamic : sig.isStatic = false := by simpa using dynamic
        refine Places.ite (fun slotted => ?_) fun unslotted => ?_
        · simp only [Bool.and_eq_true, beq_iff_eq, decide_eq_true_eq] at slotted
          obtain ⟨rfl, slots⟩ := slotted
          obtain ⟨built, template⟩ := placed.template hsig cache dynamic slots
          exact (templateSite_places wf hsig dynamic slots cache (direct .template built)).mono
            fun calls c h calls' reads => by rw [reads rfl, h, template]
        · have unslotted : k = .site → sig.slotCount = 0 := by simpa using unslotted
          exact (placed.inPlace_signed hsig cache away dynamic unslotted).elim inPlace
    · have off : shouldCache o scope = true → k = .skeleton := by
        intro on
        by_contra away
        simp [on, away] at off
      exact (placed.inPlace_off hsig off).elim inPlace

end Sites

/-! ### Building in place -/

section Calls
variable {o : Options} {scope : Scope} {k : Nesting} {cache : Bool} {parent : Option Node}

theorem childrenArg_places {nodes : List Node} (cf : ChildFlagValue) (collapse : Bool)
    {items : Compile (List Code)}
    (h : Places o (fun calls codes => ∀ calls', k.Reads calls calls' →
      codes.flatMap (Code.placements calls') = Node.placementsList cache parent nodes) items) :
    Places o (fun calls ch => ∀ calls', k.Reads calls calls' →
        (ch.map (Code.placements calls')).getD [] = Node.placementsList cache parent nodes)
      (childrenArg nodes cf collapse items) := by
  unfold childrenArg
  split
  · exact Places.pure fun _ _ _ => rfl
  · refine Places.ite (fun _ => Places.pure fun _ _ _ => rfl) fun _ =>
      h.bind fun codes => Places.pure fun calls built calls' reads => ?_
    split <;> simp [Code.placements_sole, Code.placements_array, built calls' reads]
  · exact h.bind fun codes => Places.pure fun calls built calls' reads => by
      split <;> simp [Code.placements_sole, Code.placements_array, built calls' reads]
  · exact h.bind fun codes => Places.pure fun calls built calls' reads => by
      simp [Code.placements_array, built calls' reads]

section Element
variable {tag : String} {flags : Nat} {cls : Option Term} {fields : List Field}
  {key ref : Option Term} {children : List Node} {cf : ChildFlagValue}
  {normC collapse normP : Bool} {sig : Option Signature}

theorem element_places
    (wf : (Node.element tag flags cls fields key ref children cf normC collapse normP sig).wellFormed = true)
    (items : Places o (fun calls codes => ∀ calls', k.Reads calls calls' →
      codes.flatMap (Code.placements calls') = Node.placementsList cache parent children)
      (emitNodes scope k children)) :
    Places o (fun calls c => ∀ calls', k.Reads calls calls' →
        c.placements calls' = .inline :: Node.placementsList cache parent children)
      (emitDirect scope k (.element tag flags cls fields key ref children cf normC collapse normP sig)) := by
  obtain ⟨-, -, -, wcls, wfields, wkey, wref, -, wcf⟩ := Node.wellFormed_element_iff.mp wf
  rw [emitDirect]
  refine (useHelper_places _).bind_value fun callee named => ?_
  subst named
  refine (emitOptional_places wcls).bind_value fun clsArg clsPlain => ?_
  cases normC <;> simp only [Bool.false_eq_true, if_false, if_true, pure_bind]
  · refine (childrenArg_places cf collapse items).bind fun chArg => ?_
    refine (emitChildFlags_places wcf).bind_value fun cfArg cfPlain => ?_
    refine (emitFieldEntries_places wfields).bind_value fun entries entriesPlain => ?_
    refine (emitOptional_places wkey).bind_value fun keyArg keyPlain => ?_
    refine (emitOptional_places wref).bind_value fun refArg refPlain => ?_
    refine options_places.bind_value fun options _ => ?_
    refine (wrapIf_places normP _).mono fun calls c wrapped passed calls' reads => ?_
    rw [wrapped, Code.placements_finishCall]
    simp [Helper.buildsMarkup, Code.placements, Code.placements_propsObject, passed calls' reads,
      Code.Plain.option clsPlain, Code.Plain.option cfPlain, Code.Plain.option keyPlain,
      Code.Plain.option refPlain, Code.Plain.flatMap entriesPlain]
  · refine (emitFieldEntries_places wfields).bind_value fun entries entriesPlain => ?_
    refine (emitOptional_places wkey).bind_value fun keyArg keyPlain => ?_
    refine (emitOptional_places wref).bind_value fun refArg refPlain => ?_
    refine options_places.bind_value fun options _ => ?_
    refine items.bind fun codes => ?_
    refine (useHelper_places _).bind_value fun nc named => ?_
    subst named
    refine (wrapIf_places normP _).mono fun calls c wrapped built calls' reads => ?_
    rw [wrapped]
    simp only [Code.placements, Code.placementsList, Helper.buildsMarkup]
    rw [Code.placements_finishCall]
    cases children.length == 1 <;> simp [Helper.buildsMarkup, Code.placements,
      Code.placements_propsObject, Code.placements_sole, Code.placements_array, built calls' reads,
      Code.Plain.option clsPlain, Code.Plain.option keyPlain, Code.Plain.option refPlain,
      Code.Plain.flatMap entriesPlain]

end Element

section Fragment
variable {key : Option Term} {children : List Node} {cf : ChildFlagValue} {normC collapse : Bool}
  {sig : Option Signature}

theorem fragment_places (wf : (Node.fragment key children cf normC collapse sig).wellFormed = true)
    (items : Places o (fun calls codes => ∀ calls', k.Reads calls calls' →
      codes.flatMap (Code.placements calls') = Node.placementsList cache parent children)
      (emitNodes scope k children)) :
    Places o (fun calls c => ∀ calls', k.Reads calls calls' →
        c.placements calls' = .inline :: Node.placementsList cache parent children)
      (emitDirect scope k (.fragment key children cf normC collapse sig)) := by
  obtain ⟨-, -, wkey, -, wcf⟩ := Node.wellFormed_fragment_iff.mp wf
  rw [emitDirect]
  refine (useHelper_places _).bind_value fun callee named => ?_
  subst named
  refine (childrenArg_places cf collapse items).bind fun chArg => ?_
  cases absent : chArg.isNone <;> simp only [Bool.false_eq_true, if_false, if_true, pure_bind]
  · refine (emitChildFlags_places wcf).bind_value fun cfArg cfPlain => ?_
    refine (emitOptional_places wkey).bind_value fun keyArg keyPlain => ?_
    refine options_places.bind_value fun options _ =>
      Places.pure fun calls passed calls' reads => ?_
    rw [Code.placements_finishCall]
    simp [Helper.buildsMarkup, passed calls' reads, Code.Plain.option cfPlain,
      Code.Plain.option keyPlain]
  · refine (emitOptional_places wkey).bind_value fun keyArg keyPlain => ?_
    refine options_places.bind_value fun options _ =>
      Places.pure fun calls passed calls' reads => ?_
    rw [Code.placements_finishCall]
    simp [Helper.buildsMarkup, passed calls' reads, Code.Plain.option keyPlain]

end Fragment

section Component
variable {tag : String} {flags : Nat} {fields : List Field} {key ref : Option Term}
  {hooks : List Field} {children : List Node} {normP : Bool}

theorem component_places
    (wf : (Node.component tag flags fields key ref hooks children normP).wellFormed = true)
    (items : Places o (fun calls codes =>
      codes.flatMap (Code.placements calls) = Node.placementsList cache parent children)
      (emitComponentChildren scope children)) :
    Places o (fun calls c => c.placements calls = Node.placementsList cache parent children)
      (emitDirect scope k (.component tag flags fields key ref hooks children normP)) := by
  obtain ⟨-, wfields, wkey, wref, whooks, -⟩ := Node.wellFormed_component_iff.mp wf
  rw [emitDirect]
  refine (useHelper_places _).bind_value fun callee named => ?_
  subst named
  refine items.bind fun codes => ?_
  refine (emitFieldEntries_places wfields).bind_value fun entries entriesPlain => ?_
  refine (emitOptional_places wkey).bind_value fun keyArg keyPlain => ?_
  dsimp only
  split
  · refine (emitOptional_places wref).bind_value fun refArg refPlain => ?_
    refine options_places.bind_value fun options _ => ?_
    refine (wrapIf_places normP _).mono fun calls c wrapped built => ?_
    rw [wrapped, Code.placements_finishCall]
    rcases codes with _ | ⟨one, _ | ⟨two, rest⟩⟩ <;>
      simp_all [Helper.buildsMarkup, Code.placements, Code.placements_propsObject,
        Code.Plain.option keyPlain, Code.Plain.option refPlain, Code.Plain.flatMap entriesPlain]
  · refine (emitFieldEntries_places whooks).bind_value fun hookEntries hooksPlain => ?_
    rw [pure_bind]
    refine options_places.bind_value fun options _ => ?_
    refine (wrapIf_places normP _).mono fun calls c wrapped built => ?_
    rw [wrapped, Code.placements_finishCall]
    rcases codes with _ | ⟨one, _ | ⟨two, rest⟩⟩ <;>
      simp_all [Helper.buildsMarkup, Code.placements, Code.placements_propsObject,
        Code.Plain.option keyPlain, Code.Plain.flatMap entriesPlain, Code.Plain.flatMap hooksPlain]

end Component

end Calls

/-- Every emission of classified input builds the elements and fragments where the rule puts
them. The induction follows the emitter's own recursion: a node built in place builds itself and
then its children, each at the site the rule gives it; values build no markup, so their motives
are trivial. -/
theorem emit_places (o : Options) :
    (∀ scope k (n : Node), n.BuiltAt (shouldCache o scope) k →
      Places o (fun calls c => ∀ calls', k.Reads calls calls' →
        c.placements calls' = n.inlinePlacements (shouldCache o scope)) (emitDirect scope k n)) ∧
    (∀ scope nodes (parent : Option Node), (∀ g ∈ nodes, g.Placed (shouldCache o scope) .site parent) →
      Places o (fun calls codes => codes.flatMap (Code.placements calls) =
        Node.placementsList (shouldCache o scope) parent nodes) (emitComponentChildren scope nodes)) ∧
    (∀ scope k nodes (parent : Option Node), (∀ g ∈ nodes, g.Placed (shouldCache o scope) k parent) →
      Places o (fun calls codes => ∀ calls', k.Reads calls calls' →
        codes.flatMap (Code.placements calls') = Node.placementsList (shouldCache o scope) parent nodes)
        (emitNodes scope k nodes)) := by
  have all := emitDirect.mutual_induct
    (fun scope k n => n.BuiltAt (shouldCache o scope) k →
      Places o (fun calls c => ∀ calls', k.Reads calls calls' →
        c.placements calls' = n.inlinePlacements (shouldCache o scope)) (emitDirect scope k n))
    (fun _ => True) (fun _ => True)
    (fun scope nodes => ∀ parent, (∀ g ∈ nodes, g.Placed (shouldCache o scope) .site parent) →
      Places o (fun calls codes => codes.flatMap (Code.placements calls) =
        Node.placementsList (shouldCache o scope) parent nodes) (emitComponentChildren scope nodes))
    (fun _ => True)
    (fun scope k nodes => ∀ parent, (∀ g ∈ nodes, g.Placed (shouldCache o scope) k parent) →
      Places o (fun calls codes => ∀ calls', k.Reads calls calls' →
        codes.flatMap (Code.placements calls') = Node.placementsList (shouldCache o scope) parent nodes)
        (emitNodes scope k nodes))
    (fun _ => True) (fun _ => True) (fun _ => True)
    (fun _ => trivial) (fun _ _ => trivial) (fun _ => trivial) (fun _ _ => trivial) (fun _ => trivial)
    (fun _ _ => trivial) ?element ?component ?fragment ?text ?slot
    trivial (fun _ _ _ => trivial) (fun _ _ _ => trivial) (fun _ _ _ _ _ => trivial)
    (fun _ _ => trivial) (fun _ _ _ => trivial) trivial trivial (fun _ _ _ _ _ _ => trivial)
    ?componentNil ?componentText ?componentNode ?nodesNil ?nodesCons
  · exact ⟨all.1, all.2.2.2.1, all.2.2.2.2.2.1⟩
  case element =>
    intro scope k tag flags cls fields key ref children cf normC collapse normP sig _ _ _ _ hchildren _
      built
    have items := hchildren _ fun g child => built.child rfl child
    exact (element_places built.wellFormed items).mono fun calls c h calls' reads =>
      (h calls' reads).trans (Node.inlinePlacements_of_hoistable rfl).symm
  case component =>
    intro scope k tag flags fields key ref hooks children normP hchildren _ _ _ _ built
    have site : k = .site := by
      by_contra away
      simpa [Node.signature?] using built.signed away
    subst site
    have items := hchildren (some (.component tag flags fields key ref hooks children normP))
      fun g child => ⟨Node.child_wellFormed built.wellFormed child, fun away => absurd rfl away,
        fun _ => Node.Fits.below_site built.wellFormed rfl (by simp [Node.signature?]) child⟩
    refine (component_places built.wellFormed items).mono fun calls c h calls' reads => ?_
    rw [reads rfl, h]
    simp [Node.inlinePlacements, Node.isHoistable, Node.children]
  case fragment =>
    intro scope k key children cf normC collapse sig hchildren _ _ built
    have items := hchildren _ fun g child => built.child rfl child
    exact (fragment_places built.wellFormed items).mono fun calls c h calls' reads =>
      (h calls' reads).trans (Node.inlinePlacements_of_hoistable rfl).symm
  case text =>
    intro scope k value _
    rw [emitDirect]
    refine (useHelper_places _).bind_value fun callee named => Places.pure fun calls calls' _ => ?_
    subst named
    simp [Code.placements, Helper.buildsMarkup, Node.inlinePlacements, Node.isHoistable,
      Node.children, Node.placementsList]
  case slot =>
    intro scope k value _ built
    rw [emitDirect]
    have wf : value.wellFormed = true := by simpa [Node.wellFormed] using built.wellFormed
    exact (emitParam_places wf).mono fun calls c plain calls' _ => by
      simp [plain calls', Node.inlinePlacements, Node.isHoistable, Node.children, Node.placementsList]
  case componentNil =>
    intro scope parent _
    exact Places.pure fun _ => rfl
  case componentText =>
    intro scope rest t ih parent placed
    simp only [emitComponentChildren, pure_bind]
    refine (ih parent fun g mem => placed g (.tail _ mem)).bind fun more =>
      Places.pure fun calls others => ?_
    simp [Code.placements, Node.placementsList, Node.placements, others]
  case componentNode =>
    intro scope n rest notText ih ihn parent placed
    simp only [emitComponentChildren]
    refine (hoisted_places (placed n (.head _)) fun k' built => ihn k' built).bind fun code =>
      (ih parent fun g mem => placed g (.tail _ mem)).bind fun more =>
        Places.pure fun calls others first => ?_
    simp [Node.placementsList, first calls fun _ => rfl, others]
  case nodesNil =>
    intro scope k parent _
    exact Places.pure fun _ _ _ => rfl
  case nodesCons =>
    intro scope k n rest ihn ih parent placed
    rw [emitNodes]
    refine (hoisted_places (placed n (.head _)) fun k' built => ihn k' built).bind fun code =>
      (ih parent fun g mem => placed g (.tail _ mem)).bind fun more =>
        Places.pure fun calls others first calls' reads => ?_
    simp [Node.placementsList, first calls' reads, others calls' reads]

/-! ### Roots -/

section Root
variable {o : Options} {scope : Scope}

theorem hoisted_unparenthesised {k : Nesting} (n : Node) :
    Returns (fun c => ∀ x, c ≠ .paren x) (hoisted scope k n fun nest => emitDirect scope nest n) := by
  refine hoisted_returns (fun _ _ _ => nofun) (fun _ _ _ => nofun) fun k' => ?_
  cases n with
  | slot v =>
    rw [emitDirect]
    exact emitParam_returns (fun _ _ => nofun) (fun _ _ => nofun) (fun _ _ => nofun) v
  | element | component | fragment | text =>
    exact (direct_builds rfl).mono fun c built x same => by
      subst same
      exact absurd built.2.1 (by simp [Code.isVNode])

theorem rooted_places {n : Node} (wf : n.wellFormed = true) :
    Places o (fun calls c => c.placements calls = n.placements (shouldCache o scope) none ∧
        ((∃ x, c = .paren x) ↔ n.placement (shouldCache o scope) none = .cached))
      (rooted scope n fun nest => emitDirect scope nest n) := by
  unfold rooted
  refine options_places.bind_value fun options named => ?_
  subst options
  have placed : n.Placed (shouldCache o scope) .site none :=
    ⟨wf, fun away => absurd rfl away, fun _ => Node.Fits.root n⟩
  have site := hoisted_places placed fun k' built => (emit_places o).1 scope k' n built
  have bare : Places o (fun _ c => ∀ x, c ≠ .paren x)
      (hoisted scope .site n fun nest => emitDirect scope nest n) :=
    Places.of_returns (hoisted_unparenthesised n)
      (hoisted_grows scope .site n fun nest => emit_grows.1 scope nest n)
      (hoisted_completes scope .site n wf fun nest => direct_completes [] scope nest n wf)
  refine (site.and bare).bind fun code => Places.pure fun calls both => ?_
  obtain ⟨built, unwrapped⟩ := both
  rw [Node.placement_root_eq_cached]
  split
  · rename_i cached
    exact ⟨by simpa [Code.placements] using built calls fun _ => rfl, iff_of_true ⟨code, rfl⟩ cached⟩
  · rename_i plain
    exact ⟨built calls fun _ => rfl, iff_of_false (fun found => found.elim unwrapped) plain⟩

/-- Exactly the maximal subtrees are hoisted. Compiling a tree builds each element and fragment
of it, in order, where the rule puts it: a static one that is the root or whose parent is not
static is read from a static blueprint's slot, one whose signature has slots and that is the root
or whose parent has no signature is built by a template's call, and every other one in place,
inside the skeleton or template body that holds it or at the site itself. With blueprints off
(the static optimisation off, or markup outside a function) everything is built in place. The code
is parenthesised exactly when the root is read from a slot. -/
theorem maximal_subtrees_hoisted {t : Tree} {n : Node} (classified : classify t = .ok n)
    {scope : Scope} {s : Context} (sound : s.Sound) (numbered : Numbered s.blueprints) {c : Code}
    {s' : Context} (run : (Compile.tree t scope).run s = .ok c s') :
    c.placements (Blueprint.calls s'.blueprints) = n.placements (shouldCache s.options scope) none ∧
      ((∃ x, c = .paren x) ↔ n.placement (shouldCache s.options scope) none = .cached) ∧
      (shouldCache s.options scope = false →
        ∀ q ∈ c.placements (Blueprint.calls s'.blueprints), q = .inline) := by
  simp only [Compile.tree, EStateM.run_bind, run_ofExcept, classified] at run
  have wf := classify_wellFormed.1 t n classified
  obtain ⟨-, -, post⟩ := rooted_places wf s c s' ⟨rfl, sound, numbered⟩ run
  obtain ⟨placed, parenthesised⟩ := post s'.blueprints (List.prefix_refl _)
  refine ⟨placed, parenthesised, fun off q mem => ?_⟩
  rw [placed, off] at mem
  exact Node.placements_without_cache none n q mem

theorem maximal_subtrees_hoisted_template :
    let t := Tree.element "div" false []
      [.element "p" false [] [.text "static"] ⟨0, 0⟩,
        .element "span" false [] [.slot (.code "x")] ⟨0, 0⟩] ⟨0, 0⟩
    let s := Context.ofOptions { optimizeStaticVNodes := true }
    ∃ n c s', classify t = .ok n ∧ s.Sound ∧ Numbered s.blueprints ∧
      (Compile.tree t .function).run s = .ok c s' ∧
      n.placements (shouldCache s.options .function) none = [.template, .cached, .inline] ∧
      (c.placements (Blueprint.calls s'.blueprints) =
          n.placements (shouldCache s.options .function) none ∧
        ((∃ x, c = .paren x) ↔ n.placement (shouldCache s.options .function) none = .cached) ∧
        (shouldCache s.options .function = false →
          ∀ q ∈ c.placements (Blueprint.calls s'.blueprints), q = .inline)) := by
  intro t s
  have sound : s.Sound := ⟨[], rfl, by simp⟩
  have numbered : Numbered s.blueprints := ⟨rfl, List.nodup_nil⟩
  have placed : ((classify t).toOption.map fun n => n.placements true none) =
      some [.template, .cached, .inline] := by
    decide +kernel
  have ran : ((Compile.tree t .function).run' s).isSome = true := by decide +kernel
  obtain ⟨c, s', run⟩ := run_ok_of_isSome ran
  cases classified : classify t with
  | error e => rw [classified] at placed; cases placed
  | ok n =>
    have shown : n.placements true none = [.template, .cached, .inline] := by
      simpa [classified, Except.toOption] using placed
    exact ⟨n, c, s', rfl, sound, numbered, run, shown,
      maximal_subtrees_hoisted classified sound numbered run⟩

end Root

end Compile

end JsxVNode
