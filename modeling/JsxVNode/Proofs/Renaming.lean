import JsxVNode.Proofs.Reuse
import Mathlib.Data.List.Nodup
/-!
Renaming blueprint ids. Code refers to blueprints by id, and ids are handed out in the order in
which signatures are first met, so two compilations that meet the same signatures in another
order can only disagree on ids. `rename ρ` applies `ρ` to every id the code refers to. The code
of a signature commutes with it, and a skeleton, built with every child in place, refers to no
id at all.

`Aligns ρ bs₁ bs₂` says that `ρ` sends the id of each blueprint of `bs₁` to the id of the
blueprint of `bs₂` with the same signature. Two numbered tables over the same signatures have a
bijective renaming aligned with them, and under it the complete blueprints of the first table,
their code renamed, are those of the second.
-/
namespace JsxVNode

namespace Code

mutual
def rename (ρ : Nat → Nat) : Code → Code
  | .text s => .text s
  | .source s => .source s
  | .helper h => .helper h
  | .call callee args => .call (rename ρ callee) (renameList ρ args)
  | .array items => .array (renameList ρ items)
  | .object entries => .object (renameList ρ entries)
  | .entry key value => .entry key (rename ρ value)
  | .spread value => .spread (rename ρ value)
  | .expr parts => .expr (renameList ρ parts)
  | .param i => .param i
  | .cached id skeleton => .cached (ρ id) (rename ρ skeleton)
  | .template id args => .template (ρ id) (renameList ρ args)
  | .paren code => .paren (rename ρ code)

def renameList (ρ : Nat → Nat) : List Code → List Code
  | [] => []
  | c :: rest => rename ρ c :: renameList ρ rest
end

@[simp] theorem renameList_eq_map (ρ : Nat → Nat) (cs : List Code) :
    renameList ρ cs = cs.map (rename ρ) := by
  induction cs with
  | nil => simp [renameList]
  | cons c rest ih => simp [renameList, ih]

section Rename
variable (ρ : Nat → Nat) (cs : List Code) (c : Code)

@[simp] theorem rename_text (s : String) : (Code.text s).rename ρ = .text s := rfl
@[simp] theorem rename_source (s : String) : (Code.source s).rename ρ = .source s := rfl
@[simp] theorem rename_helper (h : Helper) : (Code.helper h).rename ρ = .helper h := rfl
@[simp] theorem rename_param (i : Nat) : (Code.param i).rename ρ = .param i := rfl
@[simp] theorem rename_call : (Code.call c cs).rename ρ = .call (c.rename ρ) (cs.map (rename ρ)) := by
  rw [← renameList_eq_map]; rfl
@[simp] theorem rename_array : (Code.array cs).rename ρ = .array (cs.map (rename ρ)) := by
  rw [← renameList_eq_map]; rfl
@[simp] theorem rename_object : (Code.object cs).rename ρ = .object (cs.map (rename ρ)) := by
  rw [← renameList_eq_map]; rfl
@[simp] theorem rename_expr : (Code.expr cs).rename ρ = .expr (cs.map (rename ρ)) := by
  rw [← renameList_eq_map]; rfl
@[simp] theorem rename_template (id : Nat) :
    (Code.template id cs).rename ρ = .template (ρ id) (cs.map (rename ρ)) := by
  rw [← renameList_eq_map]; rfl
@[simp] theorem rename_cached (id : Nat) :
    (Code.cached id c).rename ρ = .cached (ρ id) (c.rename ρ) := rfl
@[simp] theorem rename_entry (key : String) : (Code.entry key c).rename ρ = .entry key (c.rename ρ) :=
  rfl
@[simp] theorem rename_spread : (Code.spread c).rename ρ = .spread (c.rename ρ) := rfl
@[simp] theorem rename_paren : (Code.paren c).rename ρ = .paren (c.rename ρ) := rfl

end Rename

mutual
@[simp] theorem rename_id : ∀ (c : Code), c.rename id = c
  | .text _ | .source _ | .helper _ | .param _ => rfl
  | .call callee args => by simp only [rename_call, rename_id callee, renameList_id args]
  | .array cs => by simp only [rename_array, renameList_id cs]
  | .object cs => by simp only [rename_object, renameList_id cs]
  | .expr cs => by simp only [rename_expr, renameList_id cs]
  | .template _ cs => by simp only [rename_template, renameList_id cs, id]
  | .entry _ c => by simp only [rename_entry, rename_id c]
  | .spread c => by simp only [rename_spread, rename_id c]
  | .cached _ c => by simp only [rename_cached, rename_id c, id]
  | .paren c => by simp only [rename_paren, rename_id c]

theorem renameList_id : ∀ (cs : List Code), cs.map (rename id) = cs
  | [] => rfl
  | c :: rest => by simp only [List.map_cons, rename_id c, renameList_id rest]
end

end Code

def Blueprint.rename (ρ : Nat → Nat) (b : Blueprint) : Blueprint :=
  { b with id := ρ b.id, skeleton := b.skeleton.rename ρ }

/-! ### The code of a signature commutes with renaming -/

section Builders
open Code
variable (ρ : Nat → Nat)

def renameHoles (hole : Nat → Code) : Nat → Code := fun i => (hole i).rename ρ

@[simp] theorem renameHoles_shiftHoles (hole : Nat → Code) (k : Nat) :
    renameHoles ρ (shiftHoles hole k) = shiftHoles (renameHoles ρ hole) k := rfl

@[simp] theorem renameHoles_param : renameHoles ρ .param = .param := rfl

theorem finishCall_rename (callee : Code) (args : List (Option Code)) (defaults : List String)
    (defineAll : Bool) :
    (finishCall callee args defaults defineAll).rename ρ =
      finishCall (callee.rename ρ) (args.map (Option.map (rename ρ))) defaults defineAll := by
  simp only [finishCall, rename_call, writtenCount_map, List.map_map]
  congr 1
  rw [← List.map_take, List.zipIdx_map, List.map_map]
  apply List.map_congr_left
  rintro ⟨a, i⟩ -
  cases a <;> rfl

theorem propsObject_rename (entries : List Code) (extra : List (String × Code)) :
    (Compile.propsObject entries extra).map (rename ρ) =
      Compile.propsObject (entries.map (rename ρ)) (extra.map fun kv => (kv.1, kv.2.rename ρ)) := by
  unfold Compile.propsObject
  split <;> simp_all [Function.comp_def]

theorem sole_rename (codes : List Code) : (Code.sole codes).rename ρ = Code.sole (codes.map (rename ρ)) := by
  unfold Code.sole
  split
  · rfl
  · rename_i notOne
    cases codes with
    | nil => rfl
    | cons c rest =>
      cases rest with
      | nil => exact absurd rfl (notOne c)
      | cons d more => simp

theorem shapeCode_rename (hole : Nat → Code) (s : Shape) :
    (s.code hole).rename ρ = s.code (renameHoles ρ hole) := by
  cases s <;> rfl

theorem optionCode_rename (hole : Nat → Code) (o : Option Shape) :
    (Shape.optionCode hole o).map (rename ρ) = Shape.optionCode (renameHoles ρ hole) o := by
  rcases o with _ | ⟨l | _⟩
  · rfl
  · cases l <;> rfl
  · rfl

theorem entries_rename (hole : Nat → Code) (fields : List FieldShape) :
    (FieldShape.entries hole fields).map (rename ρ) =
      FieldShape.entries (renameHoles ρ hole) fields := by
  induction fields generalizing hole with
  | nil => rfl
  | cons f rest ih =>
    simp only [FieldShape.entries, List.map_cons, ih, renameHoles_shiftHoles]
    refine congrArg (· :: _) ?_
    unfold FieldShape.entry
    split <;> simp [shapeCode_rename]

theorem childFlagsCode_rename (hole : Nat → Code) (cf : Option Nat) :
    (childFlagsCode hole cf).map (rename ρ) = childFlagsCode (renameHoles ρ hole) cf := by
  rcases cf with _ | n
  · rfl
  · simp only [childFlagsCode]
    split <;> rfl

theorem childrenCode_rename (children : List Signature) (cf : Option Nat) (collapse : Bool)
    (codes : List Code) :
    (Signature.childrenCode children cf collapse codes).map (rename ρ) =
      Signature.childrenCode children cf collapse (codes.map (rename ρ)) := by
  unfold Signature.childrenCode
  split
  · rfl
  · split
    · rfl
    · split <;> simp [sole_rename]
  · split <;> simp [sole_rename]
  · simp

variable {o : Options} {site site' : Signature → Option Code}

mutual
/-- Renaming the code of a signature renames its holes and its sites: the rest of the code is
the signature's own and refers to no blueprint. Sites matter only for static children. -/
theorem code_rename (agree : ∀ c, c.isStatic = true → (site c).map (rename ρ) = site' c) :
    ∀ (sig : Signature) (hole : Nat → Code),
      (sig.code o site hole).rename ρ = sig.code o site' (renameHoles ρ hole)
  | .element tag flags cls fields key ref cf children, hole => by
    have hchildren := codeList_rename agree children
    simp only [Signature.code]
    split
    · simp [finishCall_rename, optionCode_rename, propsObject_rename, entries_rename, apply_ite,
        sole_rename, hchildren]
    · simp [finishCall_rename, optionCode_rename, propsObject_rename, entries_rename,
        childFlagsCode_rename, childrenCode_rename, hchildren]
  | .fragment key cf children, hole => by
    simp only [Signature.code, childrenCode_isNone]
    simp [finishCall_rename, optionCode_rename, childFlagsCode_rename,
      childrenCode_rename, codeList_rename agree children, apply_ite]
  | .text _, _ => rfl
  | .slot, _ => rfl

theorem codeList_rename (agree : ∀ c, c.isStatic = true → (site c).map (rename ρ) = site' c) :
    ∀ (sigs : List Signature) (hole : Nat → Code),
      (Signature.codeList o site hole sigs).map (rename ρ) =
        Signature.codeList o site' (renameHoles ρ hole) sigs
  | [], _ => rfl
  | c :: rest, hole => by
    simp only [Signature.codeList, List.map_cons, codeList_rename agree rest, renameHoles_shiftHoles]
    refine congrArg (· :: _) ?_
    split
    · rename_i hs
      rw [← agree c (Bool.and_eq_true _ _ ▸ hs).2]
      cases site c with
      | none => simpa using code_rename agree c hole
      | some x => rfl
    · exact code_rename agree c hole
end

@[simp] theorem rename_skeleton (sig : Signature) :
    (sig.code o (fun _ => none) .param).rename ρ = sig.code o (fun _ => none) .param :=
  code_rename ρ (fun _ _ => rfl) sig .param

end Builders

/-! ### Tables over the same signatures -/

/-- `ρ` sends the id of every blueprint of `bs₁` to the id of the blueprint of `bs₂` under the
same signature. -/
def Aligns (ρ : Nat → Nat) (bs₁ bs₂ : List Blueprint) : Prop :=
  ∀ b₁ ∈ bs₁, ∀ b₂ ∈ bs₂, b₁.signature = b₂.signature → ρ b₁.id = b₂.id

theorem Aligns.mono {ρ : Nat → Nat} {bs₁ bs₂ bs₁' bs₂' : List Blueprint} (h : Aligns ρ bs₁' bs₂')
    (h₁ : bs₁ ⊆ bs₁') (h₂ : bs₂ ⊆ bs₂') : Aligns ρ bs₁ bs₂ :=
  fun b₁ m₁ b₂ m₂ same => h b₁ (h₁ m₁) b₂ (h₂ m₂) same

namespace Numbered
variable {bs bs₁ bs₂ : List Blueprint}

theorem id_getElem (numbered : Numbered bs) (i : Nat) (h : i < bs.length) : bs[i].id = i := by
  have at_i := congrArg (·[i]?) numbered.1
  simpa [h] using at_i

theorem nodup (numbered : Numbered bs) : bs.Nodup :=
  List.Nodup.of_map (·.id) (numbered.1 ▸ List.nodup_range)

/-- The renaming that sends each position of `bs₁` to the position of the same signature in
`bs₂`, and every other number to itself. -/
def alignment (bs₁ bs₂ : List Blueprint) (i : Nat) : Nat :=
  if h : i < bs₁.length then (bs₂.map (·.signature)).idxOf bs₁[i].signature else i

variable (n₁ : Numbered bs₁) (n₂ : Numbered bs₂)
  (same : ∀ sig, sig ∈ bs₁.map (·.signature) ↔ sig ∈ bs₂.map (·.signature))
include n₁ n₂ same

theorem length_eq : bs₁.length = bs₂.length := by
  simpa using ((List.perm_ext_iff_of_nodup n₁.2 n₂.2).mpr same).length_eq

theorem alignment_leftInverse : Function.LeftInverse (alignment bs₂ bs₁) (alignment bs₁ bs₂) := by
  intro i
  have lengths := length_eq n₁ n₂ same
  by_cases h : i < bs₁.length
  · have listed : bs₁[i].signature ∈ bs₂.map (·.signature) :=
      (same _).mp (List.mem_map_of_mem (List.getElem_mem h))
    have found := List.idxOf_lt_length_of_mem listed
    rw [List.length_map] at found
    have back := List.getElem_idxOf (List.idxOf_lt_length_of_mem listed)
    simp only [List.getElem_map] at back
    have again := n₁.2.idxOf_getElem i (by simpa using h)
    simp only [List.getElem_map] at again
    simp only [alignment, h, dite_true, found, back, again]
  · simp [alignment, h, lengths ▸ h]

theorem exists_aligned : ∃ π : Nat → Nat, π.Bijective ∧ Aligns π bs₁ bs₂ := by
  refine ⟨alignment bs₁ bs₂, Function.bijective_iff_has_inverse.mpr ⟨alignment bs₂ bs₁,
    alignment_leftInverse n₁ n₂ same, alignment_leftInverse n₂ n₁ fun sig => (same sig).symm⟩, ?_⟩
  intro b₁ m₁ b₂ m₂ named
  obtain ⟨i, hi, rfl⟩ := List.mem_iff_getElem.mp m₁
  obtain ⟨j, hj, rfl⟩ := List.mem_iff_getElem.mp m₂
  rw [n₁.id_getElem i hi, n₂.id_getElem j hj]
  have again := n₂.2.idxOf_getElem j (by simpa using hj)
  simp only [List.getElem_map] at again
  simp only [alignment, hi, dite_true, named, again]

end Numbered

section Complete
variable {o : Options} {ρ : Nat → Nat} {bs₁ bs₂ : List Blueprint}

theorem sites_rename (c₁ : ∀ b ∈ bs₁, Blueprint.Complete o bs₁ b)
    (c₂ : ∀ b ∈ bs₂, Blueprint.Complete o bs₂ b) (aligned : Aligns ρ bs₁ bs₂)
    (same : ∀ sig, sig ∈ bs₁.map (·.signature) ↔ sig ∈ bs₂.map (·.signature))
    (c : Signature) (static : c.isStatic = true) :
    (Blueprint.sites bs₁ c).map (Code.rename ρ) = Blueprint.sites bs₂ c := by
  -- a complete blueprint of a static signature holds the skeleton, which has no ids
  have skeleton : ∀ {bs : List Blueprint} {b : Blueprint}, Blueprint.Complete o bs b →
      b.signature = c → b.skeleton = c.code o (fun _ => none) .param := by
    intro bs b complete named
    cases complete with
    | static => subst named; rfl
    | template _ _ _ _ dynamic => simp_all
  simp only [Blueprint.sites]
  cases found₁ : bs₁.find? (·.signature = c) with
  | none =>
    have absent : c ∉ bs₂.map (·.signature) := fun listed => by
      obtain ⟨b, mem, named⟩ := List.mem_map.mp ((same c).mpr listed)
      simpa [named] using List.find?_eq_none.mp found₁ b mem
    have found₂ : bs₂.find? (·.signature = c) = none :=
      List.find?_eq_none.mpr fun b mem named => absent (List.mem_map.mpr ⟨b, mem, by simpa using named⟩)
    simp [found₂]
  | some b₁ =>
    have mem₁ := List.mem_of_find?_eq_some found₁
    have named₁ : b₁.signature = c := by simpa using List.find?_some found₁
    obtain ⟨b₂, found₂⟩ : ∃ b₂, bs₂.find? (·.signature = c) = some b₂ := by
      obtain ⟨b, mem, named⟩ := List.mem_map.mp ((same c).mp (List.mem_map.mpr ⟨b₁, mem₁, named₁⟩))
      exact Option.isSome_iff_exists.mp (List.find?_isSome.mpr ⟨b, mem, by simpa using named⟩)
    have mem₂ := List.mem_of_find?_eq_some found₂
    have named₂ : b₂.signature = c := by simpa using List.find?_some found₂
    simp only [found₂, Option.map_some, Code.rename_cached, skeleton (c₁ b₁ mem₁) named₁,
      skeleton (c₂ b₂ mem₂) named₂, rename_skeleton, aligned b₁ mem₁ b₂ mem₂ (named₁.trans named₂.symm)]

theorem Blueprint.Complete.rename_eq {b₁ b₂ : Blueprint} (h₁ : Blueprint.Complete o bs₁ b₁)
    (h₂ : Blueprint.Complete o bs₂ b₂) (same : b₁.signature = b₂.signature) (ids : ρ b₁.id = b₂.id)
    (sites : ∀ c, c.isStatic = true → (Blueprint.sites bs₁ c).map (Code.rename ρ) = Blueprint.sites bs₂ c) :
    b₁.rename ρ = b₂ := by
  cases h₁ with
  | static id wf _ isStatic =>
    cases h₂ with
    | static => simp_all [Blueprint.rename]
    | template _ _ _ _ dynamic => simp_all
  | template id body wf _ dynamic _ built₁ =>
    cases h₂ with
    | static _ _ _ isStatic => simp_all
    | template id' body' _ _ _ _ built₂ =>
      simp only at same ids
      subst same
      simp only [Blueprint.rename, ids, built₁ bs₁ (List.prefix_refl _), built₂ bs₂ (List.prefix_refl _),
        code_rename ρ sites, renameHoles_param]

theorem perm_rename (n₁ : Numbered bs₁) (n₂ : Numbered bs₂)
    (c₁ : ∀ b ∈ bs₁, Blueprint.Complete o bs₁ b) (c₂ : ∀ b ∈ bs₂, Blueprint.Complete o bs₂ b)
    (same : ∀ sig, sig ∈ bs₁.map (·.signature) ↔ sig ∈ bs₂.map (·.signature))
    (aligned : Aligns ρ bs₁ bs₂) (injective : ρ.Injective) :
    bs₂.Perm (bs₁.map (Blueprint.rename ρ)) := by
  have sites := sites_rename c₁ c₂ aligned same
  have renamed : (bs₁.map (Blueprint.rename ρ)).Nodup := by
    refine List.Nodup.of_map (·.id) ?_
    have ids : (bs₁.map (Blueprint.rename ρ)).map (·.id) = (List.range bs₁.length).map ρ := by
      rw [← n₁.1]
      simp [Blueprint.rename, Function.comp_def]
    rw [ids]
    exact List.nodup_range.map injective
  refine (List.perm_ext_iff_of_nodup n₂.nodup renamed).mpr fun b => ⟨fun mem₂ => ?_, fun mem => ?_⟩
  · obtain ⟨b₁, mem₁, named⟩ :=
      List.mem_map.mp ((same b.signature).mpr (List.mem_map_of_mem mem₂))
    exact List.mem_map.mpr ⟨b₁, mem₁, (c₁ b₁ mem₁).rename_eq (c₂ b mem₂) named
      (aligned b₁ mem₁ b mem₂ named) sites⟩
  · obtain ⟨b₁, mem₁, rfl⟩ := List.mem_map.mp mem
    obtain ⟨b₂, mem₂, named⟩ :=
      List.mem_map.mp ((same b₁.signature).mp (List.mem_map_of_mem mem₁))
    rw [(c₁ b₁ mem₁).rename_eq (c₂ b₂ mem₂) named.symm (aligned b₁ mem₁ b₂ mem₂ named.symm) sites]
    exact mem₂

end Complete

end JsxVNode
