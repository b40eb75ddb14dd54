import JsxVNode.Source.Parser.Markup
import JsxVNode.Proofs.Splicing
import Mathlib.Data.List.Chain
/-!
The parts of an embedded expression: its source text cut around the outermost markup found in
it. When the markup spans lie inside the expression, are not empty and do not overlap, nothing
of the text is lost: spelling the parts, with each piece of markup written as its own source,
gives the expression's text back. The pieces of markup come in source order, two pieces of
source never stand side by side, a piece of source is empty only when it is all there is, and an
expression without markup is one piece of source.
-/
namespace JsxVNode

def ExprPart.isSource : ExprPart → Bool
  | .source _ => true
  | .tree _ _ => false

def treeParts : List ExprPart → List (Tree × Scope)
  | [] => []
  | .source _ :: rest => treeParts rest
  | .tree node scope :: rest => (node, scope) :: treeParts rest

/-- The text of an expression's parts, with its `k`-th piece of markup written as the `k`-th of
`texts`. -/
def spellParts : List ExprPart → List String → String
  | [], _ => ""
  | .source code :: rest, texts => code ++ spellParts rest texts
  | .tree _ _ :: rest, text :: texts => text ++ spellParts rest texts
  | .tree _ _ :: rest, [] => spellParts rest []

namespace Source

/-- Markup spans that lie inside `cursor`..`stop`, are not empty and come one after another. -/
structure Site.Ordered (cursor stop : Nat) (sites : List Site) : Prop where
  inside : ∀ s ∈ sites, cursor ≤ s.start ∧ s.start < s.stop ∧ s.stop ≤ stop
  ordered : sites.Pairwise fun a b => a.stop ≤ b.start

theorem Site.Ordered.tail {cursor stop : Nat} {s : Site} {rest : List Site}
    (h : Site.Ordered cursor stop (s :: rest)) : Site.Ordered s.stop stop rest := by
  obtain ⟨inside, ordered⟩ := h
  obtain ⟨later, ordered⟩ := List.pairwise_cons.mp ordered
  exact ⟨fun t mem => ⟨later t mem, (inside t (List.mem_cons_of_mem s mem)).2⟩, ordered⟩

theorem Src.slice_eq_empty (src : Src) {a b : Nat} (h : b ≤ a) : src.slice a b = "" := by
  have := Src.length_slice src a b
  rw [show min b src.size - a = 0 by omega, String.length_eq_zero_iff] at this
  exact this

theorem Src.slice_ne_empty (src : Src) {a b : Nat} (h : a < b) (inSource : b ≤ src.size) :
    src.slice a b ≠ "" := by
  intro empty
  have := Src.length_slice src a b
  rw [empty, String.length_empty] at this
  omega

theorem spellParts_before (src : Src) (cursor : Nat) (s : Site) (more : List ExprPart)
    (texts : List String) :
    spellParts ((if s.start > cursor then [ExprPart.source (src.slice cursor s.start)] else []) ++
        .tree s.tree s.scope :: more) (src.slice s.start s.stop :: texts) =
      src.slice cursor s.start ++ src.slice s.start s.stop ++ spellParts more texts := by
  split
  · simp [spellParts, String.append_assoc]
  · rename_i atCursor
    simp [spellParts, Src.slice_eq_empty src (Nat.le_of_not_gt atCursor)]

theorem spellParts_cutAround (src : Src) {cursor stop : Nat} {sites : List Site}
    (h : Site.Ordered cursor stop sites) :
    spellParts (cutAround src stop cursor sites) (sites.map fun s => src.slice s.start s.stop) =
      src.slice cursor stop := by
  induction sites generalizing cursor with
  | nil =>
    simp only [cutAround]
    split
    · simp [spellParts]
    · rename_i short
      simp [spellParts, Src.slice_eq_empty src (Nat.le_of_not_gt short)]
  | cons s rest ih =>
    obtain ⟨first, span, within⟩ := h.inside s List.mem_cons_self
    have tail := ih h.tail
    simp only [cutAround, List.map_cons]
    rw [spellParts_before, tail, Src.slice_append src first (Nat.le_of_lt span),
      Src.slice_append src (Nat.le_trans first (Nat.le_of_lt span)) within]

theorem treeParts_cutAround (src : Src) (stop cursor : Nat) (sites : List Site) :
    treeParts (cutAround src stop cursor sites) = sites.map fun s => (s.tree, s.scope) := by
  induction sites generalizing cursor with
  | nil =>
    simp only [cutAround]
    split <;> rfl
  | cons s rest ih =>
    simp only [cutAround, List.map_cons]
    split
    · simp [treeParts, ih]
    · simp [treeParts, ih]

theorem isChain_tree {node : Tree} {scope : Scope} {more : List ExprPart}
    (h : more.IsChain fun a b => ¬(a.isSource ∧ b.isSource)) :
    (ExprPart.tree node scope :: more).IsChain fun a b => ¬(a.isSource ∧ b.isSource) :=
  h.cons fun _ _ => by simp [ExprPart.isSource]

theorem cutAround_isChain (src : Src) (stop cursor : Nat) (sites : List Site) :
    (cutAround src stop cursor sites).IsChain fun a b => ¬(a.isSource ∧ b.isSource) := by
  induction sites generalizing cursor with
  | nil =>
    simp only [cutAround]
    split
    · exact List.isChain_singleton _
    · exact List.isChain_nil
  | cons s rest ih =>
    simp only [cutAround]
    have after := @isChain_tree s.tree s.scope _ (ih s.stop)
    split
    · exact after.cons (by simp [ExprPart.isSource])
    · exact after

theorem cutAround_sources_ne_empty (src : Src) {cursor stop : Nat} (inSource : stop ≤ src.size)
    {sites : List Site} (h : Site.Ordered cursor stop sites) {code : String}
    (mem : ExprPart.source code ∈ cutAround src stop cursor sites) : code ≠ "" := by
  induction sites generalizing cursor with
  | nil =>
    simp only [cutAround] at mem
    split at mem
    · rename_i long
      rw [List.mem_singleton, ExprPart.source.injEq] at mem
      exact mem ▸ Src.slice_ne_empty src long inSource
    · cases mem
  | cons s rest ih =>
    obtain ⟨-, span, within⟩ := h.inside s List.mem_cons_self
    simp only [cutAround] at mem
    rcases List.mem_append.mp mem with before | after
    · split at before
      · rename_i late
        rw [List.mem_singleton, ExprPart.source.injEq] at before
        exact before ▸ Src.slice_ne_empty src late (by omega)
      · cases before
    · rcases List.mem_cons.mp after with here | later
      · cases here
      · exact ih h.tail later

theorem sortSites_ordered {start stop : Nat} {sites : Array Site}
    (inside : ∀ s ∈ sites, start ≤ s.start ∧ s.start < s.stop ∧ s.stop ≤ stop)
    (disjoint : sites.toList.Pairwise fun a b => a.stop ≤ b.start ∨ b.stop ≤ a.start) :
    Site.Ordered start stop (sortSites sites) := by
  have perm := List.mergeSort_perm sites.toList fun a b => decide (a.start ≤ b.start)
  have byStart : (sortSites sites).Pairwise fun a b => a.start ≤ b.start := by
    have := @List.pairwise_mergeSort Site (fun a b => decide (a.start ≤ b.start))
      (fun a b c hab hbc => by simp only [decide_eq_true_eq] at *; omega)
      (fun a b => by simp only [Bool.or_eq_true, decide_eq_true_eq]; omega) sites.toList
    simpa [sortSites] using this
  have apart : (sortSites sites).Pairwise fun a b => a.stop ≤ b.start ∨ b.stop ≤ a.start :=
    (perm.pairwise_iff fun {a b} h => h.symm).mpr disjoint
  refine ⟨fun s mem => inside s (Array.mem_toList_iff.mp (perm.subset mem)), ?_⟩
  refine (byStart.and apart).imp_of_mem fun {a b} _ memB ⟨le, sep⟩ => ?_
  have := (inside b (Array.mem_toList_iff.mp (perm.subset memB))).2.1
  omega

theorem partsOf_eq (src : Src) (start stop : Nat) (sites : Array Site) :
    partsOf src start stop sites =
      if cutAround src stop start (sortSites sites) = [] then [.source ""]
      else cutAround src stop start (sortSites sites) := by
  unfold partsOf
  cases cutAround src stop start (sortSites sites) with
  | nil => rfl
  | cons part parts => rfl

theorem parts_restore_source (src : Src) (start stop : Nat) (sites : Array Site)
    (inSource : stop ≤ src.size)
    (inside : ∀ s ∈ sites, start ≤ s.start ∧ s.start < s.stop ∧ s.stop ≤ stop)
    (disjoint : sites.toList.Pairwise fun a b => a.stop ≤ b.start ∨ b.stop ≤ a.start) :
    spellParts (partsOf src start stop sites)
        ((sortSites sites).map fun s => src.slice s.start s.stop) = src.slice start stop ∧
      treeParts (partsOf src start stop sites) = (sortSites sites).map (fun s => (s.tree, s.scope)) ∧
      (sortSites sites).Perm sites.toList ∧
      (sortSites sites).Pairwise (fun a b => a.stop ≤ b.start) ∧
      (partsOf src start stop sites).IsChain (fun a b => ¬(a.isSource ∧ b.isSource)) ∧
      (∀ code, ExprPart.source code ∈ partsOf src start stop sites → code = "" →
        partsOf src start stop sites = [.source ""]) ∧
      (sites = #[] → partsOf src start stop sites = [.source (src.slice start stop)]) := by
  have ordered := sortSites_ordered inside disjoint
  have spelled := spellParts_cutAround src ordered
  have trees := treeParts_cutAround src stop start (sortSites sites)
  have chain := cutAround_isChain src stop start (sortSites sites)
  have nonempty : ∀ code, ExprPart.source code ∈ cutAround src stop start (sortSites sites) →
      code ≠ "" := fun _ mem => cutAround_sources_ne_empty src inSource ordered mem
  refine ⟨?_, ?_, List.mergeSort_perm _ _, ordered.ordered, ?_, ?_, fun none => ?_⟩
  · rw [partsOf_eq]
    split
    · rename_i empty
      rw [empty] at spelled
      simp [spellParts, ← spelled]
    · exact spelled
  · rw [partsOf_eq]
    split
    · rename_i empty
      rw [empty] at trees
      exact trees
    · exact trees
  · rw [partsOf_eq]
    split
    · exact List.isChain_singleton _
    · exact chain
  · intro code mem empty
    rw [partsOf_eq] at mem ⊢
    split at mem
    · rename_i none
      rw [if_pos none]
    · exact absurd empty (nonempty code mem)
  · subst none
    have sorted : sortSites #[] = [] := by simp [sortSites]
    rw [partsOf_eq, sorted]
    simp only [cutAround]
    by_cases long : stop > start
    · simp [long]
    · simp [long, Src.slice_eq_empty src (Nat.le_of_not_gt long)]

theorem parts_restore_source_call :
    let src : Src := "f(<a/>, <b/>)".toList.toArray
    let sites : Array Site := #[⟨2, 6, .module, .text "a"⟩, ⟨8, 12, .function, .text "b"⟩]
    (13 ≤ src.size ∧ (∀ s ∈ sites, 0 ≤ s.start ∧ s.start < s.stop ∧ s.stop ≤ 13) ∧
      sites.toList.Pairwise fun a b => a.stop ≤ b.start ∨ b.stop ≤ a.start) ∧
    spellParts (partsOf src 0 13 sites) ((sortSites sites).map fun s => src.slice s.start s.stop) =
      "f(<a/>, <b/>)" :=
  ⟨⟨by decide, by decide, by decide⟩,
    (parts_restore_source _ 0 13 _ (by decide) (by decide) (by decide)).1.trans (by decide)⟩

end Source

end JsxVNode
