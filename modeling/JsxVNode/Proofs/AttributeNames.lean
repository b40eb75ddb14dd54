import Mathlib.Data.List.Chain
import JsxVNode.Node.Partition
import JsxVNode.Text.Identifier
/-!
Attribute names against the markup grammar. The grammar takes as a name part an identifier
start (`ID_Start`, `$`, `_`) followed by identifier parts (`ID_Continue`, `$`, the two joiners)
and dashes; the name check takes letters (`Alphabetic`) where the grammar takes identifier
starts, and letters and numbers (`Alphabetic`, general category Number) where it takes parts.

The two agree on ASCII, but not beyond: the names that the grammar admits and the check refuses
are exactly those with a character in one of two gap tables, `Text.startGaps` for the first
character of a part and `Text.partGaps` for the others (`AttrName.resolve_markup`). The
tables are differences of the Unicode range tables, computed by a sweep over sorted ranges that
is proved against the pointwise meaning of the ranges (`Text.covers_diff`).
-/
namespace JsxVNode

namespace Text

/-! ### Sorted ranges -/

def covers (rs : List (Nat × Nat)) (n : Nat) : Bool := rs.any fun r => r.1 ≤ n && n ≤ r.2

theorem covers_iff {rs : List (Nat × Nat)} {n : Nat} :
    covers rs n = true ↔ ∃ r ∈ rs, r.1 ≤ n ∧ n ≤ r.2 := by
  simp [covers]

@[simp] theorem covers_nil (n : Nat) : covers [] n = false := rfl

@[simp] theorem covers_cons (r : Nat × Nat) (rs : List (Nat × Nat)) (n : Nat) :
    covers (r :: rs) n = (decide (r.1 ≤ n ∧ n ≤ r.2) || covers rs n) := by
  show (r :: rs).any _ = (_ || rs.any _)
  simp

@[simp] theorem covers_append (rs qs : List (Nat × Nat)) (n : Nat) :
    covers (rs ++ qs) n = (covers rs n || covers qs n) := by
  show (rs ++ qs).any _ = (rs.any _ || qs.any _)
  rw [List.any_append]

theorem covers_of_mem {rs : List (Nat × Nat)} {r : Nat × Nat} (mem : r ∈ rs) {n : Nat}
    (low : r.1 ≤ n) (high : n ≤ r.2) : covers rs n = true :=
  covers_iff.2 ⟨r, mem, low, high⟩

theorem inRanges_eq_covers (ranges : Array (Nat × Nat)) (n : Nat) :
    inRanges ranges n = covers ranges.toList n := by
  show inRanges ranges n = ranges.toList.any _
  rw [inRanges, Array.any_toList]

def Before (a b : Nat × Nat) : Prop := a.1 ≤ a.2 ∧ a.2 < b.1 ∧ b.1 ≤ b.2

instance : DecidableRel Before := fun _ _ => inferInstanceAs (Decidable (_ ∧ _ ∧ _))

instance : Trans Before Before Before where
  trans ab bc := ⟨ab.1, by have := bc.1; have := bc.2.1; have := ab.2.1; omega, bc.2.2⟩

/-- Ranges in increasing order and apart: each nonempty, each ending before the next begins. -/
structure Sorted (rs : List (Nat × Nat)) : Prop where
  chain : rs.IsChain Before
  proper : ∀ r ∈ rs, r.1 ≤ r.2

theorem Sorted.sublist {rs qs : List (Nat × Nat)} (sorted : Sorted qs) (sub : rs.Sublist qs) :
    Sorted rs :=
  ⟨sorted.chain.sublist sub, fun r mem => sorted.proper r (sub.subset mem)⟩

theorem Sorted.tail {b : Nat × Nat} {bs : List (Nat × Nat)} (sorted : Sorted (b :: bs)) :
    Sorted bs :=
  sorted.sublist (List.sublist_cons_self b bs)

theorem sorted_nil : Sorted [] := ⟨.nil, by simp⟩

theorem sorted_singleton {a : Nat × Nat} : Sorted [a] ↔ a.1 ≤ a.2 :=
  ⟨fun sorted => sorted.proper a List.mem_cons_self,
    fun proper => ⟨.singleton a, by simpa using proper⟩⟩

theorem sorted_cons_cons {a b : Nat × Nat} {rest : List (Nat × Nat)} :
    Sorted (a :: b :: rest) ↔ a.1 ≤ a.2 ∧ a.2 < b.1 ∧ Sorted (b :: rest) := by
  constructor
  · intro sorted
    exact ⟨sorted.proper a List.mem_cons_self, (List.isChain_cons_cons.1 sorted.chain).1.2.1,
      sorted.tail⟩
  · rintro ⟨proper, apart, sorted⟩
    have next : Before a b := ⟨proper, apart, sorted.proper b List.mem_cons_self⟩
    exact ⟨List.isChain_cons_cons.2 ⟨next, sorted.chain⟩,
      List.forall_mem_cons.2 ⟨proper, sorted.proper⟩⟩

def isSorted : List (Nat × Nat) → Bool
  | [] => true
  | [a] => a.1 ≤ a.2
  | a :: b :: rest => a.1 ≤ a.2 && a.2 < b.1 && isSorted (b :: rest)

theorem sorted_iff_isSorted (rs : List (Nat × Nat)) : Sorted rs ↔ isSorted rs = true := by
  fun_induction isSorted rs with
  | case1 => exact iff_of_true sorted_nil rfl
  | case2 a => simp [sorted_singleton]
  | case3 a b rest ih => simp [sorted_cons_cons, ih, and_assoc]

instance : DecidablePred Sorted := fun rs => decidable_of_iff _ (sorted_iff_isSorted rs).symm

theorem Sorted.append {rs qs : List (Nat × Nat)} (left : Sorted rs) (right : Sorted qs)
    (apart : ∀ r ∈ rs, ∀ q ∈ qs, r.2 < q.1) : Sorted (rs ++ qs) := by
  refine ⟨List.isChain_append.2 ⟨left.chain, right.chain, ?_⟩, ?_⟩
  · intro r last q first
    have r_mem := List.mem_of_mem_getLast? last
    have q_mem := List.mem_of_mem_head? first
    exact ⟨left.proper r r_mem, apart r r_mem q q_mem, right.proper q q_mem⟩
  · intro r mem
    rcases List.mem_append.1 mem with mem | mem
    exacts [left.proper r mem, right.proper r mem]

theorem covers_eq_false_of_le {b : Nat × Nat} {bs : List (Nat × Nat)} (sorted : Sorted (b :: bs))
    {n : Nat} (le : n ≤ b.2) : covers bs n = false := by
  rw [Bool.eq_false_iff, ne_eq, covers_iff]
  rintro ⟨r, mem, low, -⟩
  have := (sorted.chain.rel_cons mem).2.1
  omega

/-- The part of the range from `lo` to `hi` outside the sorted ranges `bs`, with the ranges of
`bs` that may still meet a later range: those that do not end before `lo`, and not the ones the
range has passed. -/
def cut (lo hi : Nat) : List (Nat × Nat) → List (Nat × Nat) × List (Nat × Nat)
  | [] => ([(lo, hi)], [])
  | (blo, bhi) :: bs =>
    if bhi < lo then cut lo hi bs
    else if hi < blo then ([(lo, hi)], (blo, bhi) :: bs)
    else
      let left := if lo < blo then [(lo, blo - 1)] else []
      if hi ≤ bhi then (left, (blo, bhi) :: bs)
      else
        let right := cut (bhi + 1) hi bs
        (left ++ right.1, right.2)

/-- The numbers of the sorted ranges `as` that the sorted ranges `bs` do not hold, in one sweep
over both. -/
def diff : List (Nat × Nat) → List (Nat × Nat) → List (Nat × Nat)
  | [], _ => []
  | (lo, hi) :: as, bs =>
    let kept := cut lo hi bs
    kept.1 ++ diff as kept.2

theorem covers_cut {lo hi : Nat} {bs : List (Nat × Nat)} (sorted : Sorted bs) (n : Nat) :
    covers (cut lo hi bs).1 n = true ↔ lo ≤ n ∧ n ≤ hi ∧ covers bs n = false := by
  fun_induction cut lo hi bs with
  | case1 => simp
  | case2 lo blo bhi bs before ih =>
    rw [ih sorted.tail, covers_cons]
    by_cases low : lo ≤ n
    · simp [low]
      omega
    · simp [low]
  | case3 lo blo bhi bs _ after =>
    have proper := sorted.proper (blo, bhi) List.mem_cons_self
    by_cases inside : lo ≤ n ∧ n ≤ hi
    · have later := covers_eq_false_of_le sorted (show n ≤ bhi by dsimp at proper; omega)
      simp [inside, later]
      omega
    · simp [inside]
      omega
  | case4 lo blo bhi bs _ _ left within =>
    simp only [left]
    by_cases high : n ≤ hi
    · have later := covers_eq_false_of_le sorted (show n ≤ bhi by omega)
      split <;> simp [later] <;> omega
    · split
      · simp [high]
        omega
      · simp [high]
  | case5 lo blo bhi bs _ _ left beyond right ih =>
    simp only [left, right]
    rw [covers_append, Bool.or_eq_true, ih sorted.tail, covers_cons]
    have proper := sorted.proper (blo, bhi) List.mem_cons_self
    by_cases low : n ≤ bhi
    · have later := covers_eq_false_of_le sorted low
      split <;> simp [later] <;> omega
    · cases covers bs n <;> split <;> simp <;> omega

theorem cut_rest {lo hi : Nat} (bs : List (Nat × Nat)) (le : lo ≤ hi) :
    ∃ passed, bs = passed ++ (cut lo hi bs).2 ∧ ∀ r ∈ passed, r.2 < hi := by
  fun_induction cut lo hi bs with
  | case1 => exact ⟨[], rfl, by simp⟩
  | case2 lo blo bhi bs before ih =>
    obtain ⟨passed, rest, below⟩ := ih le
    refine ⟨(blo, bhi) :: passed, by rw [List.cons_append, ← rest], ?_⟩
    simp only [List.mem_cons, forall_eq_or_imp]
    exact ⟨by omega, below⟩
  | case3 | case4 => exact ⟨[], rfl, by simp⟩
  | case5 lo blo bhi bs _ _ left beyond right ih =>
    obtain ⟨passed, rest, below⟩ := ih (by omega)
    refine ⟨(blo, bhi) :: passed, by rw [List.cons_append, ← rest], ?_⟩
    simp only [List.mem_cons, forall_eq_or_imp]
    exact ⟨by omega, below⟩

theorem covers_cut_rest {lo hi n : Nat} (bs : List (Nat × Nat)) (le : lo ≤ hi) (above : hi < n) :
    covers (cut lo hi bs).2 n = covers bs n := by
  obtain ⟨passed, rest, below⟩ := cut_rest bs le
  have missed : covers passed n = false := by
    rw [Bool.eq_false_iff, ne_eq, covers_iff]
    rintro ⟨r, mem, -, high⟩
    have := below r mem
    omega
  conv => rhs; rw [rest]
  rw [covers_append, missed, Bool.false_or]

theorem Sorted.cut_rest {lo hi : Nat} {bs : List (Nat × Nat)} (sorted : Sorted bs)
    (le : lo ≤ hi) : Sorted (cut lo hi bs).2 := by
  obtain ⟨passed, rest, -⟩ := JsxVNode.Text.cut_rest bs le
  rw [rest] at sorted
  exact sorted.sublist (List.sublist_append_right passed _)

theorem covers_diff {as bs : List (Nat × Nat)} (kept : Sorted as) (dropped : Sorted bs) (n : Nat) :
    covers (diff as bs) n = true ↔ covers as n = true ∧ covers bs n = false := by
  induction as generalizing bs with
  | nil => simp [diff]
  | cons a as ih =>
    obtain ⟨lo, hi⟩ := a
    have le := kept.proper (lo, hi) List.mem_cons_self
    simp only [diff]
    rw [covers_append, Bool.or_eq_true, covers_cut dropped, ih kept.tail (dropped.cut_rest le),
      covers_cons]
    by_cases later : covers as n = true
    · have above : hi < n :=
        Nat.lt_of_not_le fun low => by simp [covers_eq_false_of_le kept low] at later
      rw [covers_cut_rest bs le above]
      simp [later]
    · simp [later, and_assoc]

theorem mem_cut {lo hi : Nat} {bs : List (Nat × Nat)} (sorted : Sorted bs)
    (kept : Sorted (cut lo hi bs).1) {r : Nat × Nat} (mem : r ∈ (cut lo hi bs).1) :
    lo ≤ r.1 ∧ r.2 ≤ hi := by
  have proper := kept.proper r mem
  have first := (covers_cut sorted r.1).1 (covers_of_mem mem le_rfl proper)
  have last := (covers_cut sorted r.2).1 (covers_of_mem mem proper le_rfl)
  exact ⟨first.1, last.2.1⟩

theorem Sorted.cut {lo hi : Nat} {bs : List (Nat × Nat)} (sorted : Sorted bs) (le : lo ≤ hi) :
    Sorted (Text.cut lo hi bs).1 := by
  fun_induction Text.cut lo hi bs with
  | case1 | case3 => exact sorted_singleton.2 le
  | case2 lo blo bhi bs before ih => exact ih sorted.tail le
  | case4 lo blo bhi bs _ _ left within =>
    simp only [left]
    split
    · exact sorted_singleton.2 (by omega)
    · exact sorted_nil
  | case5 lo blo bhi bs _ _ left beyond right ih =>
    have proper := sorted.proper (blo, bhi) List.mem_cons_self
    have rest := ih sorted.tail (by omega)
    simp only [left, right]
    refine Sorted.append ?_ rest fun r mem q later => ?_
    · split
      · exact sorted_singleton.2 (by omega)
      · exact sorted_nil
    · have above := (mem_cut sorted.tail rest later).1
      split at mem
      · rw [List.mem_singleton] at mem
        subst mem
        dsimp at proper ⊢
        omega
      · simp at mem

theorem Sorted.diff {as bs : List (Nat × Nat)} (kept : Sorted as) (dropped : Sorted bs) :
    Sorted (Text.diff as bs) := by
  induction as generalizing bs with
  | nil => exact sorted_nil
  | cons a as ih =>
    obtain ⟨lo, hi⟩ := a
    have le := kept.proper (lo, hi) List.mem_cons_self
    have left := dropped.cut le
    have right := ih kept.tail (dropped.cut_rest le)
    simp only [Text.diff]
    refine Sorted.append left right fun r mem q later => ?_
    have within := mem_cut dropped left mem
    have held := (covers_diff kept.tail (dropped.cut_rest le) q.1).1
      (covers_of_mem later le_rfl (right.proper q later))
    obtain ⟨a, mem', start, -⟩ := covers_iff.1 held.1
    have past := (kept.chain.rel_cons mem').2.1
    dsimp at past within
    omega

theorem covers_eq_false_of_lt_starts {rs : List (Nat × Nat)} {m n : Nat}
    (starts : ∀ r ∈ rs, m ≤ r.1) (below : n < m) : covers rs n = false := by
  rw [Bool.eq_false_iff, ne_eq, covers_iff]
  rintro ⟨r, mem, low, -⟩
  have := starts r mem
  omega

def startingBelow (m : Nat) (rs : List (Nat × Nat)) : List (Nat × Nat) :=
  rs.takeWhile fun r => r.1 < m

theorem starts_dropWhile {rs : List (Nat × Nat)} (sorted : Sorted rs) (m : Nat) :
    ∀ r ∈ rs.dropWhile (fun r => r.1 < m), m ≤ r.1 := by
  induction rs with
  | nil => simp
  | cons a rs ih =>
    rw [List.dropWhile_cons]
    split
    · exact ih sorted.tail
    · next reached =>
      intro r mem
      rcases List.mem_cons.1 mem with rfl | mem
      · simpa using reached
      · have later := (sorted.chain.rel_cons mem).2.1
        have := sorted.proper a List.mem_cons_self
        simp only [decide_eq_true_eq, not_lt] at reached
        omega

theorem covers_startingBelow {rs : List (Nat × Nat)} (sorted : Sorted rs) {m n : Nat}
    (below : n < m) : covers (startingBelow m rs) n = covers rs n := by
  conv => rhs; rw [← @List.takeWhile_append_dropWhile _ (fun r => decide (r.1 < m)) rs]
  rw [covers_append, covers_eq_false_of_lt_starts (starts_dropWhile sorted m) below,
    Bool.or_false, startingBelow]

/-! ### The Unicode tables -/

def joinerRanges : List (Nat × Nat) := [(0x200C, 0x200D)]

def partTables : List (List (Nat × Nat)) :=
  [idContinueRanges.toList, newerIdStartRanges.toList, newerIdContinueRanges.toList, joinerRanges]

theorem tables_sorted : Sorted alphabeticRanges.toList ∧ Sorted numericRanges.toList ∧
    Sorted idStartRanges.toList ∧ ∀ t ∈ partTables, Sorted t := by
  decide +kernel

theorem alphabeticRanges_sorted : Sorted alphabeticRanges.toList := tables_sorted.1

theorem numericRanges_sorted : Sorted numericRanges.toList := tables_sorted.2.1

theorem idStartRanges_sorted : Sorted idStartRanges.toList := tables_sorted.2.2.1

theorem newerIdStartRanges_sorted : Sorted newerIdStartRanges.toList :=
  tables_sorted.2.2.2 _ (List.mem_cons_of_mem _ List.mem_cons_self)

theorem tables_ascii :
    startingBelow 0x80 alphabeticRanges.toList = [(0x41, 0x5A), (0x61, 0x7A)] ∧
      startingBelow 0x80 idStartRanges.toList = [(0x41, 0x5A), (0x61, 0x7A)] ∧
      startingBelow 0x80 numericRanges.toList = [(0x30, 0x39)] ∧
      startingBelow 0x80 idContinueRanges.toList =
        [(0x30, 0x39), (0x41, 0x5A), (0x5F, 0x5F), (0x61, 0x7A)] ∧
      startingBelow 0x80 newerIdStartRanges.toList = [] ∧
      startingBelow 0x80 newerIdContinueRanges.toList = [] := by
  decide

def startGaps : List (Nat × Nat) :=
  diff idStartRanges.toList alphabeticRanges.toList ++
    diff newerIdStartRanges.toList alphabeticRanges.toList

def nameSymbols : List (Nat × Nat) := [(0x24, 0x24), (0x2D, 0x2D), (0x5F, 0x5F)]

def partGaps : List (Nat × Nat) :=
  partTables.flatMap fun t =>
    diff (diff (diff t alphabeticRanges.toList) numericRanges.toList) nameSymbols

theorem startGaps_eq : startGaps =
    [(0x2118, 0x2118), (0x212E, 0x212E), (0x309B, 0x309C),
      (0x558, 0x558), (0x58B, 0x58C), (0x208F, 0x208F), (0x209D, 0x209F), (0xA7DD, 0xA7DD),
      (0xA7E2, 0xA7E2), (0xAB6C, 0xAB6D), (0x107BB, 0x107BC), (0x10ED9, 0x10EDA),
      (0x11B0A, 0x11B0A), (0x11DF1, 0x11DF1), (0x12475, 0x12475), (0x12550, 0x12686),
      (0x18CD6, 0x18CD7), (0x18D1F, 0x18D20), (0x18E00, 0x18E05), (0x18F00, 0x18F01),
      (0x19191, 0x19191), (0x191A0, 0x191A0), (0x191D2, 0x191D2), (0x1B123, 0x1B128),
      (0x1B168, 0x1B168), (0x1D6A6, 0x1D6A6), (0x1DF1F, 0x1DF1F), (0x1DF2B, 0x1DF2D),
      (0x1DF81, 0x1DF81), (0x1DF90, 0x1DF91), (0x1DF96, 0x1DF96), (0x1DFCD, 0x1DFCE),
      (0x1DFFF, 0x1DFFF), (0x2B81E, 0x2B81E), (0x3D000, 0x3FC3F)] := by
  decide +kernel

theorem startGaps_ascii {n : Nat} (ascii : n < 0x80) : covers startGaps n = false := by
  obtain ⟨letters, starts, -, -, newerStarts, -⟩ := tables_ascii
  rw [Bool.eq_false_iff, ne_eq, startGaps, covers_append, Bool.or_eq_true,
    covers_diff idStartRanges_sorted alphabeticRanges_sorted,
    covers_diff newerIdStartRanges_sorted alphabeticRanges_sorted,
    ← covers_startingBelow idStartRanges_sorted ascii,
    ← covers_startingBelow newerIdStartRanges_sorted ascii,
    ← covers_startingBelow alphabeticRanges_sorted ascii, letters, starts, newerStarts]
  simp
  omega

theorem covers_flatMap {α : Type} (ts : List α) (f : α → List (Nat × Nat)) (n : Nat) :
    covers (ts.flatMap f) n = true ↔ ∃ t ∈ ts, covers (f t) n = true := by
  simp only [covers_iff, List.mem_flatMap]
  constructor
  · rintro ⟨r, ⟨t, mem, inside⟩, holds⟩
    exact ⟨t, mem, r, inside, holds⟩
  · rintro ⟨t, mem, r, inside, holds⟩
    exact ⟨r, ⟨t, mem, inside⟩, holds⟩

theorem covers_partGaps (n : Nat) : covers partGaps n = true ↔
    ∃ t ∈ partTables, covers t n = true ∧ covers alphabeticRanges.toList n = false ∧
      covers numericRanges.toList n = false ∧ covers nameSymbols n = false := by
  rw [partGaps, covers_flatMap]
  refine exists_congr fun t => and_congr_right fun mem => ?_
  have table := tables_sorted.2.2.2 t mem
  have lessLetters := table.diff alphabeticRanges_sorted
  rw [covers_diff (lessLetters.diff numericRanges_sorted) (by decide) n,
    covers_diff lessLetters numericRanges_sorted n, covers_diff table alphabeticRanges_sorted n]
  simp only [and_assoc]

theorem partGaps_ascii {n : Nat} (ascii : n < 0x80) : covers partGaps n = false := by
  obtain ⟨letters, -, numbers, parts, newerStarts, newerParts⟩ := tables_ascii
  rw [Bool.eq_false_iff, ne_eq, covers_partGaps]
  rintro ⟨t, mem, held, noLetter, noNumber, noSymbol⟩
  rw [← covers_startingBelow alphabeticRanges_sorted ascii, letters] at noLetter
  rw [← covers_startingBelow numericRanges_sorted ascii, numbers] at noNumber
  rw [← covers_startingBelow (tables_sorted.2.2.2 t mem) ascii] at held
  simp only [partTables, List.mem_cons, List.not_mem_nil, or_false] at mem
  rcases mem with rfl | rfl | rfl | rfl
  · rw [parts] at held
    simp [nameSymbols] at held noLetter noNumber noSymbol
    omega
  · simp [newerStarts] at held
  · simp [newerParts] at held
  · simp [joinerRanges, startingBelow] at held

/-! ### Characters -/

theorem ne_of_not_ascii {c d : Char} (ascii : ¬c.toNat < 0x80) (small : d.toNat < 0x80) :
    (c == d) = false := by
  rw [beq_eq_false_iff_ne]
  rintro rfl
  exact ascii small

theorem nameStart_iff {c : Char} (start : isIdentStart c = true) :
    (isAlphabetic c || c == '_' || c == '$') = true ↔ covers startGaps c.toNat = false := by
  unfold isIdentStart at start
  unfold isAlphabetic
  by_cases ascii : c.toNat < 0x80
  · rw [if_pos ascii] at start ⊢
    rw [startGaps_ascii ascii]
    simp only [Bool.or_eq_true, iff_true] at start ⊢
    tauto
  · rw [if_neg ascii] at start ⊢
    rw [ne_of_not_ascii ascii (by decide), ne_of_not_ascii ascii (by decide), Bool.or_false,
      Bool.or_false, startGaps, ← Bool.not_eq_true, covers_append, Bool.or_eq_true,
      covers_diff idStartRanges_sorted alphabeticRanges_sorted,
      covers_diff newerIdStartRanges_sorted alphabeticRanges_sorted, inRanges_eq_covers]
    rw [inRanges_eq_covers, inRanges_eq_covers] at start
    cases covers alphabeticRanges.toList c.toNat <;> simp_all

theorem namePart_iff {c : Char} (part : (isIdentPart c || c == '-') = true) :
    (isAlphanumeric c || c == '_' || c == '$' || c == '-') = true ↔
      covers partGaps c.toNat = false := by
  unfold isIdentPart at part
  unfold isAlphanumeric isAlphabetic isNumeric
  by_cases ascii : c.toNat < 0x80
  · rw [if_pos ascii] at part
    rw [if_pos ascii, if_pos ascii, partGaps_ascii ascii]
    simp only [Char.isAlphanum, Bool.or_eq_true, iff_true] at part ⊢
    tauto
  · rw [if_neg ascii] at part
    rw [if_neg ascii, if_neg ascii, ne_of_not_ascii ascii (by decide),
      ne_of_not_ascii ascii (by decide), ne_of_not_ascii ascii (by decide), Bool.or_false,
      Bool.or_false, Bool.or_false, ← Bool.not_eq_true, covers_partGaps, inRanges_eq_covers,
      inRanges_eq_covers]
    rw [ne_of_not_ascii ascii (by decide), Bool.or_false] at part
    rw [inRanges_eq_covers, inRanges_eq_covers, inRanges_eq_covers] at part
    have symbols : covers nameSymbols c.toNat = false := by simp [nameSymbols]; omega
    have held : ∃ t ∈ partTables, covers t c.toNat = true := by
      simp only [Bool.or_eq_true, beq_iff_eq] at part
      rcases part with (((joiner | joiner) | table) | table) | table
      · exact ⟨joinerRanges, by simp [partTables], by simp [joinerRanges, joiner]⟩
      · exact ⟨joinerRanges, by simp [partTables], by simp [joinerRanges, joiner]⟩
      · exact ⟨_, by simp [partTables], table⟩
      · exact ⟨_, by simp [partTables], table⟩
      · exact ⟨_, by simp [partTables], table⟩
    constructor
    · rintro known ⟨t, -, -, noLetter, noNumber, -⟩
      rw [noLetter, noNumber] at known
      exact absurd known (by decide)
    · intro none
      by_contra neither
      simp only [Bool.or_eq_true, not_or, Bool.not_eq_true] at neither
      obtain ⟨t, mem, holds⟩ := held
      exact none ⟨t, mem, holds, neither.1, neither.2, symbols⟩

end Text

/-! ### Names -/

/-- Whether a name part is a markup identifier: an identifier start, then identifier parts and
dashes. -/
def isMarkupIdentifier (s : String) : Bool :=
  match s.toList with
  | c :: rest => Text.isIdentStart c && rest.all fun d => Text.isIdentPart d || d == '-'
  | [] => false

/-- Whether a name part has a character in a gap: its first in a start gap, or a later one in a
part gap. -/
def hasNameGap (s : String) : Bool :=
  match s.toList with
  | c :: rest =>
    Text.covers Text.startGaps c.toNat || rest.any fun d => Text.covers Text.partGaps d.toNat
  | [] => false

theorem isNamePart_iff {s : String} (markup : isMarkupIdentifier s = true) :
    isNamePart s = true ↔ hasNameGap s = false := by
  cases spelled : s.toList with
  | nil => simp [isMarkupIdentifier, spelled] at markup
  | cons c rest =>
    simp only [isMarkupIdentifier, spelled, Bool.and_eq_true, List.all_eq_true] at markup
    simp only [isNamePart, hasNameGap, spelled, Bool.and_eq_true, List.all_eq_true,
      Bool.or_eq_false_iff, List.any_eq_false, Bool.not_eq_true]
    rw [Text.nameStart_iff markup.1]
    exact and_congr_right fun _ =>
      forall₂_congr fun d mem => Text.namePart_iff (markup.2 d mem)

def AttrName.parts : AttrName → List String
  | .plain n => [n]
  | .namespaced ns n => [ns, n]

def AttrName.spelling : AttrName → String
  | .plain n => n
  | .namespaced ns n => ns ++ ":" ++ n

theorem AttrName.resolve_eq (name : AttrName) (loc : Location) :
    name.resolve loc = if ∀ part ∈ name.parts, isNamePart part = true then .ok name.spelling
      else .error (.found (.malformedName name.spelling) loc) := by
  cases name with
  | plain n => simp [resolve, parts, spelling]
  | namespaced ns n => simp [resolve, parts, spelling]

theorem grave_accent_isMarkupIdentifier : isMarkupIdentifier "a\u0300" = true := by
  simp only [isMarkupIdentifier, Text.isIdentStart, Text.isIdentPart, Text.inRanges_eq_covers]
  decide

/-- Among the names the markup grammar admits, those refused are exactly those with a character
in a gap. -/
theorem AttrName.resolve_markup (name : AttrName) (loc : Location)
    (markup : ∀ part ∈ name.parts, isMarkupIdentifier part = true) :
    name.resolve loc = if ∀ part ∈ name.parts, hasNameGap part = false then .ok name.spelling
      else .error (.found (.malformedName name.spelling) loc) := by
  have same : (∀ part ∈ name.parts, isNamePart part = true) ↔
      ∀ part ∈ name.parts, hasNameGap part = false :=
    forall₂_congr fun part mem => isNamePart_iff (markup part mem)
  rw [AttrName.resolve_eq]
  simp only [same]

theorem resolve_markup_combining_mark :
    (∀ part ∈ (AttrName.namespaced "svg" "a\u0300").parts, isMarkupIdentifier part = true) ∧
      (AttrName.namespaced "svg" "a\u0300").resolve ⟨1, 16⟩ =
        if ∀ part ∈ (AttrName.namespaced "svg" "a\u0300").parts, hasNameGap part = false then
          .ok (AttrName.namespaced "svg" "a\u0300").spelling
        else
          .error (.found (.malformedName (AttrName.namespaced "svg" "a\u0300").spelling) ⟨1, 16⟩) := by
  have markup : ∀ part ∈ (AttrName.namespaced "svg" "a\u0300").parts,
      isMarkupIdentifier part = true := by
    simp only [AttrName.parts, List.mem_cons, List.not_mem_nil, or_false, forall_eq_or_imp,
      forall_eq]
    exact ⟨by decide, grave_accent_isMarkupIdentifier⟩
  exact ⟨markup, AttrName.resolve_markup _ _ markup⟩

/-- A letter followed by a combining mark is an identifier of the markup grammar, and no
attribute name. -/
theorem combining_mark_name_refused :
    isMarkupIdentifier "a\u0300" = true ∧
      (AttrName.plain "a\u0300").resolve ⟨1, 16⟩ =
        .error (.found (.malformedName "a\u0300") ⟨1, 16⟩) := by
  refine ⟨grave_accent_isMarkupIdentifier, ?_⟩
  have refused : ¬∀ part ∈ (AttrName.plain "a\u0300").parts, isNamePart part = true := by
    simp only [isNamePart, Text.isAlphanumeric, Text.isAlphabetic, Text.isNumeric,
      Text.inRanges_eq_covers]
    decide +kernel
  rw [AttrName.resolve_eq, if_neg refused]
  rfl

end JsxVNode
