import JsxVNode.Text.Lines
import Mathlib.Data.List.TakeWhile
/-!
What collapsing a run of markup text does to its characters. Cutting into lines drops exactly
the line break characters; trimming a line drops only spaces and tabs; joining adds only spaces.
So the collapsed text has no line break, and once spacing is deleted it is the raw text with its
spacing deleted. Text on one line is kept as it is, which makes collapsing idempotent, and the
result is empty exactly when the run is empty or is spacing spread over several lines.
-/
namespace JsxVNode.Text

def isBreak (c : Char) : Bool := c == '\r' || c == '\n'

def isSpacing (c : Char) : Bool := isIndent c || isBreak c

/-! ### Lines -/

theorem flatten_lines (cs : List Char) : (lines cs).flatten = cs.filter (!isBreak ·) := by
  fun_induction lines cs with
  | case1 => rfl
  | case2 rest ih => simpa [isBreak] using ih
  | case3 rest ih => simpa [isBreak] using ih
  | case4 rest _ ih => simpa [isBreak] using ih
  | case5 c rest _ _ _ none => exact absurd none (lines_ne_nil rest)
  | case6 c rest _ newline ret l ls split ih =>
    rw [split] at ih
    simp_all [isBreak]

theorem isBreak_of_mem_lines {cs line : List Char} (mem : line ∈ lines cs) {c : Char}
    (hc : c ∈ line) : isBreak c = false := by
  have : c ∈ (lines cs).flatten := List.mem_flatten.mpr ⟨line, mem, hc⟩
  rw [flatten_lines] at this
  simpa using (List.mem_filter.mp this).2

theorem lines_cons {c : Char} (hc : isBreak c = false) (rest : List Char) :
    ∃ l ls, lines rest = l :: ls ∧ lines (c :: rest) = (c :: l) :: ls := by
  simp only [isBreak, Bool.or_eq_false_iff, beq_eq_false_iff_ne, ne_eq] at hc
  cases split : lines rest with
  | nil => exact absurd split (lines_ne_nil rest)
  | cons l ls =>
    refine ⟨l, ls, rfl, ?_⟩
    rw [lines.eq_5 c rest (fun _ h => absurd h hc.1) hc.2 hc.1, split]

theorem lines_of_no_break {cs : List Char} (h : ∀ c ∈ cs, isBreak c = false) :
    lines cs = [cs] := by
  induction cs with
  | nil => rfl
  | cons c rest ih =>
    obtain ⟨l, ls, split, step⟩ := lines_cons (h c List.mem_cons_self) rest
    rw [ih fun c' mem => h c' (List.mem_cons_of_mem c mem)] at split
    cases split
    exact step

theorem one_lt_length_lines {cs : List Char} (h : ∃ c ∈ cs, isBreak c = true) :
    1 < (lines cs).length := by
  fun_induction lines cs with
  | case1 => simp at h
  | case2 rest ih | case3 rest ih | case4 rest _ ih =>
    have := lines_ne_nil rest
    cases hl : lines rest <;> simp_all
  | case5 c rest _ _ _ none => exact absurd none (lines_ne_nil rest)
  | case6 c rest _ newline ret l ls split ih =>
    obtain ⟨d, mem, hd⟩ := h
    have later : ∃ c ∈ rest, isBreak c = true := by
      rcases List.mem_cons.mp mem with rfl | mem
      · simp_all [isBreak]
      · exact ⟨d, mem, hd⟩
    have := ih later
    rw [split] at this
    simpa using this

/-! ### Trimming a line -/

theorem trimLine_cases (first last : Bool) (line : List Char) :
    trimLine first last line =
      (if last then id else fun l => (l.reverse.dropWhile isIndent).reverse)
        (if first then line else line.dropWhile isIndent) := by
  cases first <;> cases last <;> rfl

theorem filter_dropWhile_indent (line : List Char) :
    (line.dropWhile isIndent).filter (!isSpacing ·) = line.filter (!isSpacing ·) := by
  have dropped : (line.takeWhile isIndent).filter (!isSpacing ·) = [] := by
    refine List.filter_eq_nil_iff.mpr fun c mem => ?_
    simp [isSpacing, List.mem_takeWhile_imp mem]
  calc (line.dropWhile isIndent).filter (!isSpacing ·)
      = (line.takeWhile isIndent).filter (!isSpacing ·) ++
          (line.dropWhile isIndent).filter (!isSpacing ·) := by rw [dropped, List.nil_append]
    _ = line.filter (!isSpacing ·) := by rw [← List.filter_append, List.takeWhile_append_dropWhile]

theorem filter_dropLastWhile_indent (line : List Char) :
    (line.reverse.dropWhile isIndent).reverse.filter (!isSpacing ·) =
      line.filter (!isSpacing ·) := by
  rw [List.filter_reverse, filter_dropWhile_indent, List.filter_reverse, List.reverse_reverse]

theorem trimLine_sublist (first last : Bool) (line : List Char) :
    (trimLine first last line).Sublist line := by
  have front : (if first then line else line.dropWhile isIndent).Sublist line := by
    split
    · exact List.Sublist.refl line
    · exact (List.dropWhile_suffix isIndent).sublist
  rw [trimLine_cases]
  split
  · exact front
  · refine List.Sublist.trans ?_ front
    rw [← List.reverse_sublist, List.reverse_reverse]
    exact (List.dropWhile_suffix isIndent).sublist

theorem filter_trimLine (first last : Bool) (line : List Char) :
    (trimLine first last line).filter (!isSpacing ·) = line.filter (!isSpacing ·) := by
  have front : (if first then line else line.dropWhile isIndent).filter (!isSpacing ·) =
      line.filter (!isSpacing ·) := by
    split
    · rfl
    · exact filter_dropWhile_indent line
  rw [trimLine_cases]
  split
  · exact front
  · exact (filter_dropLastWhile_indent _).trans front

theorem trimLine_eq_nil {first last : Bool} (inner : first = false ∨ last = false)
    {line : List Char} (indent : ∀ c ∈ line, isIndent c = true) :
    trimLine first last line = [] := by
  have dropped : line.dropWhile isIndent = [] := List.dropWhile_eq_nil_iff.mpr indent
  have back : line.reverse.dropWhile isIndent = [] :=
    List.dropWhile_eq_nil_iff.mpr fun c mem => indent c (List.mem_reverse.mp mem)
  rcases inner with rfl | rfl
  · cases last <;> simp [trimLine_cases, dropped]
  · cases first <;> simp [trimLine_cases, dropped, back]

/-! ### Kept lines and the joined text -/

theorem mem_keptLines {ls : List (List Char)} {kept : List Char} (mem : kept ∈ keptLines ls) :
    kept ≠ [] ∧ ∃ line ∈ ls, kept.Sublist line := by
  simp only [keptLines, List.mem_filter, List.mem_map, decide_eq_true_eq] at mem
  obtain ⟨⟨⟨line, i⟩, pair, rfl⟩, nonempty⟩ := mem
  refine ⟨nonempty, line, ?_, trimLine_sublist _ _ line⟩
  rw [← List.zipIdx_map_fst 0 ls]
  exact List.mem_map_of_mem pair

theorem filter_flatten_keptLines (ls : List (List Char)) :
    (keptLines ls).flatten.filter (!isSpacing ·) = ls.flatten.filter (!isSpacing ·) := by
  simp only [keptLines, List.flatten_filter_ne_nil, List.filter_flatten, List.map_map]
  conv => rhs; rw [← List.zipIdx_map_fst 0 ls, List.map_map]
  congr 1
  apply List.map_congr_left
  intro p _
  exact filter_trimLine _ _ p.1

theorem keptLines_single (line : List Char) : keptLines [line] = [line].filter (· ≠ []) := by
  simp [keptLines, trimLine]

theorem keptLines_eq_nil {ls : List (List Char)} (several : 1 < ls.length)
    (indent : ∀ line ∈ ls, ∀ c ∈ line, isIndent c = true) : keptLines ls = [] := by
  simp only [keptLines, List.filter_eq_nil_iff, List.mem_map, decide_eq_true_eq, not_not]
  rintro _ ⟨⟨line, i⟩, pair, rfl⟩
  -- no line is both the first and the last, so each loses its indentation on one side
  have inner : (i == 0) = false ∨ (i + 1 == ls.length) = false := by
    by_cases h : i = 0
    · right
      rw [h, beq_eq_false_iff_ne]
      omega
    · left
      simpa using h
  have mem : line ∈ ls := by
    rw [← List.zipIdx_map_fst 0 ls]
    exact List.mem_map_of_mem pair
  exact trimLine_eq_nil inner (indent line mem)

theorem filter_intercalate {sep : List Char} {p : Char → Bool} (hp : ∀ c ∈ sep, p c = false)
    (L : List (List Char)) : (sep.intercalate L).filter p = L.flatten.filter p := by
  induction L with
  | nil => rfl
  | cons l L ih =>
    cases L with
    | nil => simp
    | cons l' L =>
      have gone : sep.filter p = [] := List.filter_eq_nil_iff.mpr fun c mem => by simp [hp c mem]
      rw [List.intercalate_cons_cons, List.filter_append, List.filter_append, ih, gone]
      simp

theorem mem_intercalate {sep : List Char} {L : List (List Char)} {c : Char}
    (mem : c ∈ sep.intercalate L) : c ∈ sep ∨ ∃ l ∈ L, c ∈ l := by
  induction L with
  | nil => simp at mem
  | cons l L ih =>
    cases L with
    | nil => simp at mem; exact .inr ⟨l, List.mem_cons_self, mem⟩
    | cons l' L =>
      rw [List.intercalate_cons_cons] at mem
      rcases List.mem_append.mp mem with mem | mem
      · rcases List.mem_append.mp mem with mem | mem
        · exact .inr ⟨l, List.mem_cons_self, mem⟩
        · exact .inl mem
      · rcases ih mem with here | ⟨l'', inL, mem⟩
        · exact .inl here
        · exact .inr ⟨l'', List.mem_cons_of_mem l inL, mem⟩

theorem toList_collapse (raw : String) :
    (collapse raw).toList = [' '].intercalate (keptLines (lines raw.toList)) := by
  simp [collapse, String.toList_intercalate, List.map_map]

/-! ### Collapsing -/

theorem isBreak_of_mem_collapse (raw : String) {c : Char} (mem : c ∈ (collapse raw).toList) :
    isBreak c = false := by
  rw [toList_collapse] at mem
  rcases mem_intercalate mem with space | ⟨kept, hk, mem⟩
  · simp [List.mem_singleton.mp space, isBreak]
  · obtain ⟨-, line, hl, sub⟩ := mem_keptLines hk
    exact isBreak_of_mem_lines hl (sub.subset mem)

theorem filter_collapse (raw : String) :
    (collapse raw).toList.filter (!isSpacing ·) = raw.toList.filter (!isSpacing ·) := by
  have space : ∀ c ∈ [' '], (!isSpacing c) = false := by simp [isSpacing, isIndent]
  rw [toList_collapse, filter_intercalate space, filter_flatten_keptLines, flatten_lines,
    List.filter_filter]
  congr 1
  funext c
  cases h : isBreak c <;> simp [isSpacing, h]

theorem collapse_of_no_break {raw : String} (h : ∀ c ∈ raw.toList, isBreak c = false) :
    collapse raw = raw := by
  apply String.toList_injective
  rw [toList_collapse, lines_of_no_break h, keptLines_single]
  by_cases empty : raw.toList = []
  · simp [empty]
  · simp [empty]

theorem collapse_collapse (raw : String) : collapse (collapse raw) = collapse raw :=
  collapse_of_no_break fun _ => isBreak_of_mem_collapse raw

theorem collapse_eq_empty_iff (raw : String) :
    collapse raw = "" ↔
      raw = "" ∨ (∃ c ∈ raw.toList, isBreak c = true) ∧ ∀ c ∈ raw.toList, isSpacing c = true := by
  constructor
  · intro empty
    by_cases broken : ∃ c ∈ raw.toList, isBreak c = true
    · -- every character that is no spacing would survive into the empty result
      refine .inr ⟨broken, fun c mem => ?_⟩
      have kept := filter_collapse raw
      rw [empty, String.toList_empty, List.filter_nil, eq_comm, List.filter_eq_nil_iff] at kept
      simpa using kept c mem
    · simp only [not_exists, not_and, Bool.not_eq_true] at broken
      exact .inl ((collapse_of_no_break broken).symm.trans empty)
  · rintro (rfl | ⟨broken, spacing⟩)
    · rfl
    · apply String.toList_injective
      have indent : ∀ line ∈ lines raw.toList, ∀ c ∈ line, isIndent c = true := by
        intro line hl c hc
        have inRaw : c ∈ raw.toList := by
          have : c ∈ (lines raw.toList).flatten := List.mem_flatten.mpr ⟨line, hl, hc⟩
          rw [flatten_lines] at this
          exact (List.mem_filter.mp this).1
        have := spacing c inRaw
        simpa [isSpacing, isBreak_of_mem_lines hl hc] using this
      rw [toList_collapse, keptLines_eq_nil (one_lt_length_lines broken) indent]
      rfl

/-- Collapsing markup text changes nothing but spacing: it leaves no line break, keeps every
other character in order, keeps text on one line as it is, is idempotent, and gives nothing
exactly for an empty run or spacing over several lines. -/
theorem collapse_changes_only_spacing (raw : String) :
    (∀ c ∈ (collapse raw).toList, isBreak c = false) ∧
    (collapse raw).toList.filter (!isSpacing ·) = raw.toList.filter (!isSpacing ·) ∧
    ((∀ c ∈ raw.toList, isBreak c = false) → collapse raw = raw) ∧
    collapse (collapse raw) = collapse raw ∧
    (collapse raw = "" ↔
      raw = "" ∨ (∃ c ∈ raw.toList, isBreak c = true) ∧ ∀ c ∈ raw.toList, isSpacing c = true) :=
  ⟨fun _ => isBreak_of_mem_collapse raw, filter_collapse raw, collapse_of_no_break,
    collapse_collapse raw, collapse_eq_empty_iff raw⟩

example : collapse "\n    first line  \n    second\t\n  " = "first line second" := by decide

end JsxVNode.Text
