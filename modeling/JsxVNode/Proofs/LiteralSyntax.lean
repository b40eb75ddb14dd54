import JsxVNode.Proofs.LiteralReading
import Mathlib.Data.List.TakeWhile
import Mathlib.Algebra.Group.Nat.Defs
/-!
What the reader of literals accepts, measured against the lexical grammar of scripts. The
reader looks at one token inside parentheses that match (`Wrapped`). A number it reads is an
optional minus and a `DecimalLiteral` of strict mode, or a `LegacyDecimal` with a leading zero,
which no strict-mode `NumericLiteral` is and of which only some are numeric literals outside
strict mode (`SloppyNumericLiteral`). A quoted text it reads closes only at
its end, and wherever the grammar gives the body a string value (`StringValue`), the string read
is that value. `literal_reading_sound` gathers the three.
-/
namespace JsxVNode

open Text

/-! ### One token inside parentheses -/

/-- Text that is `t` inside some pairs of parentheses, with blanks around `t` and around each
pair. -/
inductive Wrapped (t : List Char) : List Char → Prop
  | bare {lead trail : List Char} : (∀ c ∈ lead, isBlank c = true) →
      (∀ c ∈ trail, isBlank c = true) → Wrapped t (lead ++ t ++ trail)
  | paren {lead trail inner : List Char} : (∀ c ∈ lead, isBlank c = true) →
      (∀ c ∈ trail, isBlank c = true) → Wrapped t inner →
      Wrapped t (lead ++ ('(' :: inner ++ [')']) ++ trail)

theorem Wrapped.self (t : List Char) : Wrapped t t := by
  simpa using @Wrapped.bare t [] [] (by simp) (by simp)

theorem Wrapped.pad {t x lead trail : List Char} (w : Wrapped t x)
    (blankLead : ∀ c ∈ lead, isBlank c = true) (blankTrail : ∀ c ∈ trail, isBlank c = true) :
    Wrapped t (lead ++ x ++ trail) := by
  cases w with
  | bare l r =>
    have := @Wrapped.bare t (lead ++ _) (_ ++ trail) (List.forall_mem_append.mpr ⟨blankLead, l⟩)
      (List.forall_mem_append.mpr ⟨r, blankTrail⟩)
    simpa only [List.append_assoc] using this
  | paren l r inner =>
    have := @Wrapped.paren t (lead ++ _) (_ ++ trail) _
      (List.forall_mem_append.mpr ⟨blankLead, l⟩) (List.forall_mem_append.mpr ⟨r, blankTrail⟩)
      inner
    simpa only [List.append_assoc] using this

theorem Wrapped.enclose {t inner : List Char} (w : Wrapped t inner) :
    Wrapped t ('(' :: (inner ++ [')'])) := by
  simpa using @Wrapped.paren t [] [] inner (by simp) (by simp) w

theorem Text.trimBlank_surround (cs : List Char) :
    ∃ lead trail, cs = lead ++ trimBlank cs ++ trail ∧ (∀ c ∈ lead, isBlank c = true) ∧
      ∀ c ∈ trail, isBlank c = true := by
  refine ⟨cs.takeWhile isBlank, (cs.dropWhile isBlank).rtakeWhile isBlank, ?_,
    fun _ mem => List.mem_takeWhile_imp mem, fun _ mem => List.mem_rtakeWhile_imp mem⟩
  rw [trimBlank_eq_rdropWhile, List.append_assoc, List.rdropWhile_append_rtakeWhile,
    List.takeWhile_append_dropWhile]

theorem wrapped_stripParens (cs : List Char) : Wrapped (stripParens cs) cs := by
  fun_induction stripParens cs with
  | case1 rest closed _ ih =>
    obtain ⟨inner, rfl⟩ := List.getLast?_eq_some_iff.mp (by simpa using closed)
    rw [List.dropLast_concat] at ih ⊢
    obtain ⟨lead, trail, whole, blankLead, blankTrail⟩ := trimBlank_surround inner
    have := (ih.pad blankLead blankTrail).enclose
    rwa [← whole] at this
  | case2 => exact Wrapped.self _
  | case3 => exact Wrapped.self _

theorem wrapped_literalText (code : String) : Wrapped (literalText code) code.toList := by
  obtain ⟨lead, trail, whole, blankLead, blankTrail⟩ := trimBlank_surround code.toList
  rw [whole]
  exact (wrapped_stripParens _).pad blankLead blankTrail

/-! ### Numeric literals -/

def separatedDigits (isDigit : Char → Bool) : List Char → Bool
  | [d] => isDigit d
  | d :: '_' :: rest => isDigit d && separatedDigits isDigit rest
  | d :: rest => isDigit d && separatedDigits isDigit rest
  | [] => false

def decimalDigits : List Char → Bool := separatedDigits Char.isDigit

/-- An integer part as strict mode admits it: `0`, or a digit other than `0` followed by
decimal digits, possibly after a separator. -/
def decimalIntegerLiteral : List Char → Bool
  | ['0'] => true
  | d :: rest => d.isDigit && d != '0' &&
      (rest.isEmpty || decimalDigits rest || rest.head? == some '_' && decimalDigits rest.tail)
  | [] => false

def exponentPart : List Char → Bool
  | e :: rest => (e == 'e' || e == 'E') &&
      (decimalDigits rest ||
        (rest.head? == some '+' || rest.head? == some '-') && decimalDigits rest.tail)
  | [] => false

/-- A decimal literal: an integer part, a point, optional digits and an optional exponent; a
point, digits and an optional exponent; or an integer part and an optional exponent. -/
inductive DecimalLiteral : List Char → Prop
  | point {i f e : List Char} : decimalIntegerLiteral i = true →
      (f = [] ∨ decimalDigits f = true) → (e = [] ∨ exponentPart e = true) →
      DecimalLiteral (i ++ '.' :: (f ++ e))
  | fraction {f e : List Char} : decimalDigits f = true → (e = [] ∨ exponentPart e = true) →
      DecimalLiteral ('.' :: (f ++ e))
  | integer {i e : List Char} : decimalIntegerLiteral i = true →
      (e = [] ∨ exponentPart e = true) → DecimalLiteral (i ++ e)

def radixBase (letter : Char) : Option Nat :=
  if letter == 'b' || letter == 'B' then some 2
  else if letter == 'o' || letter == 'O' then some 8
  else if letter == 'x' || letter == 'X' then some 16
  else none

/-- A numeric literal of strict mode: a decimal literal, a decimal big integer, or an integer in
base 2, 8 or 16 with an optional big-integer suffix `n`. -/
inductive NumericLiteral : List Char → Prop
  | decimal {cs : List Char} : DecimalLiteral cs → NumericLiteral cs
  | bigInt {i : List Char} : decimalIntegerLiteral i = true → NumericLiteral (i ++ ['n'])
  | radix {letter : Char} {base : Nat} {ds suffix : List Char} : radixBase letter = some base →
      separatedDigits (fun c => (digitValue base c).isSome) ds = true →
      (suffix = [] ∨ suffix = ['n']) → NumericLiteral ('0' :: letter :: (ds ++ suffix))

def LegacyZero (d : List Char) : Prop := ∃ x rest, d = '0' :: x :: rest ∧ x.isDigit = true

/-- A decimal whose integer part is a `0` followed by more digits, then what may follow the
integer part of a `DecimalLiteral`: a point with optional digits, and an optional exponent. -/
inductive LegacyDecimal : List Char → Prop
  | point {ds f e : List Char} : ds ≠ [] → ds.all Char.isDigit = true →
      (f = [] ∨ decimalDigits f = true) → (e = [] ∨ exponentPart e = true) →
      LegacyDecimal ('0' :: (ds ++ '.' :: (f ++ e)))
  | integer {ds e : List Char} : ds ≠ [] → ds.all Char.isDigit = true →
      (e = [] ∨ exponentPart e = true) → LegacyDecimal ('0' :: (ds ++ e))

def isOctalDigit (c : Char) : Bool := '0' ≤ c && c ≤ '7'

/-- The numeric literals that scripts outside strict mode admit beyond those of strict mode: a
`0` and more octal digits, and a legacy decimal whose integer part holds an `8` or a `9`. -/
inductive SloppyNumericLiteral : List Char → Prop
  | octal {ds : List Char} : ds ≠ [] → ds.all isOctalDigit = true →
      SloppyNumericLiteral ('0' :: ds)
  | nonOctal {ds r : List Char} : ds.all Char.isDigit = true →
      ds.any (fun c => c == '8' || c == '9') = true → LegacyDecimal ('0' :: (ds ++ r)) →
      SloppyNumericLiteral ('0' :: (ds ++ r))

theorem separatedDigits_of_all {p : Char → Bool} (separator : p '_' = false) :
    ∀ {ds : List Char}, ds ≠ [] → ds.all p = true → separatedDigits p ds = true
  | [d], _, all => by simpa [separatedDigits] using all
  | d :: e :: rest, _, all => by
    simp only [List.all_cons, Bool.and_eq_true] at all
    have ne : e ≠ '_' := by rintro rfl; simp [separator] at all
    rw [separatedDigits.eq_3 p d (e :: rest) (List.cons_ne_nil e rest)
      (fun r h => ne (List.cons.inj h).1), all.1,
      separatedDigits_of_all separator (List.cons_ne_nil e rest) (by simp [all.2.1, all.2.2])]
    rfl

theorem decimalDigits_of_isDigits {ds : List Char} (h : isDigits ds = true) :
    decimalDigits ds = true := by
  simp only [isDigits, Bool.and_eq_true, Bool.not_eq_true', List.isEmpty_eq_false_iff] at h
  exact separatedDigits_of_all (by decide) h.1 h.2

theorem exponentPart_of_isExponent {e : List Char} (h : isExponent e = true) :
    exponentPart e = true := by
  cases e with
  | nil => cases h
  | cons x rest =>
    rw [isExponent.eq_def, Bool.and_eq_true] at h
    obtain ⟨letter, digits⟩ := h
    rw [exponentPart, letter, Bool.true_and]
    split at digits
    · simp [decimalDigits_of_isDigits digits]
    · simp [decimalDigits_of_isDigits digits]
    · simp [decimalDigits_of_isDigits digits]

theorem exponent_of_tail {e : List Char} (h : (e.isEmpty || isExponent e) = true) :
    e = [] ∨ exponentPart e = true := by
  simp only [Bool.or_eq_true, List.isEmpty_iff] at h
  exact h.imp id exponentPart_of_isExponent

theorem decimalIntegerLiteral_of_digits {i : List Char} (nonempty : i ≠ [])
    (digits : i.all Char.isDigit = true) (notLegacy : ¬LegacyZero i) :
    decimalIntegerLiteral i = true := by
  obtain ⟨d, rest, rfl⟩ := List.exists_cons_of_ne_nil nonempty
  simp only [List.all_cons, Bool.and_eq_true] at digits
  obtain ⟨digit, restDigits⟩ := digits
  by_cases zero : d = '0'
  · subst zero
    cases rest with
    | nil => rfl
    | cons x more =>
      exact absurd ⟨x, more, rfl, List.all_eq_true.mp restDigits x List.mem_cons_self⟩ notLegacy
  · have tail : rest.isEmpty = true ∨ decimalDigits rest = true := by
      cases rest with
      | nil => exact Or.inl rfl
      | cons x more => exact Or.inr (decimalDigits_of_isDigits (by simp [isDigits, restDigits]))
    rw [decimalIntegerLiteral.eq_2 d rest (fun h => absurd h zero)]
    rcases tail with tail | tail <;> simp [digit, zero, tail]

theorem drop_length_takeWhile (p : Char → Bool) (l : List Char) :
    l.drop (l.takeWhile p).length = l.dropWhile p := by
  have := (List.drop_left : (l.takeWhile p ++ l.dropWhile p).drop (l.takeWhile p).length = _)
  rwa [List.takeWhile_append_dropWhile] at this

theorem fraction_parts {r : List Char}
    (tail : ((r.drop (r.takeWhile Char.isDigit).length).isEmpty ||
      isExponent (r.drop (r.takeWhile Char.isDigit).length)) = true) :
    r = r.takeWhile Char.isDigit ++ r.drop (r.takeWhile Char.isDigit).length ∧
      (r.takeWhile Char.isDigit ≠ [] → decimalDigits (r.takeWhile Char.isDigit) = true) ∧
      (r.drop (r.takeWhile Char.isDigit).length = [] ∨
        exponentPart (r.drop (r.takeWhile Char.isDigit).length) = true) := by
  refine ⟨?_, fun ne => decimalDigits_of_isDigits ?_, exponent_of_tail tail⟩
  · rw [drop_length_takeWhile, List.takeWhile_append_dropWhile]
  · simp [isDigits, ne, List.all_takeWhile]

theorem decimal_of_point {i r : List Char} (integer : i ≠ [] → decimalIntegerLiteral i = true)
    (mantissa : (!i.isEmpty || !(r.takeWhile Char.isDigit).isEmpty) = true)
    (tail : ((r.drop (r.takeWhile Char.isDigit).length).isEmpty ||
      isExponent (r.drop (r.takeWhile Char.isDigit).length)) = true) :
    DecimalLiteral (i ++ '.' :: r) := by
  obtain ⟨fraction, fracDigits, exponent⟩ := fraction_parts tail
  rw [fraction]
  by_cases none : i = []
  · subst none
    simp only [List.isEmpty_nil, Bool.not_true, Bool.false_or, Bool.not_eq_true',
      List.isEmpty_eq_false_iff] at mantissa
    exact .fraction (fracDigits mantissa) exponent
  · refine .point (integer none) ?_ exponent
    by_cases empty : r.takeWhile Char.isDigit = []
    · exact Or.inl empty
    · exact Or.inr (fracDigits empty)

theorem legacy_of_point {ds r : List Char} (nonempty : ds ≠ []) (digits : ds.all Char.isDigit = true)
    (tail : ((r.drop (r.takeWhile Char.isDigit).length).isEmpty ||
      isExponent (r.drop (r.takeWhile Char.isDigit).length)) = true) :
    LegacyDecimal ('0' :: (ds ++ '.' :: r)) := by
  obtain ⟨fraction, fracDigits, exponent⟩ := fraction_parts tail
  rw [fraction]
  refine .point nonempty digits ?_ exponent
  by_cases empty : r.takeWhile Char.isDigit = []
  · exact Or.inl empty
  · exact Or.inr (fracDigits empty)

theorem decimal_of_isDecimalText {d : List Char} (h : isDecimalText d = true) :
    DecimalLiteral d ∨ LegacyDecimal d := by
  rw [isDecimalText.eq_def] at h
  dsimp only at h
  rw [drop_length_takeWhile] at h
  have whole : d = d.takeWhile Char.isDigit ++ d.dropWhile Char.isDigit :=
    List.takeWhile_append_dropWhile.symm
  have digits : (d.takeWhile Char.isDigit).all Char.isDigit = true := List.all_takeWhile
  generalize d.takeWhile Char.isDigit = i at h whole digits
  generalize d.dropWhile Char.isDigit = rest at h whole
  subst whole
  have parts : LegacyZero i ∨ (i ≠ [] → decimalIntegerLiteral i = true) := by
    by_cases legacy : LegacyZero i
    · exact Or.inl legacy
    · exact Or.inr fun ne => decimalIntegerLiteral_of_digits ne digits legacy
  -- the cases of the fraction are split in the goal, where its `match` is the first one
  split at h
  · rename_i frac noPoint
    revert noPoint h
    split
    · intro noPoint; cases noPoint
    · intro _ h
      simp only [Bool.and_eq_true, Bool.not_eq_true', List.isEmpty_eq_false_iff] at h
      rcases parts with ⟨x, more, rfl, -⟩ | integer
      · exact Or.inr (.integer (List.cons_ne_nil x more) ((Bool.and_eq_true _ _).mp digits).2
          (exponent_of_tail h.2))
      · exact Or.inl (.integer (integer h.1) (exponent_of_tail h.2))
  · rename_i frac f point
    revert point h
    split
    · rename_i r
      intro point h
      cases point
      simp only [Bool.and_eq_true] at h
      rcases parts with ⟨x, more, rfl, -⟩ | integer
      · exact Or.inr (legacy_of_point (List.cons_ne_nil x more) ((Bool.and_eq_true _ _).mp digits).2
          h.2)
      · exact Or.inl (decimal_of_point integer h.1 h.2)
    · intro point; cases point

/-- A number the reader accepts is an optional minus and a decimal literal, or a legacy
decimal. -/
theorem number_shape {t : List Char} (h : isNumberText t = true) :
    ∃ d, (t = d ∨ t = '-' :: d) ∧ (DecimalLiteral d ∨ LegacyDecimal d) := by
  have decimal : ∀ d : List Char,
      (match d with
        | c :: _ => (c.isDigit || c == '.') && isDecimalText d
        | [] => false) = true → isDecimalText d = true := by
    intro d read
    split at read
    · simp only [Bool.and_eq_true] at read
      exact read.2
    · cases read
  unfold isNumberText at h
  revert h
  split
  · rename_i r
    intro h
    exact ⟨r, Or.inr rfl, decimal_of_isDecimalText (decimal r h)⟩
  · intro h
    exact ⟨t, Or.inl rfl, decimal_of_isDecimalText (decimal t h)⟩

theorem decimalIntegerLiteral_not_legacyZero {i : List Char} (h : decimalIntegerLiteral i = true) :
    ¬LegacyZero i := by
  rintro ⟨x, rest, rfl, -⟩
  simp [decimalIntegerLiteral] at h

theorem legacyZero_append {i rest : List Char} (integer : decimalIntegerLiteral i = true)
    (legacy : LegacyZero (i ++ rest)) : ∃ x more, rest = x :: more ∧ x.isDigit = true := by
  obtain ⟨x, more, whole, digit⟩ := legacy
  cases i with
  | nil => cases integer
  | cons d i =>
    cases i with
    | nil =>
      obtain ⟨rfl, rfl⟩ := List.cons.inj whole
      exact ⟨x, more, rfl, digit⟩
    | cons y i =>
      simp only [List.cons_append, List.cons.injEq] at whole
      obtain ⟨rfl, rfl, -⟩ := whole
      exact absurd ⟨_, i, rfl, digit⟩ (decimalIntegerLiteral_not_legacyZero integer)

theorem exponentPart_head {e : List Char} (h : exponentPart e = true) :
    ∃ x more, e = x :: more ∧ x.isDigit = false := by
  cases e with
  | nil => cases h
  | cons x more =>
    simp only [exponentPart, Bool.and_eq_true, Bool.or_eq_true, beq_iff_eq] at h
    refine ⟨x, more, rfl, ?_⟩
    rcases h.1 with rfl | rfl <;> rfl

theorem radixBase_of_isDigit {c : Char} (digit : c.isDigit = true) : radixBase c = none := by
  unfold radixBase
  split_ifs with b o x
  · simp only [Bool.or_eq_true, beq_iff_eq] at b
    rcases b with rfl | rfl <;> exact absurd digit (by decide)
  · simp only [Bool.or_eq_true, beq_iff_eq] at o
    rcases o with rfl | rfl <;> exact absurd digit (by decide)
  · simp only [Bool.or_eq_true, beq_iff_eq] at x
    rcases x with rfl | rfl <;> exact absurd digit (by decide)
  · rfl

theorem numericLiteral_not_legacyZero {d : List Char} (h : NumericLiteral d) : ¬LegacyZero d := by
  intro legacy
  have afterZero : ∀ {i rest : List Char}, decimalIntegerLiteral i = true →
      LegacyZero (i ++ rest) → ∀ c more, rest = c :: more → c.isDigit = false → False := by
    intro i rest integer legacy c more eq notDigit
    obtain ⟨x, more', eq', digit⟩ := legacyZero_append integer legacy
    rw [eq] at eq'
    obtain ⟨rfl, -⟩ := List.cons.inj eq'
    rw [digit] at notDigit
    cases notDigit
  cases h with
  | decimal decimal =>
    cases decimal with
    | point integer _ _ => exact afterZero integer legacy '.' _ rfl rfl
    | fraction =>
      obtain ⟨x, more, eq, -⟩ := legacy
      exact absurd (List.cons.inj eq).1 (by decide)
    | integer integer exponent =>
      rcases exponent with rfl | exponent
      · rw [List.append_nil] at legacy
        exact decimalIntegerLiteral_not_legacyZero integer legacy
      · obtain ⟨y, rest, rfl, notDigit⟩ := exponentPart_head exponent
        exact afterZero integer legacy y rest rfl notDigit
  | bigInt integer => exact afterZero integer legacy 'n' [] rfl rfl
  | radix base _ _ =>
    obtain ⟨x, more, eq, digit⟩ := legacy
    obtain ⟨-, eq⟩ := List.cons.inj eq
    obtain ⟨rfl, -⟩ := List.cons.inj eq
    rw [radixBase_of_isDigit digit] at base
    cases base

/-! ### String values -/

namespace Text

def singleEscape : Char → Option Char
  | '\'' => some '\''
  | '"' => some '"'
  | '\\' => some '\\'
  | 'b' => some '\x08'
  | 'f' => some '\x0c'
  | 'n' => some '\n'
  | 'r' => some '\r'
  | 't' => some '\t'
  | 'v' => some '\x0b'
  | _ => none

def isLineTerminator (c : Char) : Bool :=
  c == '\n' || c == '\r' || c.toNat == 0x2028 || c.toNat == 0x2029

/-- The characters a backslash does not keep as they are: the single escapes, the digits, `x`
and `u`. -/
def isEscapeCharacter (c : Char) : Bool :=
  (singleEscape c).isSome || c.isDigit || c == 'x' || c == 'u'

theorem digitValue_lt {base : Nat} {c : Char} {k : Nat} (h : digitValue base c = some k) :
    k < base := by
  rw [digitValue, Option.bind_eq_some_iff] at h
  obtain ⟨d, -, small⟩ := h
  split at small
  · rename_i lt
    cases small
    exact lt
  · cases small

theorem foldl_digits_none (base : Nat) (ds : List Char) :
    ds.foldl (fun acc c => acc.bind fun n => (digitValue base c).map (n * base + ·)) none =
      none := by
  induction ds with
  | nil => rfl
  | cons d ds ih => exact ih

theorem foldl_digits_lt {base : Nat} :
    ∀ {ds : List Char} {n v : Nat},
      ds.foldl (fun acc c => acc.bind fun n => (digitValue base c).map (n * base + ·)) (some n) =
        some v → v < (n + 1) * base ^ ds.length
  | [], n, v, h => by
    cases h
    simp
  | d :: ds, n, v, h => by
    rw [List.foldl_cons] at h
    cases digit : digitValue base d with
    | none =>
      rw [Option.bind_some, digit, Option.map_none, foldl_digits_none] at h
      cases h
    | some k =>
      rw [Option.bind_some, digit, Option.map_some] at h
      have small := digitValue_lt digit
      calc v < (n * base + k + 1) * base ^ ds.length := foldl_digits_lt h
        _ ≤ (n + 1) * base * base ^ ds.length := by
          apply Nat.mul_le_mul_right
          rw [Nat.add_one_mul]
          omega
        _ = (n + 1) * base ^ (d :: ds).length := by
          rw [List.length_cons, Nat.pow_succ, Nat.mul_assoc, Nat.mul_comm base]

theorem digitsValue_lt {base : Nat} {ds : List Char} {v : Nat}
    (value : digitsValue base ds = some v) : v < base ^ ds.length := by
  simpa using foldl_digits_lt value

theorem isValidChar_of_four_digits {ds : List Char} {v : Nat} (value : digitsValue 16 ds = some v)
    (short : ds.length ≤ 4) (outside : v < 0xD800 ∨ 0xDFFF < v) : v.isValidChar := by
  have small : v < 16 ^ 4 := (digitsValue_lt value).trans_le (Nat.pow_le_pow_right (by decide) short)
  unfold Nat.isValidChar
  omega

theorem isValidChar_of_two_digits {ds : List Char} {v : Nat} (value : digitsValue 16 ds = some v)
    (short : ds.length ≤ 2) : v.isValidChar := by
  have small : v < 16 ^ 2 := (digitsValue_lt value).trans_le (Nat.pow_le_pow_right (by decide) short)
  exact isValidChar_of_four_digits value (by omega) (.inl (by omega))

theorem unescape_plain {c : Char} (plain : c ≠ '\\') (rest : List Char) :
    unescape (c :: rest) = c :: unescape rest :=
  unescape.eq_16 c rest plain

theorem unescape_single {e c : Char} (escape : singleEscape e = some c) (rest : List Char) :
    unescape ('\\' :: e :: rest) = c :: unescape rest := by
  unfold singleEscape at escape
  split at escape <;> cases escape <;> simp [unescape]

theorem unescape_other {e : Char} (escape : isEscapeCharacter e = false)
    (line : isLineTerminator e = false) (rest : List Char) :
    unescape ('\\' :: e :: rest) = e :: unescape rest := by
  have kept : ¬(e = '\n' ∨ e.toNat = 0x2028 ∨ e.toNat = 0x2029) := by
    simp only [isLineTerminator, Bool.or_eq_false_iff, beq_eq_false_iff_ne, ne_eq] at line
    tauto
  rw [unescape.eq_15 e rest, if_neg kept] <;> intros <;> subst_vars <;>
    simp_all [isEscapeCharacter, singleEscape, isLineTerminator]

theorem unescape_zero {rest : List Char} (notDigit : ∀ d ∈ rest.head?, d.isDigit = false) :
    unescape ('\\' :: '0' :: rest) = '\x00' :: unescape rest := by
  rw [unescape.eq_9, if_neg]
  cases rest with
  | nil => simp
  | cons d r => simp [notDigit d rfl]

theorem unescape_continuation {c : Char} {rest : List Char} (line : isLineTerminator c = true)
    (alone : c = '\r' → rest.head? ≠ some '\n') : unescape ('\\' :: c :: rest) = unescape rest := by
  by_cases ret : c = '\r'
  · subst ret
    exact unescape.eq_14 rest fun r h => alone rfl (by simp [h])
  · have broken : c = '\n' ∨ c.toNat = 0x2028 ∨ c.toNat = 0x2029 := by
      simpa [isLineTerminator, ret, or_assoc] using line
    rw [unescape.eq_15 c rest, if_pos broken] <;> intros <;> subst_vars <;> simp_all

theorem unescape_surrogates (hs ls rest : List Char) (hexHigh : hs.all isHex = true)
    (lenHigh : hs.length = 4) {h : Nat} (valueHigh : digitsValue 16 hs = some h)
    (high : 0xD800 ≤ h ∧ h ≤ 0xDBFF) (hexLow : ls.all isHex = true) (lenLow : ls.length = 4)
    {l : Nat} (valueLow : digitsValue 16 ls = some l) (low : 0xDC00 ≤ l ∧ l ≤ 0xDFFF) :
    unescape ('\\' :: 'u' :: (hs ++ '\\' :: 'u' :: (ls ++ rest))) =
      Char.ofNat (0x10000 + (h - 0xD800) * 0x400 + (l - 0xDC00)) :: unescape rest := by
  have takeHigh := takeHex_append hexHigh lenHigh ('\\' :: 'u' :: (ls ++ rest))
  have takeLow := takeHex_append hexLow lenLow rest
  rw [valueHigh] at takeHigh
  rw [valueLow] at takeLow
  have pair : lowSurrogate? ('\\' :: 'u' :: (ls ++ rest)) = some (l, rest) := by
    rw [lowSurrogate?.eq_1, takeLow]
    exact if_pos low
  have nonempty : hs ≠ [] := by rintro rfl; cases lenHigh
  rw [unescape.eq_12 _ (hex_ne_brace hexHigh nonempty _)]
  split
  · rename_i high' after heq
    rw [takeHigh] at heq
    cases heq
    rw [if_pos high]
    split
    · rename_i low' rest' heq
      rw [pair] at heq
      cases heq
      rw [pushCode_of_isValidChar (by unfold Nat.isValidChar; omega)]
      rfl
    · rename_i heq
      rw [pair] at heq
      cases heq
  · rename_i after heq
    rw [takeHigh] at heq
    cases heq

theorem unescape_braced (ds rest : List Char) (hex : ds.all isHex = true) (nonempty : ds ≠ [])
    {v : Nat} (value : digitsValue 16 ds = some v) (valid : v.isValidChar) :
    unescape ('\\' :: 'u' :: '\x7b' :: (ds ++ '\x7d' :: rest)) = Char.ofNat v :: unescape rest := by
  have digits : (ds ++ '\x7d' :: rest).takeWhile (fun x => decide (x ≠ '\x7d')) = ds := by
    rw [List.takeWhile_append_of_pos]
    · simp
    · intro c mem
      have : isHex c = true := List.all_eq_true.mp hex c mem
      simp only [decide_eq_true_eq]
      rintro rfl
      cases this
  have read : hex32? ds = some v := by
    obtain ⟨d, more, rfl⟩ := List.exists_cons_of_ne_nil nonempty
    have notPlus : d ≠ '+' := by
      rintro rfl
      cases hex
    have small : v < 0x100000000 := by unfold Nat.isValidChar at valid; omega
    rw [hex32?.eq_2 _ (fun d' r h => notPlus (List.cons.inj h).1), List.isEmpty_cons,
      if_neg Bool.false_ne_true, value, Option.bind_some, if_pos small]
  rw [unescape.eq_11, digits, read, pushCode_of_isValidChar valid, List.drop_left]
  rfl

end Text

/-- The string value of a quoted body: `value` is the string value of `body` between quotes `q`, by
the rules for a string literal of strict mode (`q` a single or double quote) and for a template
without substitutions (`q` a backtick). It covers the bodies whose value is whole characters: a
surrogate pair is written as two escapes `\uHHHH`, no surrogate stands alone, and a template
has no raw carriage return. -/
inductive StringValue (q : Char) : List Char → List Char → Prop
  | nil : StringValue q [] []
  /-- A character standing for itself: a line feed only in a template, and a `$` there only
  when no `{` follows. -/
  | char {c : Char} {body value : List Char} : c ≠ q → c ≠ '\\' → c ≠ '\r' →
      (c = '\n' → q = '`') → (q = '`' → c = '$' → body.head? ≠ some '\x7b') →
      StringValue q body value → StringValue q (c :: body) (c :: value)
  | single {e c : Char} {body value : List Char} : singleEscape e = some c →
      StringValue q body value → StringValue q ('\\' :: e :: body) (c :: value)
  | other {e : Char} {body value : List Char} : isEscapeCharacter e = false →
      isLineTerminator e = false → StringValue q body value →
      StringValue q ('\\' :: e :: body) (e :: value)
  | zero {body value : List Char} : (∀ d ∈ body.head?, d.isDigit = false) →
      StringValue q body value → StringValue q ('\\' :: '0' :: body) ('\x00' :: value)
  | hex {ds body value : List Char} {v : Nat} : ds.length = 2 → ds.all isHex = true →
      digitsValue 16 ds = some v → StringValue q body value →
      StringValue q ('\\' :: 'x' :: (ds ++ body)) (Char.ofNat v :: value)
  | unit {ds body value : List Char} {v : Nat} : ds.length = 4 → ds.all isHex = true →
      digitsValue 16 ds = some v → (v < 0xD800 ∨ 0xDFFF < v) → StringValue q body value →
      StringValue q ('\\' :: 'u' :: (ds ++ body)) (Char.ofNat v :: value)
  | pair {hs ls body value : List Char} {h l : Nat} : hs.length = 4 → hs.all isHex = true →
      digitsValue 16 hs = some h → 0xD800 ≤ h → h ≤ 0xDBFF → ls.length = 4 →
      ls.all isHex = true → digitsValue 16 ls = some l → 0xDC00 ≤ l → l ≤ 0xDFFF →
      StringValue q body value →
      StringValue q ('\\' :: 'u' :: (hs ++ '\\' :: 'u' :: (ls ++ body)))
        (Char.ofNat (0x10000 + (h - 0xD800) * 0x400 + (l - 0xDC00)) :: value)
  | braced {ds body value : List Char} {v : Nat} : ds ≠ [] → ds.all isHex = true →
      digitsValue 16 ds = some v → v ≤ 0x10FFFF → (v < 0xD800 ∨ 0xDFFF < v) →
      StringValue q body value →
      StringValue q ('\\' :: 'u' :: '\x7b' :: (ds ++ '\x7d' :: body)) (Char.ofNat v :: value)
  | continuation {c : Char} {body value : List Char} : isLineTerminator c = true →
      (c = '\r' → body.head? ≠ some '\n') → StringValue q body value →
      StringValue q ('\\' :: c :: body) value
  | crlf {body value : List Char} : StringValue q body value →
      StringValue q ('\\' :: '\r' :: '\n' :: body) value

theorem unescape_of_stringValue {q : Char} {body value : List Char}
    (h : StringValue q body value) : unescape body = value := by
  induction h with
  | nil => exact unescape.eq_1
  | char _ plain _ _ _ _ ih => rw [unescape_plain plain, ih]
  | single escape _ ih => rw [unescape_single escape, ih]
  | other escape line _ ih => rw [unescape_other escape line, ih]
  | zero notDigit _ ih => rw [unescape_zero notDigit, ih]
  | hex len hex value _ ih =>
    rw [unescape_hex2 _ hex len value (isValidChar_of_two_digits value len.le), ih]
  | unit len hex value outside _ ih =>
    rw [unescape_hex4 _ _ hex len value (isValidChar_of_four_digits value len.le outside)
      (by omega), ih]
  | pair lenHigh hexHigh valueHigh high₁ high₂ lenLow hexLow valueLow low₁ low₂ _ ih =>
    rw [unescape_surrogates _ _ _ hexHigh lenHigh valueHigh ⟨high₁, high₂⟩ hexLow lenLow valueLow
      ⟨low₁, low₂⟩, ih]
  | braced nonempty hex value bound outside _ ih =>
    rw [unescape_braced _ _ hex nonempty value (by unfold Nat.isValidChar; omega), ih]
  | continuation line alone _ ih => rw [unescape_continuation line alone, ih]
  | crlf _ ih => rw [unescape.eq_13, ih]

theorem stringValue_escapeChar (c : Char) {body value : List Char}
    (rest : StringValue '"' body value) : StringValue '"' (escapeChar c ++ body) (c :: value) := by
  unfold escapeChar
  by_cases backslash : c = '\\'
  · subst backslash; exact .single rfl rest
  rw [if_neg backslash]
  by_cases quote : c = '"'
  · subst quote; exact .single rfl rest
  rw [if_neg quote]
  by_cases newline : c = '\n'
  · subst newline; exact .single rfl rest
  rw [if_neg newline]
  by_cases ret : c = '\r'
  · subst ret; exact .single rfl rest
  rw [if_neg ret]
  by_cases tab : c = '\t'
  · subst tab; exact .single rfl rest
  rw [if_neg tab]
  by_cases line : c.toNat = 0x2028
  · rw [if_pos line]
    have : c = Char.ofNat 0x2028 := by rw [← line, Char.ofNat_toNat]
    subst this
    exact @StringValue.unit '"' ['2', '0', '2', '8'] body value 0x2028 rfl rfl rfl (by decide) rest
  rw [if_neg line]
  by_cases para : c.toNat = 0x2029
  · rw [if_pos para]
    have : c = Char.ofNat 0x2029 := by rw [← para, Char.ofNat_toNat]
    subst this
    exact @StringValue.unit '"' ['2', '0', '2', '9'] body value 0x2029 rfl rfl rfl (by decide) rest
  rw [if_neg para]
  by_cases control : c.toNat < 0x20
  · rw [if_pos control]
    obtain ⟨len, hex, -, -, value⟩ := hexByte_control ⟨c.toNat, control⟩
    dsimp only at len hex value
    have := StringValue.hex len hex value rest
    rwa [Char.ofNat_toNat] at this
  rw [if_neg control]
  exact .char quote backslash ret (fun h => absurd h newline) (fun h => by cases h) rest

theorem stringValue_escape (s : List Char) :
    StringValue '"' (s.flatMap escapeChar) s := by
  induction s with
  | nil => exact .nil
  | cons c s ih => rw [List.flatMap_cons]; exact stringValue_escapeChar c ih

/-! ### What the reader accepts -/

/-- A literal is read off one token inside parentheses that match, with only blanks around
them: a keyword; a number, which is an optional minus and a decimal literal of strict mode or a
legacy decimal with a leading zero; or a text quoted by `"`, `'` or a backtick whose closing
quote is its only unescaped one, and which reads as the string value the grammar gives its
body, wherever it gives one. -/
theorem literal_reading_sound {code : String} {l : Literal}
    (read : Literal.ofSource? code = some l) :
    Wrapped (literalText code) code.toList ∧
      match l with
      | .str s => ∃ q body, literalText code = q :: (body ++ [q]) ∧ isQuote q = true ∧
          closedInside q body = true ∧ (q = '`' → hasSubstitution body = false) ∧
          ∀ value, StringValue q body value → s.toList = value
      | .num n => n.toList = literalText code ∧
          ∃ d, (n.toList = d ∨ n.toList = '-' :: d) ∧ (DecimalLiteral d ∨ LegacyDecimal d)
      | .bool b => literalText code = (Literal.bool b).render.toList
      | .null => literalText code = "null".toList
      | .undefined => literalText code = "undefined".toList := by
  refine ⟨wrapped_literalText code, ?_⟩
  have spec := Literal.ofSource?_spec read
  cases l with
  | str s =>
    dsimp only at spec ⊢
    obtain ⟨q, body, eq, quote, closed, plain, rfl⟩ := stringLiteral?_eq_some.mp spec
    refine ⟨q, body, eq, quote, closed, plain, fun value cooked => ?_⟩
    rw [String.toList_ofList, unescape_of_stringValue cooked]
  | num n =>
    dsimp only at spec ⊢
    obtain ⟨number, rfl⟩ := spec
    rw [String.toList_ofList]
    exact ⟨rfl, number_shape number⟩
  | bool _ | null | undefined =>
    dsimp only at spec ⊢
    rw [← spec, String.toList_ofList]

theorem literal_reading_sound_pair :
    Literal.ofSource? " ( '\\u00e9\\uD83D\\uDE00' ) " = some (.str "é😀") ∧
      Wrapped (literalText " ( '\\u00e9\\uD83D\\uDE00' ) ")
        " ( '\\u00e9\\uD83D\\uDE00' ) ".toList ∧
      ∃ q body, literalText " ( '\\u00e9\\uD83D\\uDE00' ) " = q :: (body ++ [q]) ∧
        isQuote q = true ∧ closedInside q body = true ∧ (q = '`' → hasSubstitution body = false) ∧
        ∀ value, StringValue q body value → "é😀".toList = value := by
  have read : Literal.ofSource? " ( '\\u00e9\\uD83D\\uDE00' ) " = some (.str "é😀") := by
    decide +kernel
  exact ⟨read, literal_reading_sound read⟩

/-- The text `01.5` is a numeric literal neither in strict mode nor outside it, where `01` is a
legacy octal integer that no point may follow; yet the reader takes it for a number. -/
theorem legacy_octal_fraction_read_as_number :
    Literal.ofSource? "01.5" = some (.num "01.5") ∧ ¬NumericLiteral "01.5".toList ∧
      ¬SloppyNumericLiteral "01.5".toList := by
  have text : "01.5".toList = ['0', '1', '.', '5'] := rfl
  refine ⟨by decide +kernel, fun h => numericLiteral_not_legacyZero h ⟨'1', ['.', '5'], text, rfl⟩,
    fun h => ?_⟩
  rw [text] at h
  generalize written : ['0', '1', '.', '5'] = d at h
  cases h with
  | octal _ octal =>
    obtain rfl := (List.cons.inj written).2
    simp [isOctalDigit] at octal
  | @nonOctal ds r digits nonOctal _ =>
    have after := (List.cons.inj written).2
    rcases ds with _ | ⟨a, _ | ⟨b, more⟩⟩
    · simp at nonOctal
    · obtain rfl := (List.cons.inj after).1
      simp at nonOctal
    · obtain rfl : b = '.' := ((List.cons.inj (List.cons.inj after).2).1).symm
      simp at digits

end JsxVNode
