import JsxVNode.Proofs.LiteralSyntax
/-!
What the escape reader makes of every quoted body, the escapes that name no character included.
`Unescapes body value` is the grammar, one constructor for each form an escape takes. An escape
that names a character reads as it, and a backslash before a line break stands for nothing. A
`\x` or `\u` whose hex digits run short, a `\u` of a low surrogate with no high one before it,
and a braced `\u{…}` that names no scalar value are written as their backslash and letter
alone: what the reader took after the letter is lost. A high surrogate with no low one after it
becomes U+FFFD. `unescape_eq_iff` says that the reader gives exactly what the grammar gives.
-/
namespace JsxVNode

namespace Text

def LowSurrogateAhead (body : List Char) : Prop :=
  ∃ ls rest l, body = '\\' :: 'u' :: (ls ++ rest) ∧ ls.length = 4 ∧ ls.all isHex = true ∧
    digitsValue 16 ls = some l ∧ 0xDC00 ≤ l ∧ l ≤ 0xDFFF

/-- `value` is what the escapes of `body` read as. -/
inductive Unescapes : List Char → List Char → Prop
  | nil : Unescapes [] []
  | char {c : Char} {body value : List Char} : c ≠ '\\' → Unescapes body value →
      Unescapes (c :: body) (c :: value)
  | trailing : Unescapes ['\\'] ['\\']
  | single {e c : Char} {body value : List Char} : singleEscape e = some c →
      Unescapes body value → Unescapes ('\\' :: e :: body) (c :: value)
  | other {e : Char} {body value : List Char} : isEscapeCharacter e = false →
      isLineTerminator e = false → Unescapes body value →
      Unescapes ('\\' :: e :: body) (e :: value)
  | digit {d : Char} {body value : List Char} : d.isDigit = true →
      (d = '0' → ∃ d' ∈ body.head?, d'.isDigit = true) → Unescapes body value →
      Unescapes ('\\' :: d :: body) (d :: value)
  | zero {body value : List Char} : (∀ d ∈ body.head?, d.isDigit = false) →
      Unescapes body value → Unescapes ('\\' :: '0' :: body) ('\x00' :: value)
  | hex {ds body value : List Char} {v : Nat} : ds.length = 2 → ds.all isHex = true →
      digitsValue 16 ds = some v → Unescapes body value →
      Unescapes ('\\' :: 'x' :: (ds ++ body)) (Char.ofNat v :: value)
  | shortHex {ds body value : List Char} : ds.length < 2 → ds.all isHex = true →
      (∀ d ∈ body.head?, isHex d = false) → Unescapes body value →
      Unescapes ('\\' :: 'x' :: (ds ++ body)) ('\\' :: 'x' :: value)
  | unit {ds body value : List Char} {v : Nat} : ds.length = 4 → ds.all isHex = true →
      digitsValue 16 ds = some v → (v < 0xD800 ∨ 0xDFFF < v) → Unescapes body value →
      Unescapes ('\\' :: 'u' :: (ds ++ body)) (Char.ofNat v :: value)
  | pair {hs ls body value : List Char} {h l : Nat} : hs.length = 4 → hs.all isHex = true →
      digitsValue 16 hs = some h → 0xD800 ≤ h → h ≤ 0xDBFF → ls.length = 4 →
      ls.all isHex = true → digitsValue 16 ls = some l → 0xDC00 ≤ l → l ≤ 0xDFFF →
      Unescapes body value →
      Unescapes ('\\' :: 'u' :: (hs ++ '\\' :: 'u' :: (ls ++ body)))
        (Char.ofNat (0x10000 + (h - 0xD800) * 0x400 + (l - 0xDC00)) :: value)
  | loneHigh {ds body value : List Char} {h : Nat} : ds.length = 4 → ds.all isHex = true →
      digitsValue 16 ds = some h → 0xD800 ≤ h → h ≤ 0xDBFF → ¬LowSurrogateAhead body →
      Unescapes body value → Unescapes ('\\' :: 'u' :: (ds ++ body)) ('\uFFFD' :: value)
  | loneLow {ds body value : List Char} {l : Nat} : ds.length = 4 → ds.all isHex = true →
      digitsValue 16 ds = some l → 0xDC00 ≤ l → l ≤ 0xDFFF → Unescapes body value →
      Unescapes ('\\' :: 'u' :: (ds ++ body)) ('\\' :: 'u' :: value)
  /-- `\u` before fewer than four hex digits and no brace is written `\u`, and the digits are
  lost. -/
  | shortUnit {ds body value : List Char} : ds.length < 4 → ds.all isHex = true →
      (∀ d ∈ body.head?, isHex d = false) → (ds = [] → body.head? ≠ some '\x7b') →
      Unescapes body value → Unescapes ('\\' :: 'u' :: (ds ++ body)) ('\\' :: 'u' :: value)
  | braced {ds rest body value : List Char} {v : Nat} : '\x7d' ∉ ds →
      (rest = '\x7d' :: body ∨ rest = [] ∧ body = []) → hex32? ds = some v → v.isValidChar →
      Unescapes body value →
      Unescapes ('\\' :: 'u' :: '\x7b' :: (ds ++ rest)) (Char.ofNat v :: value)
  /-- A braced escape that names no scalar value is written `\u`, and the group is lost with its
  braces. -/
  | badBraced {ds rest body value : List Char} : '\x7d' ∉ ds →
      (rest = '\x7d' :: body ∨ rest = [] ∧ body = []) →
      (∀ v, hex32? ds = some v → ¬v.isValidChar) → Unescapes body value →
      Unescapes ('\\' :: 'u' :: '\x7b' :: (ds ++ rest)) ('\\' :: 'u' :: value)
  | continuation {c : Char} {body value : List Char} : isLineTerminator c = true →
      (c = '\r' → body.head? ≠ some '\n') → Unescapes body value →
      Unescapes ('\\' :: c :: body) value
  | crlf {body value : List Char} : Unescapes body value →
      Unescapes ('\\' :: '\r' :: '\n' :: body) value

/-! ### Runs of hex digits -/

theorem digitsValue_of_all_isHex {ds : List Char} (hex : ds.all isHex = true) :
    ∃ v, digitsValue 16 ds = some v := by
  suffices ∀ n, ∃ v, ds.foldl (fun acc c => acc.bind fun n => (digitValue 16 c).map (n * 16 + ·))
      (some n) = some v from this 0
  induction ds with
  | nil => exact fun n => ⟨n, rfl⟩
  | cons d ds ih =>
    intro n
    simp only [List.all_cons, Bool.and_eq_true] at hex
    obtain ⟨k, digit⟩ := Option.isSome_iff_exists.mp hex.1
    rw [List.foldl_cons, Option.bind_some, digit, Option.map_some]
    exact ih hex.2 _

theorem takeHex_short {n : Nat} {ds body : List Char} (hex : ds.all isHex = true)
    (short : ds.length < n) (stop : ∀ d ∈ body.head?, isHex d = false) :
    takeHex n (ds ++ body) = (none, body) := by
  have run : (ds ++ body).takeWhile isHex = ds := by
    rw [List.takeWhile_append_of_pos (by simpa using hex)]
    cases body with
    | nil => simp
    | cons d rest => simp [stop d rfl]
  simp [takeHex, run, List.take_of_length_le short.le, short.ne]

theorem takeHex_eq {n : Nat} {r after : List Char} {code : Option Nat}
    (take : takeHex n r = (code, after)) :
    ∃ ds, r = ds ++ after ∧ ds.all isHex = true ∧ ds.length ≤ n ∧
      (ds.length < n → ∀ d ∈ after.head?, isHex d = false) ∧
      code = if ds.length = n then digitsValue 16 ds else none := by
  simp only [takeHex, Prod.mk.injEq] at take
  obtain ⟨rfl, rfl⟩ := take
  have prefix_ : (r.takeWhile isHex).take n <+: r :=
    (List.take_prefix _ _).trans (List.takeWhile_prefix _)
  refine ⟨(r.takeWhile isHex).take n, (List.prefix_iff_eq_append.mp prefix_).symm, ?_,
    List.length_take_le _ _, ?_, rfl⟩
  · have hex := @List.all_takeWhile _ isHex r
    exact List.all_eq_true.mpr fun c mem => List.all_eq_true.mp hex c (List.mem_of_mem_take mem)
  · intro short
    have whole : (r.takeWhile isHex).take n = r.takeWhile isHex :=
      List.take_of_length_le (by rw [List.length_take] at short; omega)
    rw [whole, drop_length_takeWhile]
    intro d mem
    have next := List.head?_dropWhile_not isHex r
    rw [mem] at next
    exact next

theorem takeHex_eq_some {n : Nat} {r after : List Char} {v : Nat}
    (take : takeHex n r = (some v, after)) :
    ∃ ds, r = ds ++ after ∧ ds.all isHex = true ∧ ds.length = n ∧ digitsValue 16 ds = some v := by
  obtain ⟨ds, whole, hex, -, -, value⟩ := takeHex_eq take
  by_cases len : ds.length = n
  · rw [if_pos len] at value
    exact ⟨ds, whole, hex, len, value.symm⟩
  · rw [if_neg len] at value
    cases value

theorem lowSurrogate?_eq_some {body after : List Char} {l : Nat} :
    lowSurrogate? body = some (l, after) ↔
      ∃ ls, body = '\\' :: 'u' :: (ls ++ after) ∧ ls.length = 4 ∧ ls.all isHex = true ∧
        digitsValue 16 ls = some l ∧ 0xDC00 ≤ l ∧ l ≤ 0xDFFF := by
  constructor
  · intro h
    unfold lowSurrogate? at h
    split at h
    · rename_i rest
      split at h
      · rename_i v a take
        split at h
        · rename_i low
          cases h
          obtain ⟨ds, rfl, hex, len, value⟩ := takeHex_eq_some take
          exact ⟨ds, rfl, len, hex, value, low⟩
        · cases h
      · cases h
    · cases h
  · rintro ⟨ls, rfl, len, hex, value, low⟩
    rw [lowSurrogate?.eq_1, takeHex_append hex len after, value]
    exact if_pos low

theorem lowSurrogate?_eq_none {body : List Char} :
    lowSurrogate? body = none ↔ ¬LowSurrogateAhead body := by
  constructor
  · rintro none_ ⟨ls, rest, l, eq, ahead⟩
    rw [lowSurrogate?_eq_some.mpr ⟨ls, eq, ahead⟩] at none_
    cases none_
  · intro alone
    cases h : lowSurrogate? body with
    | none => rfl
    | some p =>
      obtain ⟨l, after⟩ := p
      obtain ⟨ls, eq, ahead⟩ := lowSurrogate?_eq_some.mp h
      exact absurd ⟨ls, after, l, eq, ahead⟩ alone

theorem pushCode_of_not_isValidChar {code : Option Nat} (invalid : ∀ v, code = some v → ¬v.isValidChar)
    (raw : List Char) : pushCode code raw = raw := by
  cases code with
  | none => rfl
  | some v => simp [pushCode, scalar?, invalid v rfl]

/-! ### The reader on each form -/

theorem unescape_digit {d : Char} {body : List Char} (digit : d.isDigit = true)
    (zero : d = '0' → ∃ d' ∈ body.head?, d'.isDigit = true) :
    unescape ('\\' :: d :: body) = d :: unescape body := by
  by_cases isZero : d = '0'
  · subst isZero
    obtain ⟨d', mem, next⟩ := zero rfl
    rw [unescape.eq_9, if_pos (by simp [Option.mem_def.mp mem, next])]
  · have small : d.toNat ≤ 57 := by
      simp only [Char.isDigit, Bool.and_eq_true, decide_eq_true_eq] at digit
      exact digit.2
    have kept : ¬(d = '\n' ∨ d.toNat = 0x2028 ∨ d.toNat = 0x2029) := by
      rintro (rfl | same | same)
      · cases digit
      all_goals omega
    rw [unescape.eq_15 d body, if_neg kept] <;> intros <;> subst_vars <;> simp_all [Char.isDigit]

theorem unescape_shortHex {ds body : List Char} (short : ds.length < 2) (hex : ds.all isHex = true)
    (stop : ∀ d ∈ body.head?, isHex d = false) :
    unescape ('\\' :: 'x' :: (ds ++ body)) = '\\' :: 'x' :: unescape body := by
  rw [unescape_x (takeHex_short hex short stop)]
  rfl

theorem unescape_loneHigh {ds body : List Char} (len : ds.length = 4) (hex : ds.all isHex = true)
    {h : Nat} (value : digitsValue 16 ds = some h) (high : 0xD800 ≤ h ∧ h ≤ 0xDBFF)
    (alone : ¬LowSurrogateAhead body) :
    unescape ('\\' :: 'u' :: (ds ++ body)) = '\uFFFD' :: unescape body := by
  have take := takeHex_append hex len body
  rw [value] at take
  have nonempty : ds ≠ [] := by rintro rfl; cases len
  rw [unescape.eq_12 _ (hex_ne_brace hex nonempty _)]
  split
  · rename_i high' after heq
    rw [take] at heq
    cases heq
    rw [if_pos high]
    split
    · rename_i low rest' heq
      rw [lowSurrogate?_eq_none.mpr alone] at heq
      cases heq
    · rfl
  · rename_i after heq
    rw [take] at heq
    cases heq

theorem unescape_loneLow {ds body : List Char} (len : ds.length = 4) (hex : ds.all isHex = true)
    {l : Nat} (value : digitsValue 16 ds = some l) (low : 0xDC00 ≤ l ∧ l ≤ 0xDFFF) :
    unescape ('\\' :: 'u' :: (ds ++ body)) = '\\' :: 'u' :: unescape body := by
  have take := takeHex_append hex len body
  rw [value] at take
  have nonempty : ds ≠ [] := by rintro rfl; cases len
  rw [unescape_u4 (hex_ne_brace hex nonempty _) take (by omega),
    pushCode_of_not_isValidChar (by rintro v ⟨⟩; unfold Nat.isValidChar; omega)]
  rfl

theorem unescape_shortUnit {ds body : List Char} (short : ds.length < 4)
    (hex : ds.all isHex = true) (stop : ∀ d ∈ body.head?, isHex d = false)
    (noBrace : ds = [] → body.head? ≠ some '\x7b') :
    unescape ('\\' :: 'u' :: (ds ++ body)) = '\\' :: 'u' :: unescape body := by
  have brace : ∀ r, ds ++ body ≠ '\x7b' :: r := by
    cases ds with
    | nil => rintro r rfl; exact noBrace rfl rfl
    | cons d more => exact hex_ne_brace hex (List.cons_ne_nil _ _) body
  rw [unescape.eq_12 _ brace]
  split
  · rename_i high after heq
    rw [takeHex_short hex short stop] at heq
    cases heq
  · rename_i after heq
    rw [takeHex_short hex short stop] at heq
    cases heq
    rfl

theorem unescape_bracedGroup {ds rest body : List Char} (open_ : '\x7d' ∉ ds)
    (closes : rest = '\x7d' :: body ∨ rest = [] ∧ body = []) :
    unescape ('\\' :: 'u' :: '\x7b' :: (ds ++ rest)) =
      pushCode (hex32? ds) ['\\', 'u'] ++ unescape body := by
  have digits : (ds ++ rest).takeWhile (fun x => decide (x ≠ '\x7d')) = ds := by
    rw [List.takeWhile_append_of_pos]
    · rcases closes with rfl | ⟨rfl, -⟩ <;> simp
    · intro c mem
      simp only [decide_eq_true_eq]
      rintro rfl
      exact open_ mem
  rw [unescape.eq_11, digits, List.drop_left]
  rcases closes with rfl | ⟨rfl, rfl⟩ <;> rfl

/-! ### The reader and the grammar agree -/

theorem unescape_of_unescapes {body value : List Char} (h : Unescapes body value) :
    unescape body = value := by
  induction h with
  | nil => exact unescape.eq_1
  | char plain _ ih => rw [unescape_plain plain, ih]
  | trailing => exact unescape.eq_2
  | single escape _ ih => rw [unescape_single escape, ih]
  | other escape line _ ih => rw [unescape_other escape line, ih]
  | digit digit zero _ ih => rw [unescape_digit digit zero, ih]
  | zero notDigit _ ih => rw [unescape_zero notDigit, ih]
  | hex len hex value _ ih =>
    rw [unescape_hex2 _ hex len value (isValidChar_of_two_digits value len.le), ih]
  | shortHex short hex stop _ ih => rw [unescape_shortHex short hex stop, ih]
  | unit len hex value outside _ ih =>
    rw [unescape_hex4 _ _ hex len value (isValidChar_of_four_digits value len.le outside)
      (by omega), ih]
  | pair lenHigh hexHigh valueHigh high₁ high₂ lenLow hexLow valueLow low₁ low₂ _ ih =>
    rw [unescape_surrogates _ _ _ hexHigh lenHigh valueHigh ⟨high₁, high₂⟩ hexLow lenLow valueLow
      ⟨low₁, low₂⟩, ih]
  | loneHigh len hex value high₁ high₂ alone _ ih =>
    rw [unescape_loneHigh len hex value ⟨high₁, high₂⟩ alone, ih]
  | loneLow len hex value low₁ low₂ _ ih => rw [unescape_loneLow len hex value ⟨low₁, low₂⟩, ih]
  | shortUnit short hex stop noBrace _ ih => rw [unescape_shortUnit short hex stop noBrace, ih]
  | braced open_ closes value valid _ ih =>
    rw [unescape_bracedGroup open_ closes, value, pushCode_of_isValidChar valid, ih]
    rfl
  | badBraced open_ closes invalid _ ih =>
    rw [unescape_bracedGroup open_ closes, pushCode_of_not_isValidChar invalid, ih]
    rfl
  | continuation line alone _ ih => rw [unescape_continuation line alone, ih]
  | crlf _ ih => rw [unescape.eq_13, ih]

theorem singleEscape_self {e c : Char} (escape : singleEscape e = some c)
    (letter : e ∉ ['b', 'f', 'n', 'r', 't', 'v']) : c = e := by
  unfold singleEscape at escape
  split at escape <;> cases escape <;> simp_all

theorem braced_split (r : List Char) :
    '\x7d' ∉ r.takeWhile (· ≠ '\x7d') ∧ ∃ rest, r = r.takeWhile (· ≠ '\x7d') ++ rest ∧
      (rest = '\x7d' :: ((r.drop (r.takeWhile (· ≠ '\x7d')).length).drop 1) ∨
        rest = [] ∧ (r.drop (r.takeWhile (· ≠ '\x7d')).length).drop 1 = []) := by
  refine ⟨fun mem => by simpa using List.mem_takeWhile_imp mem, r.dropWhile (· ≠ '\x7d'),
    (List.takeWhile_append_dropWhile).symm, ?_⟩
  rw [drop_length_takeWhile]
  have next := List.head?_dropWhile_not (· ≠ '\x7d') r
  cases h : r.dropWhile (· ≠ '\x7d') with
  | nil => exact .inr ⟨rfl, rfl⟩
  | cons c more =>
    rw [h] at next
    simp only [List.head?_cons, decide_eq_false_iff_not, not_not] at next
    subst next
    exact .inl rfl

theorem unescapes_unescape (body : List Char) : Unescapes body (unescape body) := by
  fun_induction unescape body with
  | case1 => exact .nil
  | case2 => exact .trailing
  | case3 r ih => exact .single rfl ih
  | case4 r ih => exact .single rfl ih
  | case5 r ih => exact .single rfl ih
  | case6 r ih => exact .single rfl ih
  | case7 r ih => exact .single rfl ih
  | case8 r ih => exact .single rfl ih
  | case9 r digit ih =>
    refine .digit rfl (fun _ => ?_) ih
    cases h : r.head? with
    | none => rw [h] at digit; cases digit
    | some d => rw [h] at digit; exact ⟨d, rfl, by simpa using digit⟩
  | case10 r notDigit ih =>
    refine .zero (fun d mem => ?_) ih
    rw [Option.mem_def.mp mem] at notDigit
    simpa using notDigit
  | case11 r code after take _ ih =>
    obtain ⟨ds, rfl, hex, atMost, stop, rfl⟩ := takeHex_eq take
    by_cases len : ds.length = 2
    · obtain ⟨v, value⟩ := digitsValue_of_all_isHex hex
      rw [if_pos len, value, pushCode_of_isValidChar (isValidChar_of_two_digits value len.le)]
      exact .hex len hex value ih
    · have short : ds.length < 2 := by omega
      rw [if_neg len]
      exact .shortHex short hex (stop short) ih
  | case12 r digits after _ ih =>
    obtain ⟨open_, rest, eq, closes⟩ := braced_split r
    by_cases valid : ∃ v, hex32? digits = some v ∧ v.isValidChar
    · obtain ⟨v, value, valid⟩ := valid
      have grammar := Unescapes.braced open_ closes value valid ih
      rw [← eq] at grammar
      rw [value, pushCode_of_isValidChar valid]
      exact grammar
    · have invalid : ∀ v, hex32? digits = some v → ¬v.isValidChar :=
        fun v value valid' => valid ⟨v, value, valid'⟩
      have grammar := Unescapes.badBraced open_ closes invalid ih
      rw [← eq] at grammar
      rw [pushCode_of_not_isValidChar invalid]
      exact grammar
  | case13 r _ high after take _ range low after' pair _ ih =>
    obtain ⟨ds, rfl, hex, len, value⟩ := takeHex_eq_some take
    obtain ⟨ls, rfl, lenLow, hexLow, valueLow, low₁, low₂⟩ := lowSurrogate?_eq_some.mp pair
    rw [pushCode_of_isValidChar (by unfold Nat.isValidChar; omega)]
    exact .pair len hex value range.1 range.2 lenLow hexLow valueLow low₁ low₂ ih
  | case14 r _ high after take _ range alone ih =>
    obtain ⟨ds, rfl, hex, len, value⟩ := takeHex_eq_some take
    exact .loneHigh len hex value range.1 range.2 (lowSurrogate?_eq_none.mp alone) ih
  | case15 r _ v after take _ notHigh ih =>
    obtain ⟨ds, rfl, hex, len, value⟩ := takeHex_eq_some take
    by_cases low : 0xDC00 ≤ v ∧ v ≤ 0xDFFF
    · rw [pushCode_of_not_isValidChar (by rintro w ⟨⟩; unfold Nat.isValidChar; omega)]
      exact .loneLow len hex value low.1 low.2 ih
    · rw [pushCode_of_isValidChar (isValidChar_of_four_digits value len.le (by omega))]
      exact .unit len hex value (by omega) ih
  | case16 r noBrace after take _ ih =>
    obtain ⟨ds, rfl, hex, atMost, stop, value⟩ := takeHex_eq take
    have short : ds.length < 4 := by
      by_contra h
      obtain ⟨v, digits⟩ := digitsValue_of_all_isHex hex
      rw [if_pos (by omega), digits] at value
      cases value
    refine .shortUnit short hex (stop short) (fun empty brace => ?_) ih
    subst empty
    obtain ⟨t, rfl⟩ : ∃ t, after = '\x7b' :: t := by
      cases after with
      | nil => cases brace
      | cons c t => exact ⟨t, by simpa using brace⟩
    exact noBrace t rfl
  | case17 r ih => exact .crlf ih
  | case18 r alone ih =>
    refine .continuation (by decide) (fun _ next => ?_) ih
    cases r with
    | nil => cases next
    | cons c t => exact alone t (by simpa using next)
  | case19 c r _ _ _ _ _ _ _ _ _ _ _ notReturn line ih =>
    refine .continuation ?_ (fun ret => absurd ret notReturn) ih
    rcases line with rfl | code | code <;> simp [isLineTerminator, *]
  | case20 c r notN notR notT notB notF notV notZero notX _ notU _ notReturn kept ih =>
    have line : isLineTerminator c = false := by
      simp only [isLineTerminator, Bool.or_eq_false_iff, beq_eq_false_iff_ne]
      exact ⟨⟨⟨fun h => kept (.inl h), notReturn⟩, fun h => kept (.inr (.inl h))⟩,
        fun h => kept (.inr (.inr h))⟩
    cases escape : singleEscape c with
    | some c' =>
      have same : c' = c := singleEscape_self escape (by simp_all)
      subst same
      exact .single escape ih
    | none =>
      by_cases digit : c.isDigit = true
      · exact .digit digit (fun zero => absurd zero notZero) ih
      · refine .other ?_ line ih
        simp_all [isEscapeCharacter]
  | case21 c rest plain ih => exact .char plain ih

/-- The reader gives exactly what the grammar of escapes gives, malformed escapes included. -/
theorem unescape_eq_iff {body value : List Char} : unescape body = value ↔ Unescapes body value :=
  ⟨fun read => read ▸ unescapes_unescape body, unescape_of_unescapes⟩

/-- A `\x` escape with one hex digit keeps its two letters and loses the digit. -/
theorem malformed_hex_escape_drops_its_digit :
    unescape ['\\', 'x', '4', 'g'] = ['\\', 'x', 'g'] := by
  have stop : ∀ d ∈ ['g'].head?, isHex d = false := by
    intro d mem
    cases mem
    decide
  have one := @unescape_shortHex ['4'] ['g'] (by decide) (by decide) stop
  rw [@unescape_plain 'g' (by decide) [], unescape.eq_1] at one
  exact one

end Text

end JsxVNode
