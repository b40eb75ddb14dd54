import JsxVNode.Tree.Literal
import JsxVNode.Signature
import Mathlib.Data.List.DropRight
import Mathlib.Tactic.SplitIfs
/-!
Reading literals off expression source, and writing them back. `literalText` is what the reader
looks at: the code trimmed, with redundant parentheses dropped; it is a fixed point of that
cutting. `Literal.ofSource?_eq_some_iff` says what each kind of literal is read from. A quoted
string is written so that its closing quote is the only unescaped one and each escape reads back
as the character it stands for, so every literal the reader can return reads back from the text
it is written as.
-/
namespace JsxVNode

open Text

namespace Text

theorem trimBlank_eq_rdropWhile (cs : List Char) :
    trimBlank cs = (cs.dropWhile isBlank).rdropWhile isBlank := rfl

theorem trimBlank_eq_self {cs : List Char} (head : ∀ c ∈ cs.head?, isBlank c = false)
    (last : ∀ c ∈ cs.getLast?, isBlank c = false) : trimBlank cs = cs := by
  cases cs with
  | nil => rfl
  | cons c rest =>
    have front : (c :: rest).dropWhile isBlank = c :: rest :=
      List.dropWhile_cons_of_neg (by simpa using head c rfl)
    rw [trimBlank_eq_rdropWhile, front, List.rdropWhile_eq_self_iff]
    intro ne
    simpa [List.getLast?_eq_some_getLast ne] using last _ (List.getLast?_eq_some_getLast ne)

theorem trimBlank_trimBlank (cs : List Char) : trimBlank (trimBlank cs) = trimBlank cs := by
  apply trimBlank_eq_self
  · intro c hc
    obtain ⟨rest, whole⟩ : trimBlank cs <+: cs.dropWhile isBlank := List.rdropWhile_prefix _ _
    have start := List.head?_dropWhile_not isBlank cs
    rw [← whole] at start
    cases h : trimBlank cs with
    | nil => simp [h] at hc
    | cons d ds =>
      rw [h] at hc start
      simp only [Option.mem_def, List.head?_cons, Option.some.injEq] at hc
      simpa [hc] using start
  · intro c hc
    have ne : trimBlank cs ≠ [] := by rintro h; simp [h] at hc
    rw [List.getLast?_eq_some_getLast ne, Option.mem_def, Option.some.injEq] at hc
    subst hc
    have := List.rdropWhile_last_not isBlank (cs.dropWhile isBlank) ne
    rw [Bool.not_eq_true] at this
    exact this

end Text

/-! ### The text a literal is read from -/

/-- The text the reader of literals looks at: the code trimmed, with each pair of parentheses
around all of it dropped. -/
def literalText (code : String) : List Char := stripParens (trimBlank code.toList)

theorem stripParens_stripParens (cs : List Char) :
    stripParens (stripParens cs) = stripParens cs := by
  fun_induction stripParens cs with
  | case1 rest _ _ ih => exact ih
  | case2 rest unclosed => rw [stripParens.eq_1, if_neg unclosed]
  | case3 x other =>
    rw [stripParens.eq_def]
    split
    · rename_i rest
      exact absurd rfl (other rest)
    · rfl

theorem trimBlank_stripParens {cs : List Char} (trimmed : trimBlank cs = cs) :
    trimBlank (stripParens cs) = stripParens cs := by
  fun_induction stripParens cs with
  | case1 rest _ _ ih => exact ih (trimBlank_trimBlank _)
  | case2 rest unclosed => exact trimmed
  | case3 x other => exact trimmed

theorem stripParens_of_head {cs : List Char} (h : cs.head? ≠ some '(') : stripParens cs = cs := by
  rw [stripParens.eq_def]
  split
  · simp at h
  · rfl

theorem literalText_literalText (code : String) :
    literalText (String.ofList (literalText code)) = literalText code := by
  simp only [literalText, String.toList_ofList]
  rw [trimBlank_stripParens (trimBlank_trimBlank _), stripParens_stripParens]

def isQuote (q : Char) : Bool := q == '"' || q == '\'' || q == '`'

theorem stringLiteral?_eq_some {t : List Char} {s : String} :
    stringLiteral? t = some s ↔
      ∃ q inside, t = q :: (inside ++ [q]) ∧ isQuote q = true ∧ closedInside q inside = true ∧
        (q = '`' → hasSubstitution inside = false) ∧ s = String.ofList (unescape inside) := by
  constructor
  · intro h
    rw [stringLiteral?.eq_def] at h
    split at h
    · rename_i _ q head tail
      split at h
      · rename_i outer
        dsimp only at h
        split at h
        · rename_i inner
          simp only [Bool.and_eq_true, beq_iff_eq] at outer
          simp only [Bool.and_eq_true, Bool.not_eq_true', Bool.and_eq_false_iff,
            beq_eq_false_iff_ne] at inner
          obtain ⟨ys, whole⟩ := List.getLast?_eq_some_iff.mp outer.2
          rw [whole, List.dropLast_concat] at inner h
          refine ⟨q, ys, by rw [whole], outer.1, inner.1, ?_, (Option.some.inj h).symm⟩
          intro back
          rcases inner.2 with ne | plain
          · exact absurd back ne
          · exact plain
        · cases h
      · cases h
    · cases h
  · rintro ⟨q, inside, rfl, quote, closed, plain, rfl⟩
    obtain ⟨x, xs, split⟩ : ∃ x xs, inside ++ [q] = x :: xs := by
      cases inside <;> simp
    rw [stringLiteral?.eq_def]
    simp only [split]
    rw [← split, List.getLast?_concat, List.dropLast_concat]
    have sub : (q == '`' && hasSubstitution inside) = false := by
      cases h : q == '`'
      · rfl
      · simpa using plain (by simpa using h)
    simp only [isQuote] at quote
    simp [quote, closed, sub]

theorem stringLiteral?_of_isNumberText {t : List Char} (number : isNumberText t = true) :
    stringLiteral? t = none := by
  cases h : stringLiteral? t with
  | none => rfl
  | some s =>
    obtain ⟨q, inside, rfl, quote, -⟩ := stringLiteral?_eq_some.mp h
    simp only [isQuote, Bool.or_eq_true, beq_iff_eq] at quote
    rcases quote with (rfl | rfl) | rfl <;> simp [isNumberText] at number

/-- What each kind of literal is read from: a string from a quoted literal, a number from its
own text, and a keyword from the keyword. -/
theorem Literal.ofSource?_spec {code : String} {l : Literal} (h : Literal.ofSource? code = some l) :
    match l with
    | .str s => stringLiteral? (literalText code) = some s
    | .num n => isNumberText (literalText code) = true ∧ String.ofList (literalText code) = n
    | .bool b => String.ofList (literalText code) = (Literal.bool b).render
    | .null => String.ofList (literalText code) = "null"
    | .undefined => String.ofList (literalText code) = "undefined" := by
  unfold Literal.ofSource? at h
  simp only [show stripParens (trimBlank code.toList) = literalText code from rfl] at h
  generalize literalText code = t at h ⊢
  split at h
  · cases h
  · split at h
    · rename_i s quoted
      cases h
      exact quoted
    · split at h
      · rename_i word
        cases h
        simpa [Literal.render] using word
      · split at h
        · rename_i word
          cases h
          simpa [Literal.render] using word
        · split at h
          · rename_i word
            cases h
            simpa using word
          · split at h
            · rename_i word
              cases h
              simpa using word
            · split at h
              · rename_i number
                cases h
                exact ⟨number, rfl⟩
              · cases h

theorem Literal.ofSource?_of_stringLiteral? {code : String} {s : String}
    (quoted : stringLiteral? (literalText code) = some s) : Literal.ofSource? code = some (.str s) := by
  have nonempty : (literalText code).isEmpty = false := by
    cases h : literalText code with
    | nil => rw [h] at quoted; cases quoted
    | cons _ _ => rfl
  unfold Literal.ofSource?
  simp only [show stripParens (trimBlank code.toList) = literalText code from rfl, nonempty,
    quoted]
  rfl

theorem Literal.ofSource?_of_isNumberText {code : String}
    (number : isNumberText (literalText code) = true) :
    Literal.ofSource? code = some (.num (String.ofList (literalText code))) := by
  have nonempty : (literalText code).isEmpty = false := by
    cases h : literalText code with
    | nil => rw [h] at number; cases number
    | cons _ _ => rfl
  have notKeyword : ∀ w ∈ ["true", "false", "null", "undefined"],
      (String.ofList (literalText code) == w) = false := by
    intro w mem
    cases h : String.ofList (literalText code) == w
    · rfl
    · rw [beq_iff_eq] at h
      have : literalText code = w.toList := by rw [← h, String.toList_ofList]
      rw [this] at number
      simp only [List.mem_cons, List.not_mem_nil, or_false] at mem
      rcases mem with rfl | rfl | rfl | rfl <;> cases number
  unfold Literal.ofSource?
  simp only [show stripParens (trimBlank code.toList) = literalText code from rfl, nonempty,
    stringLiteral?_of_isNumberText number, number]
  simp [notKeyword]

/-! ### Escapes, written and read -/

namespace Text

theorem hexByte_control : ∀ n : Fin 32,
    (hexByte n.val).length = 2 ∧ (hexByte n.val).all isHex = true ∧ '\\' ∉ hexByte n.val ∧
      '"' ∉ hexByte n.val ∧ digitsValue 16 (hexByte n.val) = some n.val := by
  decide

theorem takeHex_append {n : Nat} {ds : List Char} (hex : ds.all isHex = true) (len : ds.length = n)
    (rest : List Char) : takeHex n (ds ++ rest) = (digitsValue 16 ds, rest) := by
  have whole : (ds ++ rest).takeWhile isHex = ds ++ rest.takeWhile isHex :=
    List.takeWhile_append_of_pos (by simpa using hex)
  simp [takeHex, whole, ← len]

theorem pushCode_of_isValidChar {v : Nat} (valid : v.isValidChar) (raw : List Char) :
    pushCode (some v) raw = [Char.ofNat v] := by
  simp [pushCode, scalar?, valid]

theorem unescape_x {r after : List Char} {code : Option Nat} (take : takeHex 2 r = (code, after)) :
    unescape ('\\' :: 'x' :: r) = pushCode code ['\\', 'x'] ++ unescape after := by
  rw [unescape.eq_10]
  split
  · rename_i code' after' heq
    rw [take] at heq
    cases heq
    rfl

theorem unescape_hex2 {ds : List Char} (rest : List Char) (hex : ds.all isHex = true)
    (len : ds.length = 2) {v : Nat} (value : digitsValue 16 ds = some v) (valid : v.isValidChar) :
    unescape ('\\' :: 'x' :: (ds ++ rest)) = Char.ofNat v :: unescape rest := by
  rw [unescape_x (takeHex_append hex len rest), value, pushCode_of_isValidChar valid]
  rfl

theorem unescape_u4 {r after : List Char} {v : Nat} (brace : ∀ r', r ≠ '\x7b' :: r')
    (take : takeHex 4 r = (some v, after)) (outside : v < 0xD800 ∨ 0xDBFF < v) :
    unescape ('\\' :: 'u' :: r) = pushCode (some v) ['\\', 'u'] ++ unescape after := by
  rw [unescape.eq_12 r brace]
  split
  · rename_i high after' heq
    rw [take] at heq
    cases heq
    rw [if_neg (by omega)]
  · rename_i after' heq
    rw [take] at heq
    cases heq

theorem hex_ne_brace {ds : List Char} (hex : ds.all isHex = true) (nonempty : ds ≠ [])
    (rest : List Char) : ∀ r, ds ++ rest ≠ '\x7b' :: r := by
  intro r h
  obtain ⟨d, more, rfl⟩ := List.exists_cons_of_ne_nil nonempty
  simp only [List.cons_append, List.cons.injEq] at h
  have brace : isHex '\x7b' = false := by decide
  simp only [List.all_cons, h.1, brace, Bool.false_and] at hex
  cases hex

theorem unescape_hex4 (ds rest : List Char) (hex : ds.all isHex = true)
    (len : ds.length = 4) {v : Nat} (value : digitsValue 16 ds = some v)
    (valid : v.isValidChar) (outside : v < 0xD800 ∨ 0xDBFF < v) :
    unescape ('\\' :: 'u' :: (ds ++ rest)) = Char.ofNat v :: unescape rest := by
  have nonempty : ds ≠ [] := by rintro rfl; cases len
  have take := takeHex_append hex len rest
  rw [value] at take
  rw [unescape_u4 (hex_ne_brace hex nonempty rest) take outside, pushCode_of_isValidChar valid]
  rfl

theorem unescape_escapeChar (c : Char) (rest : List Char) :
    unescape (escapeChar c ++ rest) = c :: unescape rest := by
  -- one test of the chain at a time: splitting all eight at once is twenty times slower
  unfold escapeChar
  by_cases backslash : c = '\\'
  · subst backslash; simp [unescape]
  rw [if_neg backslash]
  by_cases quote : c = '"'
  · subst quote; simp [unescape]
  rw [if_neg quote]
  by_cases newline : c = '\n'
  · subst newline; simp [unescape]
  rw [if_neg newline]
  by_cases ret : c = '\r'
  · subst ret; simp [unescape]
  rw [if_neg ret]
  by_cases tab : c = '\t'
  · subst tab; simp [unescape]
  rw [if_neg tab]
  by_cases line : c.toNat = 0x2028
  · rw [if_pos line]
    have : c = Char.ofNat 0x2028 := by rw [← line, Char.ofNat_toNat]
    subst this
    exact unescape_hex4 ['2', '0', '2', '8'] rest rfl rfl rfl (by decide) (by decide)
  rw [if_neg line]
  by_cases para : c.toNat = 0x2029
  · rw [if_pos para]
    have : c = Char.ofNat 0x2029 := by rw [← para, Char.ofNat_toNat]
    subst this
    exact unescape_hex4 ['2', '0', '2', '9'] rest rfl rfl rfl (by decide) (by decide)
  rw [if_neg para]
  by_cases control : c.toNat < 0x20
  · rw [if_pos control]
    obtain ⟨len, hex, -, -, value⟩ := hexByte_control ⟨c.toNat, control⟩
    dsimp only at len hex value
    rw [List.cons_append, List.cons_append, unescape_hex2 rest hex len value c.valid,
      Char.ofNat_toNat]
  rw [if_neg control]
  simp [unescape]

theorem unescape_escape (s rest : List Char) :
    unescape (s.flatMap escapeChar ++ rest) = s ++ unescape rest := by
  induction s with
  | nil => rfl
  | cons c s ih => rw [List.flatMap_cons, List.append_assoc, unescape_escapeChar, ih]; rfl

theorem closedInside_plain {q : Char} {ds : List Char} (plain : ∀ c ∈ ds, c ≠ '\\' ∧ c ≠ q)
    (rest : List Char) : closedInside q (ds ++ rest) = closedInside q rest := by
  induction ds with
  | nil => rfl
  | cons d ds ih =>
    obtain ⟨notEscape, notQuote⟩ := plain d List.mem_cons_self
    rw [List.cons_append, closedInside.eq_4 q d _ (fun h => absurd h notEscape)
      (fun _ _ h => absurd h notEscape), ih fun c mem => plain c (List.mem_cons_of_mem d mem)]
    simp [notQuote]

theorem closedInside_escapeChar (c : Char) (rest : List Char) :
    closedInside '"' (escapeChar c ++ rest) = closedInside '"' rest := by
  have escaped : ∀ x ds, (∀ d ∈ ds, d ≠ '\\' ∧ d ≠ '"') →
      closedInside '"' ('\\' :: x :: ds ++ rest) = closedInside '"' rest := by
    intro x ds plain
    rw [List.cons_append, List.cons_append, closedInside.eq_3, closedInside_plain plain]
  unfold escapeChar
  by_cases backslash : c = '\\'
  · rw [if_pos backslash]; exact escaped _ [] (by simp)
  rw [if_neg backslash]
  by_cases quote : c = '"'
  · rw [if_pos quote]; exact escaped _ [] (by simp)
  rw [if_neg quote]
  by_cases newline : c = '\n'
  · rw [if_pos newline]; exact escaped _ [] (by simp)
  rw [if_neg newline]
  by_cases ret : c = '\r'
  · rw [if_pos ret]; exact escaped _ [] (by simp)
  rw [if_neg ret]
  by_cases tab : c = '\t'
  · rw [if_pos tab]; exact escaped _ [] (by simp)
  rw [if_neg tab]
  by_cases line : c.toNat = 0x2028
  · rw [if_pos line]; exact escaped 'u' ['2', '0', '2', '8'] (by simp)
  rw [if_neg line]
  by_cases para : c.toNat = 0x2029
  · rw [if_pos para]; exact escaped 'u' ['2', '0', '2', '9'] (by simp)
  rw [if_neg para]
  by_cases control : c.toNat < 0x20
  · rw [if_pos control]
    obtain ⟨-, -, noEscape, noQuote, -⟩ := hexByte_control ⟨c.toNat, control⟩
    exact escaped 'x' _ fun d mem => ⟨fun h => noEscape (h ▸ mem), fun h => noQuote (h ▸ mem)⟩
  rw [if_neg control]
  exact @closedInside_plain '"' [c] (by simpa using ⟨backslash, quote⟩) rest

theorem closedInside_escape (s : List Char) : closedInside '"' (s.flatMap escapeChar) = true := by
  induction s with
  | nil => rfl
  | cons c s ih => rw [List.flatMap_cons, closedInside_escapeChar, ih]

end Text

/-! ### Literals read back -/

theorem literalText_quote (s : String) :
    literalText (quote s) = '"' :: (s.toList.flatMap escapeChar ++ ['"']) := by
  have ends : trimBlank ('"' :: (s.toList.flatMap escapeChar ++ ['"'])) =
      '"' :: (s.toList.flatMap escapeChar ++ ['"']) := by
    apply trimBlank_eq_self
    · simp [isBlank]
    · intro c mem
      rw [← List.cons_append, List.getLast?_concat, Option.mem_some_iff] at mem
      subst mem
      decide
  rw [literalText, quote, String.toList_ofList, List.cons_append, ends,
    stripParens_of_head (by simp)]

theorem Literal.ofSource?_quote (s : String) : Literal.ofSource? (quote s) = some (.str s) := by
  apply Literal.ofSource?_of_stringLiteral?
  rw [literalText_quote, stringLiteral?_eq_some]
  refine ⟨'"', s.toList.flatMap escapeChar, rfl, by decide, closedInside_escape _, by simp, ?_⟩
  rw [← List.append_nil (s.toList.flatMap escapeChar), unescape_escape, unescape_nil,
    List.append_nil, String.ofList_toList]

theorem Literal.ofSource?_num_text {code n : String}
    (h : Literal.ofSource? code = some (.num n)) : Literal.ofSource? n = some (.num n) := by
  obtain ⟨number, rfl⟩ := Literal.ofSource?_spec h
  rw [← literalText_literalText code] at number
  have := Literal.ofSource?_of_isNumberText number
  rwa [literalText_literalText] at this

/-- Every literal the reader can return reads back from the text it is written as; each string
is written as a double-quoted literal that closes only at its end and whose escapes read back
as the string. -/
theorem rendered_literal_reads_back :
    (∀ l : Literal, (∀ n, l = .num n → ∃ code, Literal.ofSource? code = some l) →
      Literal.ofSource? l.render = some l) ∧
    ∀ s : String, closedInside '"' (s.toList.flatMap escapeChar) = true ∧
      unescape (s.toList.flatMap escapeChar) = s.toList := by
  refine ⟨fun l returned => ?_, fun s => ⟨closedInside_escape _, ?_⟩⟩
  · cases l with
    | str s => exact Literal.ofSource?_quote s
    | num n =>
      obtain ⟨code, read⟩ := returned n rfl
      exact Literal.ofSource?_num_text read
    | bool b => cases b <;> decide +kernel
    | null => decide +kernel
    | undefined => decide +kernel
  · rw [← List.append_nil (s.toList.flatMap escapeChar), unescape_escape, unescape_nil,
      List.append_nil]

theorem rendered_number_reads_back :
    (∃ code, Literal.ofSource? code = some (.num "-1.5")) ∧
      Literal.ofSource? (Literal.num "-1.5").render = some (.num "-1.5") :=
  ⟨⟨" ( -1.5 ) ", by decide +kernel⟩,
    rendered_literal_reads_back.1 _ fun _ _ => ⟨" ( -1.5 ) ", by decide +kernel⟩⟩

end JsxVNode
