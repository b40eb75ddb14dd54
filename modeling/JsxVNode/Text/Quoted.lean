import JsxVNode.Text.Entity
/-!
Quoted string literals of script code, in both directions.

* `quote` writes a double-quoted literal: backslash, quote, the three line characters, tab and
  the two Unicode separators get their short escapes, the other control characters below `0x20`
  are written `\xhh` in lower-case hex, and everything else stands as itself.
* `unescape` reads the escapes inside a literal: the one-letter escapes, `\0` when no digit
  follows, `\xhh`, `\u{h…}`, `\uhhhh` (a surrogate pair joins into one character, a lone high
  surrogate becomes `U+FFFD`), line continuations, and any other escaped character as itself.
  A malformed `\x` or `\u` escape is kept as its two letters; digits it read are lost.
-/
namespace JsxVNode.Text

def hexByte (n : Nat) : List Char :=
  let digit (d : Nat) : Char := if d < 10 then Char.ofNat (48 + d) else Char.ofNat (87 + d)
  [digit (n / 16 % 16), digit (n % 16)]

def escapeChar (c : Char) : List Char :=
  if c = '\\' then ['\\', '\\']
  else if c = '"' then ['\\', '"']
  else if c = '\n' then ['\\', 'n']
  else if c = '\r' then ['\\', 'r']
  else if c = '\t' then ['\\', 't']
  else if c.toNat = 0x2028 then "\\u2028".toList
  else if c.toNat = 0x2029 then "\\u2029".toList
  else if c.toNat < 0x20 then '\\' :: 'x' :: hexByte c.toNat
  else [c]

def quote (s : String) : String :=
  String.ofList ('"' :: s.toList.flatMap escapeChar ++ ['"'])

def isHex (c : Char) : Bool := (digitValue 16 c).isSome

/-- The value of a run of hex digits, read as an unsigned 32-bit number: an optional `+`, then at
least one digit, and no overflow. -/
def hex32? (digits : List Char) : Option Nat :=
  let ds := match digits with
    | '+' :: d :: rest => d :: rest
    | ds => ds
  if ds.isEmpty then none
  else (digitsValue 16 ds).bind fun n => if n < 0x100000000 then some n else none

/-- Reads up to `n` hex digits: the value when all `n` are there, and what is left. A run that
stops short consumes its digits and gives no value. -/
def takeHex (n : Nat) (cs : List Char) : Option Nat × List Char :=
  let ds := (cs.takeWhile isHex).take n
  (if ds.length = n then digitsValue 16 ds else none, cs.drop ds.length)

theorem takeHex_length_le (n : Nat) (cs : List Char) : (takeHex n cs).2.length ≤ cs.length := by
  simp [takeHex]

def lowSurrogate? : List Char → Option (Nat × List Char)
  | '\\' :: 'u' :: rest =>
    match takeHex 4 rest with
    | (some v, after) => if 0xDC00 ≤ v ∧ v ≤ 0xDFFF then some (v, after) else none
    | (none, _) => none
  | _ => none

theorem lowSurrogate_length {cs : List Char} {v : Nat} {after : List Char}
    (h : lowSurrogate? cs = some (v, after)) : after.length < cs.length := by
  unfold lowSurrogate? at h
  split at h
  · rename_i rest
    split at h
    · rename_i w a hw
      split at h
      · simp only [Option.some.injEq, Prod.mk.injEq] at h
        obtain ⟨-, rfl⟩ := h
        have := takeHex_length_le 4 rest
        rw [hw] at this
        simp at this ⊢; omega
      · simp at h
    · simp at h
  · simp at h

def pushCode (code : Option Nat) (raw : List Char) : List Char :=
  match code.bind scalar? with
  | some c => [c]
  | none => raw

def unescape : List Char → List Char
  | [] => []
  | '\\' :: rest =>
    match rest with
    | [] => ['\\']
    | 'n' :: r => '\n' :: unescape r
    | 'r' :: r => '\r' :: unescape r
    | 't' :: r => '\t' :: unescape r
    | 'b' :: r => '\x08' :: unescape r
    | 'f' :: r => '\x0c' :: unescape r
    | 'v' :: r => '\x0b' :: unescape r
    | '0' :: r =>
      if r.head?.map Char.isDigit = some true then '0' :: unescape r else '\x00' :: unescape r
    | 'x' :: r =>
      match h : takeHex 2 r with
      | (code, after) =>
        have : after.length < r.length + 2 := by
          have := takeHex_length_le 2 r; rw [h] at this; dsimp only at this; omega
        pushCode code ['\\', 'x'] ++ unescape after
    | 'u' :: '\x7b' :: r =>
      let digits := r.takeWhile (· ≠ '\x7d')
      let after := (r.drop digits.length).drop 1
      have : after.length < r.length + 3 := by simp only [after, List.length_drop]; omega
      pushCode (hex32? digits) ['\\', 'u'] ++ unescape after
    | 'u' :: r =>
      match h : takeHex 4 r with
      | (some high, after) =>
        have : after.length < r.length + 2 := by
          have := takeHex_length_le 4 r; rw [h] at this; dsimp only at this; omega
        if 0xD800 ≤ high ∧ high ≤ 0xDBFF then
          match h' : lowSurrogate? after with
          | some (low, after') =>
            have : after'.length < r.length + 2 := by
              have := lowSurrogate_length h'; omega
            pushCode (some (0x10000 + (high - 0xD800) * 1024 + (low - 0xDC00))) ['\\', 'u'] ++
              unescape after'
          | none => '\uFFFD' :: unescape after
        else pushCode (some high) ['\\', 'u'] ++ unescape after
      | (none, after) =>
        have : after.length < r.length + 2 := by
          have := takeHex_length_le 4 r; rw [h] at this; dsimp only at this; omega
        '\\' :: 'u' :: unescape after
    | '\r' :: '\n' :: r => unescape r
    | '\r' :: r => unescape r
    | c :: r =>
      if c = '\n' ∨ c.toNat = 0x2028 ∨ c.toNat = 0x2029 then unescape r else c :: unescape r
  | c :: rest => c :: unescape rest
termination_by cs => cs.length
decreasing_by all_goals (simp only [List.length_cons]; omega)

theorem unescape_nil : unescape [] = [] := by rw [unescape]

end JsxVNode.Text
