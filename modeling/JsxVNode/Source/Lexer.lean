import JsxVNode.Source.Token
import JsxVNode.Text.Entity
/-!
Reading tokens of script source. The reader is driven by the grammar, which asks for the next
token in one of several modes: ordinary code, a regular expression where an expression starts,
the rest of a template after a substitution, the text between markup tags, a markup attribute
string, and the rest of a dashed markup name.

String values are cooked: escapes are decoded, and a surrogate escape that has no partner is kept
as `U+FFFD` followed by the unit's four hex digits (a `U+FFFD` already in such a string is
written `U+FFFD` `fffd`), so that the value stays Unicode text.
-/
namespace JsxVNode.Source

abbrev Src := Array Char

def Src.at (src : Src) (i : Nat) : Option Char := src[i]?

def Src.slice (src : Src) (start stop : Nat) : String :=
  String.ofList ((src.extract start stop).toList)

def Src.startsWith (src : Src) (i : Nat) (s : String) : Bool :=
  (s.toList.zipIdx.all fun (c, k) => src[i + k]? == some c)

def lineEnd (src : Src) (j : Nat) : Nat :=
  if h : j < src.size then
    if isLineBreak src[j] then j else lineEnd src (j + 1)
  else j
termination_by src.size - j

theorem lineEnd_ge (src : Src) (j : Nat) : j ≤ lineEnd src j := by
  induction j using lineEnd.induct src with
  | case1 j h hb => rw [lineEnd]; simp [h, hb]
  | case2 j h hb ih => rw [lineEnd]; simp [h, hb]; omega
  | case3 j h => rw [lineEnd]; simp [h]

def blockEnd (src : Src) (j : Nat) (sawBreak : Bool) : Option (Nat × Bool) :=
  if h : j < src.size then
    if src[j] == '*' && src[j + 1]? == some '/' then some (j + 2, sawBreak)
    else blockEnd src (j + 1) (sawBreak || isLineBreak src[j])
  else none
termination_by src.size - j

theorem blockEnd_gt (src : Src) (j : Nat) (b : Bool) (k : Nat) (b' : Bool)
    (e : blockEnd src j b = some (k, b')) : j < k := by
  induction j, b using blockEnd.induct src with
  | case1 j b h hs =>
    rw [blockEnd] at e; simp only [h, hs, dite_true, ite_true, Option.some.injEq,
      Prod.mk.injEq] at e; omega
  | case2 j b h hs ih =>
    rw [blockEnd] at e; simp only [h, hs, dite_true] at e; simp at e; have := ih e; omega
  | case3 j b h => rw [blockEnd] at e; simp [h] at e

/-- Skips blanks, line breaks and comments. Gives the offset reached, whether a line break was
passed, and the error of an unterminated block comment. -/
def skipTrivia (src : Src) (i : Nat) (nl : Bool) : Nat × Bool × Option Diag :=
  if h : i < src.size then
    let c := src[i]
    if isLineBreak c then skipTrivia src (i + 1) true
    else if isSpace c then skipTrivia src (i + 1) nl
    else if c == '/' && src[i + 1]? == some '/' then
      have := lineEnd_ge src (i + 2)
      skipTrivia src (lineEnd src (i + 2)) nl
    else if c == '/' && src[i + 1]? == some '*' then
      match hb : blockEnd src (i + 2) false with
      | some (j, sawBreak) =>
        have := blockEnd_gt src (i + 2) false j sawBreak hb
        skipTrivia src j (nl || sawBreak)
      | none => (src.size, nl, some ⟨"Unterminated multiline comment", i⟩)
    else (i, nl, none)
  else (i, nl, none)
termination_by src.size - i

def scanWhile (src : Src) (p : Char → Bool) (i : Nat) : Nat :=
  if h : i < src.size then
    if p src[i] then scanWhile src p (i + 1) else i
  else i
termination_by src.size - i

def isHexDigit (c : Char) : Bool := (Text.digitValue 16 c).isSome

def hexValue (src : Src) (start stop : Nat) : Nat :=
  ((src.extract start stop).toList.foldl (fun n c => n * 16 + ((Text.digitValue 16 c).getD 0)) 0)

/-- What an escape in a string or template stands for: code units, nothing (a line
continuation), or no valid value. -/
inductive Escape where
  | units (us : List Nat)
  | nothing
  | invalid (message : String)

/-- Reads the escape whose backslash stands just before `i`; gives what it stands for and the
offset after it. In a template, octal escapes are invalid. -/
def readEscape (src : Src) (i : Nat) (template : Bool) : Escape × Nat :=
  match src[i]? with
  | none => (.invalid "Unterminated string", i)
  | some c =>
    if c == '\r' then (.nothing, if src[i + 1]? == some '\n' then i + 2 else i + 1)
    else if isLineBreak c then (.nothing, i + 1)
    else if c == 'n' then (.units [10], i + 1)
    else if c == 'r' then (.units [13], i + 1)
    else if c == 't' then (.units [9], i + 1)
    else if c == 'b' then (.units [8], i + 1)
    else if c == 'f' then (.units [12], i + 1)
    else if c == 'v' then (.units [11], i + 1)
    else if c == '0' && !((src[i + 1]?.map Char.isDigit).getD false) then (.units [0], i + 1)
    else if '0' ≤ c && c ≤ '7' then
      if template then (.invalid "Invalid escape sequence", i + 1)
      else
        let j := scanWhile src (fun d => '0' ≤ d && d ≤ '7') i
        let j := min j (i + (if c ≤ '3' then 3 else 2))
        (.units [(src.extract i j).toList.foldl (fun n d => n * 8 + (d.toNat - 48)) 0], j)
    else if c == '8' || c == '9' then
      if template then (.invalid "Invalid escape sequence", i + 1) else (.units [c.toNat], i + 1)
    else if c == 'x' then
      if (src[i + 1]?.map isHexDigit).getD false && (src[i + 2]?.map isHexDigit).getD false then
        (.units [hexValue src (i + 1) (i + 3)], i + 3)
      else (.invalid "Invalid escape sequence", i + 1)
    else if c == 'u' then
      if src[i + 1]? == some '\x7b' then
        let j := scanWhile src isHexDigit (i + 2)
        if j > i + 2 && src[j]? == some '\x7d' && hexValue src (i + 2) j ≤ 0x10FFFF then
          (.units (units (hexValue src (i + 2) j)), j + 1)
        else (.invalid "Invalid escape sequence", i + 1)
      else
        let j := min (scanWhile src isHexDigit (i + 1)) (i + 5)
        if j == i + 5 then (.units [hexValue src (i + 1) j], j)
        else (.invalid "Invalid escape sequence", i + 1)
    else (.units [c.toNat], i + 1)
where
  units (cp : Nat) : List Nat :=
    if cp < 0x10000 then [cp]
    else [0xD800 + (cp - 0x10000) / 0x400, 0xDC00 + (cp - 0x10000) % 0x400]

/-- Text from code units: surrogate pairs join; lone surrogates are marked with `U+FFFD` and
their four hex digits, and then a `U+FFFD` of the text is marked `fffd`. -/
def unitsToString (us : List Nat) : String :=
  let rec join : List Nat → List (Nat ⊕ Nat)
    | [] => []
    | [u] => [if 0xD800 ≤ u ∧ u ≤ 0xDFFF then .inr u else .inl u]
    | u :: v :: rest =>
      if 0xD800 ≤ u ∧ u ≤ 0xDBFF ∧ 0xDC00 ≤ v ∧ v ≤ 0xDFFF then
        .inl (0x10000 + (u - 0xD800) * 0x400 + (v - 0xDC00)) :: join rest
      else (if 0xD800 ≤ u ∧ u ≤ 0xDFFF then .inr u else .inl u) :: join (v :: rest)
  let cps := join us
  let lone := cps.any fun | .inr _ => true | .inl _ => false
  let hex4 (n : Nat) : List Char :=
    let d (k : Nat) : Char := if k < 10 then Char.ofNat (48 + k) else Char.ofNat (87 + k)
    [d (n / 4096 % 16), d (n / 256 % 16), d (n / 16 % 16), d (n % 16)]
  String.ofList (cps.flatMap fun
    | .inl cp => if lone && cp == 0xFFFD then '�' :: hex4 0xFFFD else [Char.ofNat cp]
    | .inr u => '�' :: hex4 u)

/-- Whether a string value holds a lone surrogate: a `U+FFFD` followed by the four hex digits
of a surrogate, as `unitsToString` marks one. -/
def hasLoneSurrogate (s : String) : Bool :=
  let rec go : List Char → Bool
    | [] => false
    | c :: rest =>
      (c == '�' && (rest.take 4).length == 4 && (rest.take 4).all isHexDigit &&
        (let v := (rest.take 4).foldl (fun n d => n * 16 + ((Text.digitValue 16 d).getD 0)) 0
         0xD800 ≤ v && v ≤ 0xDFFF)) || go rest
  go s.toList

/-- Reads the rest of a quoted string that opens at `start`, from `i`. A closed string gives
the offset after its closing quote, the code units of its value, and the malformed escapes met
(`errs` and on), each reported at its backslash: reading goes on after one. A string that a line
break or the end cuts off gives those errors with the unterminated string last, reported where
the string opens, and where reading stopped. -/
def scanString (src : Src) (quote : Char) (start i : Nat) (acc : Array Nat) (errs : List Diag) :
    Except (List Diag × Nat) (Nat × Array Nat × List Diag) :=
  if h : i < src.size then
    let c := src[i]
    if c == quote then .ok (i + 1, acc, errs)
    else if c == '\\' then
      match hr : readEscape src (i + 1) false with
      | (.units us, j) =>
        if hj : j > i then scanString src quote start j (acc ++ us.toArray) errs
        else .ok (i + 1, acc, errs)
      | (.nothing, j) =>
        if hj : j > i then scanString src quote start j acc errs else .ok (i + 1, acc, errs)
      | (.invalid m, j) =>
        if m == "Unterminated string" then .error (errs ++ [⟨m, start⟩], j)
        else if hj : j > i then scanString src quote start j acc (errs ++ [⟨m, i⟩])
        else .error (errs ++ [⟨m, i⟩], j)
    else if c == '\n' || c == '\r' then .error (errs ++ [⟨"Unterminated string", start⟩], i)
    else scanString src quote start (i + 1) (acc.push c.toNat) errs
  else .error (errs ++ [⟨"Unterminated string", start⟩], i)
termination_by src.size - i

/-- Reads a template piece from just after its opening backtick or closing brace: the offset
after it, its cooked value (none when an escape is invalid), and whether it closes the template.
Line breaks `\r\n` and `\r` cook to `\n`. -/
def scanTemplate (src : Src) (i : Nat) (acc : Option (Array Nat)) :
    Option (Nat × Option (Array Nat) × Bool) :=
  if h : i < src.size then
    let c := src[i]
    if c == '`' then some (i + 1, acc, true)
    else if c == '$' && src[i + 1]? == some '\x7b' then some (i + 2, acc, false)
    else if c == '\\' then
      match readEscape src (i + 1) true with
      | (.units us, j) =>
        if hj : j > i then scanTemplate src j (acc.map (· ++ us.toArray)) else none
      | (.nothing, j) => if hj : j > i then scanTemplate src j acc else none
      | (.invalid _, j) => if hj : j > i then scanTemplate src j none else none
    else if c == '\r' then
      if src[i + 1]? == some '\n' then scanTemplate src (i + 2) (acc.map (·.push 10))
      else scanTemplate src (i + 1) (acc.map (·.push 10))
    else scanTemplate src (i + 1) (acc.map (·.push c.toNat))
  else none
termination_by src.size - i

/-- Reads the body of a regular expression after its opening slash: the offset after the
closing slash, or none when a line break or the end comes first. -/
def scanRegex (src : Src) (i : Nat) (inClass : Bool) : Option Nat :=
  if h : i < src.size then
    let c := src[i]
    if isLineBreak c then none
    else if c == '\\' then
      match src[i + 1]? with
      | some d => if isLineBreak d then none else scanRegex src (i + 2) inClass
      | none => none
    else if c == '[' then scanRegex src (i + 1) true
    else if c == ']' then scanRegex src (i + 1) false
    else if c == '/' && !inClass then some (i + 1)
    else scanRegex src (i + 1) inClass
  else none
termination_by src.size - i

/-- Punctuators, longest first. `>` stands alone: longer operators that start with it are
joined by the grammar where it reads operators. -/
def punctuators : List String :=
  ["...", "===", "!==", "**=", "<<=", "&&=", "||=", "??=",
    "=>", "==", "!=", "<=", "<<", "+=", "-=", "*=", "/=", "%=", "&=", "|=", "^=", "&&", "||",
    "??", "?.", "++", "--", "**",
    "\x7b", "\x7d", "(", ")", "[", "]", ";", ",", "<", ">", "+", "-", "*", "/", "%", "&", "|", "^",
    "!", "~", "?", ":", "=", ".", "@"]

/-- Reads the escape of an identifier whose backslash stands just before `i`: the offset after
it, and the character it stands for or the error it makes. Only `\u` escapes of one code point
belong in identifiers; anything else is an invalid escape, reported just after the backslash.
An escaped character that cannot stand where it is written is reported just after the escape. -/
def identEscape (src : Src) (i : Nat) (first : Bool) : Nat × Except Diag Char :=
  let invalid (j : Nat) : Nat × Except Diag Char := (j, .error ⟨"Invalid Unicode escape sequence", i⟩)
  match src[i]? with
  | none => invalid i
  | some 'u' =>
    let decoded : Option (Nat × Nat) :=
      if src[i + 1]? == some '\x7b' then
        let j := scanWhile src isHexDigit (i + 2)
        if j > i + 2 && src[j]? == some '\x7d' && hexValue src (i + 2) j ≤ 0x10FFFF then
          some (hexValue src (i + 2) j, j + 1)
        else none
      else
        let j := min (scanWhile src isHexDigit (i + 1)) (i + 5)
        if j == i + 5 then some (hexValue src (i + 1) j, j) else none
    match decoded with
    | none =>
      invalid (if src[i + 1]? == some '\x7b' then scanWhile src isHexDigit (i + 2)
        else min (scanWhile src isHexDigit (i + 1)) (i + 5))
    | some (cp, j) =>
      if h : cp.isValidChar then
        let ch := Char.ofNatAux cp h
        if (if first then Text.isIdentStart ch else Text.isIdentPart ch) then (j, .ok ch)
        else (j, .error ⟨"Invalid Character `" ++ ch.toString ++ "`", j⟩)
      -- a high surrogate and the escape of a low one after it are read as one pair
      else if 0xD800 ≤ cp && cp ≤ 0xDBFF && src.startsWith j "\\u" &&
          min (scanWhile src isHexDigit (j + 2)) (j + 6) == j + 6 then invalid (j + 6)
      else invalid j
  | some _ => invalid (i + 1)

/-- Reads an identifier from `i`, decoding `\u` escapes: the offset after it, its name, whether
it had an escape, and the errors of its malformed escapes. Reading goes on after a malformed
escape, which adds nothing to the name. -/
def scanIdent (src : Src) (i : Nat) (acc : List Char) (escaped : Bool) (first : Bool)
    (errs : List Diag) : Nat × String × Bool × List Diag :=
  if h : i < src.size then
    let c := src[i]
    if (if first then Text.isIdentStart c else Text.isIdentPart c) then
      scanIdent src (i + 1) (c :: acc) escaped false errs
    else if c == '\\' then
      let (j, r) := identEscape src (i + 1) first
      if hj : j > i then
        match r with
        | .ok ch => scanIdent src j (ch :: acc) true false errs
        | .error d => scanIdent src j acc true false (errs ++ [d])
      else scanIdent src (i + 1) acc true false errs
    else (i, String.ofList acc.reverse, escaped, errs)
  else (i, String.ofList acc.reverse, escaped, errs)
termination_by src.size - i

/-- The error for a character that cannot continue a number: the character itself, or the end
of the text. -/
def invalidAt (src : Src) (j : Nat) : Diag :=
  match src[j]? with
  | some c => ⟨"Invalid Character `" ++ c.toString ++ "`", j⟩
  | none => ⟨"Unexpected end of file", j⟩

/-- Reads the digits of a number after its first one. A separator `_` must be followed by a
digit; when it is not, the character after it is the error and reading stops there. -/
def digitsAfterFirst (src : Src) (p : Char → Bool) (j : Nat) : Nat × Option Diag :=
  if h : j < src.size then
    let c := src[j]
    if c == '_' then
      if (src[j + 1]?.map p).getD false then digitsAfterFirst src p (j + 2)
      else (j + 1, some (invalidAt src (j + 1)))
    else if p c then digitsAfterFirst src p (j + 1)
    else (j, none)
  else (j, none)
termination_by src.size - j

def decimalDigits (src : Src) (j : Nat) : Nat × Option Diag :=
  if (src[j]?.map Char.isDigit).getD false then digitsAfterFirst src Char.isDigit (j + 1)
  else (j, some (invalidAt src j))

def optionalDigits (src : Src) (j : Nat) : Nat × Option Diag :=
  if (src[j]?.map Char.isDigit).getD false then digitsAfterFirst src Char.isDigit (j + 1)
  else (j, none)

def exponentDigits (src : Src) (j : Nat) : Nat × Option Diag :=
  decimalDigits src (if src[j]? == some '+' || src[j]? == some '-' then j + 1 else j)

def optionalExponent (src : Src) (j : Nat) : Nat × Option Diag :=
  if src[j]? == some 'e' || src[j]? == some 'E' then exponentDigits src (j + 1) else (j, none)

/-- How a number token ends at `j`. A digit or a character that may start a name must not
follow a number: the characters of that name are taken into the token, which is then
unreadable. An escape (`\u`) is not such a character: the number ends before it. Gives the
end, the error, and whether the token is unreadable. -/
def numberEnd (src : Src) (j : Nat) : Nat × Option Diag × Bool :=
  match src[j]? with
  | some c =>
    if c.isDigit || Text.isIdentStart c then
      (scanWhile src Text.isIdentPart (j + 1), some ⟨"Invalid characters after number", j⟩, true)
    else (j, none, false)
  | none => (j, none, false)

def afterPoint (src : Src) (j : Nat) : Nat × List Diag × Bool :=
  let (j, e1) := optionalDigits src j
  let (j, e2) := optionalExponent src j
  let (j, e3, bad) := numberEnd src j
  (j, [e1, e2, e3].filterMap id, bad)

/-- Reads a number in base 2, 8 or 16 whose digits start at `j`: at least one digit, separators
between digits, and an optional BigInt suffix. A missing digit makes the token unreadable. -/
def radixNumber (src : Src) (p : Char → Bool) (j : Nat) : Nat × List Diag × Bool :=
  if (src[j]?.map p).getD false then
    match digitsAfterFirst src p (j + 1) with
    | (k, some e) => (k, [e], true)
    | (k, none) =>
      let (k, e, bad) := numberEnd src (if src[k]? == some 'n' then k + 1 else k)
      (k, e.toList, bad)
  else (j, [invalidAt src j], true)

/-- Reads a number that starts with `0` and another digit at `j`: octal digits, or decimal ones
when an `8` or `9` is among them, which may then take a fraction or a lower-case exponent. -/
def legacyNumber (src : Src) (j : Nat) : Nat × List Diag × Bool :=
  let k := scanWhile src Char.isDigit j
  let decimal := (src.extract j k).any fun d => d == '8' || d == '9'
  if decimal && src[k]? == some '.' then afterPoint src (k + 1)
  else if decimal && src[k]? == some 'e' then
    let (k, e) := exponentDigits src (k + 1)
    (k, e.toList, false)
  else
    let (k, e, bad) := numberEnd src k
    (k, e.toList, bad)

/-- Reads a number from `i`, which holds a digit, or a point followed by a digit. Gives the
offset after it, its errors in the order found, and whether the token is unreadable. -/
def scanNumber (src : Src) (i : Nat) : Nat × List Diag × Bool :=
  let c := (src[i]?).getD ' '
  let next := (src[i + 1]?).getD ' '
  if c == '.' then
    let (j, e1) := decimalDigits src (i + 1)
    let (j, e2) := optionalExponent src j
    let (j, e3, bad) := numberEnd src j
    (j, [e1, e2, e3].filterMap id, bad)
  else if c == '0' then
    if next == 'x' || next == 'X' then radixNumber src isHexDigit (i + 2)
    else if next == 'o' || next == 'O' then radixNumber src (fun d => '0' ≤ d && d ≤ '7') (i + 2)
    else if next == 'b' || next == 'B' then radixNumber src (fun d => d == '0' || d == '1') (i + 2)
    else if next == 'e' || next == 'E' then
      let (j, e) := exponentDigits src (i + 2)
      (j, e.toList, false)
    else if next == '.' then afterPoint src (i + 2)
    else if next == 'n' then
      let (j, e, bad) := numberEnd src (i + 2)
      (j, e.toList, bad)
    else if next.isDigit then legacyNumber src (i + 1)
    else
      let (j, e, bad) := numberEnd src (i + 1)
      (j, e.toList, bad)
  else
    let (j, e1) := digitsAfterFirst src Char.isDigit (i + 1)
    if src[j]? == some '.' then
      let (j, es, bad) := afterPoint src (j + 1)
      (j, e1.toList ++ es, bad)
    else if src[j]? == some 'n' then
      let (j, e2, bad) := numberEnd src (j + 1)
      (j, e1.toList ++ e2.toList, bad)
    else
      let (j, e2) := optionalExponent src j
      let (j, e3, bad) := numberEnd src j
      (j, [e1, e2, e3].filterMap id, bad)

def readToken (src : Src) (i : Nat) : Kind × Nat × List Diag :=
  match src[i]? with
  | none => (.eof, i, [])
  | some c =>
    if Text.isIdentStart c || c == '\\' then
      let (j, name, escaped, errs) := scanIdent src i [] false true []
      if j == i then (.undetermined, i + 1, errs) else (.ident name escaped, j, errs)
    else if c.isDigit || (c == '.' && ((src[i + 1]?).map Char.isDigit).getD false) then
      let (j, errs, bad) := scanNumber src i
      (if bad then .undetermined else .number (src.slice i j), j, errs)
    else if c == '"' || c == '\'' then
      match scanString src c i (i + 1) #[] [] with
      | .ok (j, us, errs) => (.string (unitsToString us.toList), j, errs)
      | .error (ds, j) => (.undetermined, max j (i + 1), ds)
    else if c == '`' then
      match scanTemplate src (i + 1) (some #[]) with
      | some (j, cooked, closes) =>
        (.template (cooked.map fun us => unitsToString us.toList) closes, j, [])
      | none => (.undetermined, src.size, [⟨"Unterminated string", i⟩])
    else if c == '#' then
      match src[i + 1]? with
      | some d =>
        if Text.isIdentStart d || d == '\\' then
          let (j, name, _, errs) := scanIdent src (i + 1) [] false true []
          (.privateName name, j, errs)
        else (.undetermined, i + 2, [⟨"Invalid Character `" ++ d.toString ++ "`", i + 1⟩])
      | none => (.undetermined, i + 1, [⟨"Unexpected end of file", i + 1⟩])
    else
      let p := punctuators.find? fun p =>
        src.startsWith i p &&
          !(p == "?." && ((src[i + 2]?).map Char.isDigit).getD false)
      match p with
      | some p => (.punct p, i + p.length, [])
      | none => (.undetermined, i + 1, [⟨"Invalid Character `" ++ c.toString ++ "`", i⟩])

def regexFlags : List Char := ['d', 'g', 'i', 'm', 's', 'u', 'v', 'y']

/-- Reads a regular expression whose slash is at `i`: its end and the error of its flags, or
none when it is not closed before a line break or the end. The flags are the ASCII letters,
digits, `_` and `$` after the closing slash (any other character starts the next token); they
are known and not repeated, and `u` and `v` exclude each other. -/
def readRegex (src : Src) (i : Nat) : Option (Nat × Option Diag) :=
  match scanRegex src (i + 1) false with
  | none => none
  | some j =>
    let k := scanWhile src (fun c => c.isAlphanum || c == '_' || c == '$') j
    let flags := (src.extract j k).toList
    let bad := flags.zipIdx.find? fun (f, n) => !regexFlags.contains f || (flags.take n).contains f
    match bad with
    | some (f, n) =>
      if regexFlags.contains f then
        some (k, some ⟨"Flag " ++ f.toString ++ " is mentioned twice in regular expression literal", j + n⟩)
      else some (k, some ⟨"Unexpected flag " ++ f.toString ++ " in regular expression literal", j + n⟩)
    | none =>
      if flags.contains 'u' && flags.contains 'v' then
        some (k, some ⟨"The 'u' and 'v' regular expression flags cannot be enabled at the same time", i⟩)
      else some (k, none)

/-- Reads markup text at `i`, up to `<` or `{`. Text that runs to the end reads as the end, placed
at the text's start. A `>` or `}` in the text is an error: it most likely closes something that
was never opened. -/
def readJsxChild (src : Src) (i : Nat) : Kind × Nat × Option Diag :=
  match src[i]? with
  | none => (.eof, i, none)
  | some '<' => (.punct "<", i + 1, none)
  | some '\x7b' => (.punct "\x7b", i + 1, none)
  | some _ =>
    let j := scanWhile src (fun c => c != '<' && c != '\x7b') i
    let err := match ((src.extract i j).toList.zipIdx.find? fun (c, _) => c == '>' || c == '\x7d') with
      | some ('>', k) => some ⟨"Unexpected token. Did you mean `\x7b'>'\x7d` or `&gt;`?", i + k⟩
      | some (_, k) => some ⟨"Unexpected token. Did you mean `\x7b'\x7d'\x7d` or `&rbrace;`?", i + k⟩
      | none => none
    if j ≥ src.size then (.eof, i, err) else (.jsxText, j, err)

def readJsxString (src : Src) (i : Nat) (quote : Char) : Kind × Nat × Option Diag :=
  let j := scanWhile src (· != quote) (i + 1)
  if j ≥ src.size then (.undetermined, src.size, some ⟨"Unterminated string", i⟩)
  else (.string (src.slice (i + 1) j), j + 1, none)

def jsxNameEnd (src : Src) (i : Nat) : Nat :=
  if src[i]? == some '-' then scanWhile src (fun c => c == '-' || Text.isIdentPart c) i else i

end JsxVNode.Source
