import JsxVNode.Json.Message
/-!
Reading JSON text the way the compiler's configuration reader does, byte by byte, with the same
messages and positions. A position is a line (counted from 1) and a column counted in bytes
since the last line break. Errors found while looking at a byte without taking it point one
byte further; errors found after taking bytes point just after them. Type errors raised while
decoding a value get the position reached when they are raised.
-/
namespace JsxVNode

/-- An error of JSON reading or decoding, with its position; line `0` means no position. -/
structure JsonError where
  message : String
  line : Nat := 0
  column : Nat := 0
deriving DecidableEq, Repr, Inhabited

def JsonError.render (e : JsonError) : String :=
  if e.line == 0 then e.message
  else e.message ++ " at line " ++ toString e.line ++ " column " ++ toString e.column

abbrev JsonReader := ReaderT ByteArray (EStateM JsonError Nat)

namespace JsonReader

def positionOf (b : ByteArray) (i : Nat) : Nat × Nat :=
  let before := (b.extract 0 i).toList
  let lineStart := match (before.zipIdx.filter (·.1 == 10)).getLast? with
    | some (_, k) => k + 1
    | none => 0
  (1 + (before.take lineStart).count 10, i - lineStart)

def errorHere (message : String) : JsonReader JsonError := do
  let (line, column) := positionOf (← read) (← get)
  return { message, line, column }

def errorAhead (message : String) : JsonReader JsonError := do
  let b ← read
  let (line, column) := positionOf b (min b.size ((← get) + 1))
  return { message, line, column }

def failHere {α : Type} (message : String) : JsonReader α := do throw (← errorHere message)

def failAhead {α : Type} (message : String) : JsonReader α := do throw (← errorAhead message)

def placed (e : JsonError) : JsonReader JsonError := do
  if e.line == 0 then
    let (line, column) := positionOf (← read) (← get)
    return { e with line, column }
  else return e

def peek? : JsonReader (Option UInt8) := do return (← read)[← get]?

def bump : JsonReader Unit := modify (· + 1)

def next? : JsonReader (Option UInt8) := do
  let c ← peek?
  if c.isSome then bump
  return c

def skipBlanks : Nat → JsonReader (Option UInt8)
  | 0 => peek?
  | n + 1 => do
    match ← peek? with
    | some c =>
      if c == 32 || c == 10 || c == 9 || c == 13 then
        bump
        skipBlanks n
      else return some c
    | none => return none

def blanks : JsonReader (Option UInt8) := do skipBlanks ((← read).size + 1)

def ident : List UInt8 → JsonReader Unit
  | [] => pure ()
  | c :: rest => do
    match ← next? with
    | none => failHere "EOF while parsing a value"
    | some d => if d == c then ident rest else failHere "expected ident"

def isDigit (c : UInt8) : Bool := 48 ≤ c && c ≤ 57

def digits : Nat → Nat → Nat → JsonReader (Nat × Nat)
  | 0, acc, count => pure (acc, count)
  | n + 1, acc, count => do
    match ← peek? with
    | some c =>
      if isDigit c then
        bump
        digits n (acc * 10 + (c - 48).toNat) (count + 1)
      else return (acc, count)
    | none => return (acc, count)

def u64Max : Nat := 0xFFFFFFFFFFFFFFFF

def i32Max : Nat := 0x7FFFFFFF

def overflows (a b limit : Nat) : Bool := a ≥ limit / 10 && (a > limit / 10 || b > limit % 10)

def saturate (e : Int) : Int := max (-(i32Max : Int) - 1) (min e i32Max)

/-- The number `±significand · 10^exponent`, scaled as `Binary64.scaled` does, or an error
where reading stopped when it is too large. -/
def fromParts (positive : Bool) (significand : Nat) (exponent : Int) : JsonReader JsonNumber := do
  match Binary64.scaled significand exponent with
  | some f => return .float (if positive then f else f.neg)
  | none => failHere "number out of range"

def skipDigitsFor : Nat → JsonReader Unit
  | 0 => pure ()
  | n + 1 => do
    match ← peek? with
    | some c => if isDigit c then do bump; skipDigitsFor n else pure ()
    | none => pure ()

/-- An exponent too large for 32 bits: out of range when it is positive and the significand is
not zero, and otherwise a zero of the number's sign, its remaining digits skipped. -/
def exponentOverflow (positive zeroSignificand positiveExponent : Bool) :
    JsonReader JsonNumber := do
  if !zeroSignificand && positiveExponent then failHere "number out of range"
  skipDigitsFor ((← read).size + 1)
  return .float (if positive then Binary64.zero else Binary64.zero.neg)

def exponentDigits (positive : Bool) (significand : Nat) (start : Int) (positiveExponent : Bool) :
    Nat → Nat → JsonReader JsonNumber
  | 0, e => fromParts positive significand (saturate (if positiveExponent then start + e else start - e))
  | n + 1, e => do
    match ← peek? with
    | some c =>
      if isDigit c then
        bump
        let d := (c - 48).toNat
        if overflows e d i32Max then exponentOverflow positive (significand == 0) positiveExponent
        else exponentDigits positive significand start positiveExponent n (e * 10 + d)
      else exponentDigits positive significand start positiveExponent 0 e
    | none => exponentDigits positive significand start positiveExponent 0 e

def exponentPart (positive : Bool) (significand : Nat) (start : Int) : JsonReader JsonNumber := do
  bump
  let positiveExponent ← match ← peek? with
    | some 43 => do bump; pure true
    | some 45 => do bump; pure false
    | _ => pure true
  match ← next? with
  | none => failHere "EOF while parsing a value"
  | some d =>
    if !isDigit d then failHere "invalid number"
    exponentDigits positive significand start positiveExponent ((← read).size + 1) (d - 48).toNat

def afterSignificand (positive : Bool) (significand : Nat) (exponent : Int) :
    JsonReader JsonNumber := do
  match ← peek? with
  | some 101 | some 69 => exponentPart positive significand exponent
  | _ => fromParts positive significand exponent

/-- Takes the digits after the point; once the significand would overflow, the remaining digits
are skipped. At least one digit must follow the point. -/
def fractionDigits (positive : Bool) (start : Int) : Nat → Nat → Nat → JsonReader JsonNumber
  | 0, s, count => fractionEnd positive s start count
  | n + 1, s, count => do
    match ← peek? with
    | some c =>
      if isDigit c then
        let d := (c - 48).toNat
        if overflows s d u64Max then
          skipDigitsFor ((← read).size + 1)
          afterSignificand positive s (start - count)
        else
          bump
          fractionDigits positive start n (s * 10 + d) (count + 1)
      else fractionEnd positive s start count
    | none => fractionEnd positive s start count
where
  fractionEnd (positive : Bool) (s : Nat) (start : Int) (count : Nat) : JsonReader JsonNumber := do
    if count == 0 then
      match ← peek? with
      | some _ => failAhead "invalid number"
      | none => failAhead "EOF while parsing a value"
    afterSignificand positive s (start - count)

def fraction (positive : Bool) (significand : Nat) (start : Int) : JsonReader JsonNumber := do
  bump
  fractionDigits positive start ((← read).size + 1) significand 0

/-- Takes the integer digits that no longer fit in the significand, each raising the exponent,
then whatever follows them. -/
def longInteger (positive : Bool) (significand : Nat) : Nat → Nat → JsonReader JsonNumber
  | 0, e => fromParts positive significand e
  | n + 1, e => do
    match ← peek? with
    | some 46 => fraction positive significand e
    | some 101 | some 69 => exponentPart positive significand e
    | some c =>
      if isDigit c then
        bump
        longInteger positive significand n (e + 1)
      else fromParts positive significand e
    | none => fromParts positive significand e

/-- What follows the integer digits of a number: a point, an exponent, or the end. A bare
integer is kept exact, except a negative one beyond the 64-bit range and negative zero. -/
def afterInteger (positive : Bool) (significand : Nat) : JsonReader JsonNumber := do
  match ← peek? with
  | some 46 => fraction positive significand 0
  | some 101 | some 69 => exponentPart positive significand 0
  | _ =>
    if positive then return .int significand
    else if significand == 0 || significand > 0x8000000000000000 then
      return .float ((Binary64.ofNat significand).getD Binary64.zero).neg
    else return .int (-(significand : Int))

def integerDigits (positive : Bool) : Nat → Nat → JsonReader JsonNumber
  | 0, s => afterInteger positive s
  | n + 1, s => do
    match ← peek? with
    | some c =>
      if isDigit c then
        let d := (c - 48).toNat
        if overflows s d u64Max then longInteger positive s ((← read).size + 1) 0
        else
          bump
          integerDigits positive n (s * 10 + d)
      else afterInteger positive s
    | none => afterInteger positive s

def number (positive : Bool) : JsonReader JsonNumber := do
  match ← next? with
  | none => failHere "EOF while parsing a value"
  | some c =>
    if c == 48 then
      match ← peek? with
      | some d => if isDigit d then failAhead "invalid number" else afterInteger positive 0
      | none => afterInteger positive 0
    else if isDigit c then integerDigits positive ((← read).size + 1) (c - 48).toNat
    else failHere "invalid number"

def hexValue (c : UInt8) : Option Nat :=
  if 48 ≤ c && c ≤ 57 then some (c - 48).toNat
  else if 97 ≤ c && c ≤ 102 then some ((c - 97).toNat + 10)
  else if 65 ≤ c && c ≤ 70 then some ((c - 65).toNat + 10)
  else none

def hex4 : JsonReader Nat := do
  let b ← read
  let i ← get
  if i + 4 > b.size then
    set b.size
    failHere "EOF while parsing a string"
  set (i + 4)
  let ds := [b[i]!, b[i + 1]!, b[i + 2]!, b[i + 3]!].map hexValue
  match ds with
  | [some a, some c, some d, some e] => return ((a * 16 + c) * 16 + d) * 16 + e
  | _ => failHere "invalid escape"

def utf8 (n : Nat) : List UInt8 :=
  if n < 0x80 then [n.toUInt8]
  else if n < 0x800 then [(0xC0 + n / 64).toUInt8, (0x80 + n % 64).toUInt8]
  else if n < 0x10000 then
    [(0xE0 + n / 4096).toUInt8, (0x80 + n / 64 % 64).toUInt8, (0x80 + n % 64).toUInt8]
  else
    [(0xF0 + n / 262144).toUInt8, (0x80 + n / 4096 % 64).toUInt8, (0x80 + n / 64 % 64).toUInt8,
      (0x80 + n % 64).toUInt8]

def unicodeEscape : JsonReader (List UInt8) := do
  let n ← hex4
  if 0xDC00 ≤ n && n ≤ 0xDFFF then failHere "lone leading surrogate in hex escape"
  if n < 0xD800 || n > 0xDBFF then return utf8 n
  match ← peek? with
  | none => failHere "EOF while parsing a string"
  | some 92 => bump
  | some _ =>
    bump
    failHere "unexpected end of hex escape"
  match ← peek? with
  | none => failHere "EOF while parsing a string"
  | some 117 => bump
  | some _ =>
    bump
    failHere "unexpected end of hex escape"
  let m ← hex4
  if m < 0xDC00 || m > 0xDFFF then failHere "lone leading surrogate in hex escape"
  return utf8 ((n - 0xD800) * 1024 + (m - 0xDC00) + 0x10000)

def stringRest : Nat → Array UInt8 → JsonReader String
  | 0, _ => failHere "EOF while parsing a string"
  | n + 1, acc => do
    match ← next? with
    | none => failHere "EOF while parsing a string"
    | some 34 => return (String.fromUTF8? (ByteArray.mk acc)).getD ""
    | some 92 =>
      match ← next? with
      | none => failHere "EOF while parsing a string"
      | some c =>
        let bytes ← match c with
          | 34 => pure [34] | 92 => pure [92] | 47 => pure [47] | 98 => pure [8]
          | 102 => pure [12] | 110 => pure [10] | 114 => pure [13] | 116 => pure [9]
          | 117 => unicodeEscape
          | _ => failHere "invalid escape"
        stringRest n (acc ++ bytes.toArray)
    | some c =>
      if c < 32 then failHere "control character (\\u0000-\\u001F) found while parsing a string"
      stringRest n (acc.push c)

def string : JsonReader String := do stringRest ((← read).size + 1) #[]

def endList : JsonReader Unit := do
  match ← blanks with
  | some 93 => bump
  | some 44 =>
    bump
    match ← blanks with
    | some 93 => failAhead "trailing comma"
    | _ => failAhead "trailing characters"
  | some _ => failAhead "trailing characters"
  | none => failAhead "EOF while parsing a list"

def endMap : JsonReader Unit := do
  match ← blanks with
  | some 125 => bump
  | some 44 => failAhead "trailing comma"
  | some _ => failAhead "trailing characters"
  | none => failAhead "EOF while parsing an object"

def key (first : Bool) : JsonReader (Option String) := do
  let peeked ← match ← blanks with
    | some 125 => return none
    | some 44 =>
      if first then pure (some 44)
      else
        bump
        blanks
    | some c => if first then pure (some c) else failAhead "expected `,` or `\x7d`"
    | none => failAhead "EOF while parsing an object"
  match peeked with
  | some 34 =>
    bump
    return some (← string)
  | some 125 => failAhead "trailing comma"
  | some _ => failAhead "key must be a string"
  | none => failAhead "EOF while parsing a value"

def colon : JsonReader Unit := do
  match ← blanks with
  | some 58 => bump
  | some _ => failAhead "expected `:`"
  | none => failAhead "EOF while parsing an object"

mutual
def value (fuel : Nat) (depth : Nat) : JsonReader Json :=
  match fuel with
  | 0 => failHere "recursion limit exceeded"
  | f + 1 => do
    match ← blanks with
    | none => failAhead "EOF while parsing a value"
    | some c =>
      if c == 110 then
        bump
        ident [117, 108, 108]
        return .null
      else if c == 116 then
        bump
        ident [114, 117, 101]
        return .bool true
      else if c == 102 then
        bump
        ident [97, 108, 115, 101]
        return .bool false
      else if c == 45 then
        bump
        return .num (← number false)
      else if isDigit c then return .num (← number true)
      else if c == 34 then
        bump
        return .str (← string)
      else if c == 91 then
        if depth ≤ 1 then failAhead "recursion limit exceeded"
        bump
        let items ← elements f (depth - 1) true
        endList
        return .arr items
      else if c == 123 then
        if depth ≤ 1 then failAhead "recursion limit exceeded"
        bump
        let fields ← members f (depth - 1) true
        endMap
        return .obj fields
      else failAhead "expected value"

def elements (fuel : Nat) (depth : Nat) (first : Bool) : JsonReader (List Json) :=
  match fuel with
  | 0 => failHere "recursion limit exceeded"
  | f + 1 => do
    let peeked ← match ← blanks with
      | some 93 => return []
      | some 44 =>
        if first then pure (some 44)
        else
          bump
          blanks
      | some c => if first then pure (some c) else failAhead "expected `,` or `]`"
      | none => failAhead "EOF while parsing a list"
    match peeked with
    | some 93 => failAhead "trailing comma"
    | some _ =>
      let v ← value f depth
      return v :: (← elements f depth false)
    | none => failAhead "EOF while parsing a value"

def members (fuel : Nat) (depth : Nat) (first : Bool) : JsonReader (List (String × Json)) :=
  match fuel with
  | 0 => failHere "recursion limit exceeded"
  | f + 1 => do
    match ← key first with
    | none => return []
    | some k =>
      colon
      let v ← value f depth
      return (k, v) :: (← members f depth false)
end

def finish : JsonReader Unit := do
  match ← blanks with
  | some _ => failAhead "trailing characters"
  | none => pure ()

def depthLimit : Nat := 128

def readAll : JsonReader Json := do
  let v ← value (2 * (← read).size + 4) depthLimit
  finish
  return v


/-- Skips the rest of a string after its opening quote, checking escapes and control
characters but not what the escapes stand for. A control character is reported where it
stands. -/
def skipStringRest : Nat → JsonReader Unit
  | 0 => failHere "EOF while parsing a string"
  | n + 1 => do
    match ← peek? with
    | none => failHere "EOF while parsing a string"
    | some 34 => bump
    | some 92 =>
      bump
      match ← next? with
      | none => failHere "EOF while parsing a string"
      | some c =>
        if c == 117 then
          let _ ← hex4
        else if !([34, 92, 47, 98, 102, 110, 114, 116].contains c) then failHere "invalid escape"
        skipStringRest n
    | some c =>
      if c < 32 then failHere "control character (\\u0000-\\u001F) found while parsing a string"
      bump
      skipStringRest n

def skipString : JsonReader Unit := do skipStringRest ((← read).size + 1)

def skipDigits : JsonReader Unit := do
  let _ ← digits ((← read).size + 1) 0 0

def skipExponent : JsonReader Unit := do
  bump
  match ← peek? with
  | some 43 | some 45 => bump
  | _ => pure ()
  match ← next? with
  | some d => if isDigit d then skipDigits else failHere "invalid number"
  | none => failHere "invalid number"

def skipNumber : JsonReader Unit := do
  match ← next? with
  | some 48 =>
    match ← peek? with
    | some d => if isDigit d then failAhead "invalid number"
    | none => pure ()
  | some c => if isDigit c then skipDigits else failHere "invalid number"
  | none => failHere "invalid number"
  match ← peek? with
  | some 46 =>
    bump
    let (_, count) ← digits ((← read).size + 1) 0 0
    if count == 0 then failAhead "invalid number"
    match ← peek? with
    | some 101 | some 69 => skipExponent
    | _ => pure ()
  | some 101 | some 69 => skipExponent
  | _ => pure ()

mutual
/-- Skips a value that is not kept: its form is checked, but not the range of its numbers,
the code points of its escapes or its nesting depth. -/
def skipValue (fuel : Nat) : JsonReader Unit :=
  match fuel with
  | 0 => failHere "recursion limit exceeded"
  | f + 1 => do
    match ← blanks with
    | none => failAhead "EOF while parsing a value"
    | some c =>
      if c == 110 then
        bump
        ident [117, 108, 108]
      else if c == 116 then
        bump
        ident [114, 117, 101]
      else if c == 102 then
        bump
        ident [97, 108, 115, 101]
      else if c == 45 then
        bump
        skipNumber
      else if isDigit c then skipNumber
      else if c == 34 then
        bump
        skipString
      else if c == 91 || c == 123 then
        bump
        skipItems f (c == 123) true
      else failAhead "expected value"

/-- Skips the items of an array or the members of an object (`members`), up to and including
the closing bracket. -/
def skipItems (fuel : Nat) (members first : Bool) : JsonReader Unit :=
  match fuel with
  | 0 => failHere "recursion limit exceeded"
  | f + 1 => do
    match ← blanks with
    | none => failAhead (if members then "EOF while parsing an object" else "EOF while parsing a list")
    | some c =>
      if c == (if members then 125 else 93) then bump
      else
        if !first then
          if c == 44 then bump
          else failAhead (if members then "expected `,` or `\x7d`" else "expected `,` or `]`")
        if members then
          match ← blanks with
          | some 34 =>
            bump
            skipString
          | some _ => failAhead "key must be a string"
          | none => failAhead "EOF while parsing an object"
          match ← blanks with
          | some 58 => bump
          | some _ => failAhead "expected `:`"
          | none => failAhead "EOF while parsing an object"
        skipValue f
        skipItems f members false
end

/-- Skips any value that is not kept, however deeply nested. Every other step of the skip
reads a character, so twice the length of the text bounds the steps. -/
def ignored : JsonReader Unit := do skipValue (2 * (← read).size + 4)

/-- Fails because the value ahead has the wrong type: the value is read when it is a scalar
(so its description can be given), and the error is placed where reading stopped. -/
def wrongType {α : Type} (expected : String) : JsonReader α := do
  let found ← match ← peek? with
    | some 110 =>
      bump
      ident [117, 108, 108]
      pure Json.null.describe
    | some 116 =>
      bump
      ident [114, 117, 101]
      pure (Json.bool true).describe
    | some 102 =>
      bump
      ident [97, 108, 115, 101]
      pure (Json.bool false).describe
    | some 45 =>
      bump
      pure (← number false).describe
    | some 34 =>
      bump
      pure (Json.str (← string)).describe
    | some 91 => pure "sequence"
    | some 123 => pure "map"
    | some c => if isDigit c then pure (← number true).describe else failAhead "expected value"
    | none => failAhead "expected value"
  throw (← placed { message := invalidType found expected })

def stringValue : JsonReader String := do
  match ← blanks with
  | none => failAhead "EOF while parsing a value"
  | some 34 =>
    bump
    string
  | some _ => wrongType "a string"

def optionalString : JsonReader (Option String) := do
  match ← blanks with
  | some 110 =>
    bump
    ident [117, 108, 108]
    return none
  | _ => return some (← stringValue)

def boolValue : JsonReader Bool := do
  match ← blanks with
  | none => failAhead "EOF while parsing a value"
  | some 116 =>
    bump
    ident [114, 117, 101]
    return true
  | some 102 =>
    bump
    ident [97, 108, 115, 101]
    return false
  | some _ => wrongType "a boolean"

/-- Reads any value that stands inside a top-level object or array, whose brackets take one
level of the nesting allowed. -/
def memberValue : JsonReader Json := do value (2 * (← read).size + 4) (depthLimit - 1)

def runOn {α : Type} (decode : JsonReader α) (text : String) : Except JsonError α :=
  match ((do let a ← decode; finish; pure a : JsonReader α).run text.toUTF8).run 0 with
  | .ok v _ => .ok v
  | .error e _ => .error e

end JsonReader

def Json.parse (text : String) : Except JsonError Json :=
  match (JsonReader.readAll.run text.toUTF8).run 0 with
  | .ok v _ => .ok v
  | .error e _ => .error e

end JsxVNode
