/-!
Character references in markup text: `&name;`, `&#digits;` and `&#xhex;`. References are found
left to right without overlap; one whose number is no Unicode scalar value (a surrogate, above
`0x10FFFF`, or beyond 32 bits) and one with an unknown name are kept as written.
-/
namespace JsxVNode.Text

def namedReference : String → Option Char
  | "amp" => some '&'
  | "lt" => some '<'
  | "gt" => some '>'
  | "quot" => some '"'
  | "apos" => some '\''
  | "nbsp" => some ' '
  | "copy" => some '©'
  | "reg" => some '®'
  | "trade" => some '™'
  | "hellip" => some '…'
  | "mdash" => some '—'
  | "ndash" => some '–'
  | "laquo" => some '«'
  | "raquo" => some '»'
  | "middot" => some '·'
  | "times" => some '×'
  | "euro" => some '€'
  | _ => none

def digitValue (base : Nat) (c : Char) : Option Nat :=
  let v :=
    if '0' ≤ c ∧ c ≤ '9' then some (c.toNat - '0'.toNat)
    else if 'a' ≤ c ∧ c ≤ 'z' then some (c.toNat - 'a'.toNat + 10)
    else if 'A' ≤ c ∧ c ≤ 'Z' then some (c.toNat - 'A'.toNat + 10)
    else none
  v.bind fun d => if d < base then some d else none

def digitsValue (base : Nat) (digits : List Char) : Option Nat :=
  digits.foldl (fun acc c => acc.bind fun n => (digitValue base c).map (n * base + ·)) (some 0)

def scalar? (n : Nat) : Option Char :=
  if n.isValidChar then some (Char.ofNat n) else none

def numericReference (base : Nat) (digits : List Char) : Option Char :=
  (digitsValue base digits).bind fun n => if n < 0x100000000 then scalar? n else none

def referenceBody : List Char → Option (List Char)
  | '#' :: r =>
    let dec := r.takeWhile Char.isDigit
    match dec, r.drop dec.length with
    | _ :: _, ';' :: _ => some ('#' :: dec)
    | _, _ =>
      match r with
      | x :: r' =>
        if x == 'x' || x == 'X' then
          let hex := r'.takeWhile fun c => (digitValue 16 c).isSome
          match hex, r'.drop hex.length with
          | _ :: _, ';' :: _ => some ('#' :: x :: hex)
          | _, _ => none
        else none
      | [] => none
  | cs =>
    let name := cs.takeWhile Char.isAlpha
    match name, cs.drop name.length with
    | _ :: _, ';' :: _ => some name
    | _, _ => none

def referenceChar : List Char → Option Char
  | '#' :: x :: hex => if x == 'x' || x == 'X' then numericReference 16 hex
      else numericReference 10 (x :: hex)
  | '#' :: [] => none
  | name => namedReference (String.ofList name)

def decodeChars : List Char → List Char
  | [] => []
  | '&' :: rest =>
    match referenceBody rest with
    | some body =>
      have : (rest.drop (body.length + 1)).length < rest.length + 1 := by
        rw [List.length_drop]; exact Nat.lt_add_one_of_le (Nat.sub_le _ _)
      match referenceChar body with
      | some c => c :: decodeChars (rest.drop (body.length + 1))
      | none => '&' :: body ++ ';' :: decodeChars (rest.drop (body.length + 1))
    | none => '&' :: decodeChars rest
  | c :: rest => c :: decodeChars rest
termination_by cs => cs.length
decreasing_by all_goals (simp only [List.length_cons]; omega)

def decodeEntities (raw : String) : String :=
  String.ofList (decodeChars raw.toList)

end JsxVNode.Text
