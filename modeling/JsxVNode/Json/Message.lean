import JsxVNode.Json.Write
import JsxVNode.Text.Printable
/-!
How values are named in decoding errors: `null`, ``boolean `true` ``, ``integer `5` ``,
``floating point `1.5` ``, a string quoted with escapes, `sequence` and `map`.
-/
namespace JsxVNode

/-- One character of a string as it is shown quoted in messages: quotes, backslashes and the
common control characters get short escapes; combining characters and characters that do not
print get their code in hex; everything else stands as it is. -/
def debugChar (c : Char) : String :=
  if c == '"' then "\\\"" else if c == '\\' then "\\\\"
  else if c == '\n' then "\\n" else if c == '\r' then "\\r" else if c == '\t' then "\\t"
  else if c.toNat == 0 then "\\0"
  else if Text.isGraphemeExtend c || !Text.isPrintable c then
    "\\u" ++ "\x7b" ++ String.ofList (Nat.toDigits 16 c.toNat) ++ "\x7d"
  else c.toString

def debugQuote (s : String) : String := "\"" ++ String.join (s.toList.map debugChar) ++ "\""

def JsonNumber.describe : JsonNumber → String
  | .int v => "integer `" ++ toString v ++ "`"
  | n => "floating point `" ++ n.render ++ "`"

def Json.describe : Json → String
  | .null => "null"
  | .bool b => "boolean `" ++ (if b then "true" else "false") ++ "`"
  | .num n => n.describe
  | .str s => "string " ++ debugQuote s
  | .arr _ => "sequence"
  | .obj _ => "map"

def invalidType (found : String) (expected : String) : String :=
  "invalid type: " ++ found ++ ", expected " ++ expected

end JsxVNode
