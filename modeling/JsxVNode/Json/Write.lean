import JsxVNode.Json.Basic
/-!
Writing JSON text: compact (no blanks) and pretty (two-space indentation, `": "` after keys).
Strings escape the quote, the backslash and control characters, with short escapes where they
exist and `\u00xx` with lower-case hex digits otherwise; other characters are written as they
are. Binary64 numbers are written with their shortest digits (see `Binary64.render`).
-/
namespace JsxVNode

def hexDigit (n : Nat) : Char :=
  if n < 10 then Char.ofNat (48 + n) else Char.ofNat (87 + n)

def escapeJsonChar (c : Char) : String :=
  if c == '"' then "\\\"" else if c == '\\' then "\\\\"
  else if c == '\n' then "\\n" else if c == '\r' then "\\r" else if c == '\t' then "\\t"
  else if c.toNat == 8 then "\\b" else if c.toNat == 12 then "\\f"
  else if c.toNat < 0x20 then
    String.ofList ['\\', 'u', '0', '0', hexDigit (c.toNat / 16), hexDigit (c.toNat % 16)]
  else c.toString

def jsonString (s : String) : String :=
  "\"" ++ String.join (s.toList.map escapeJsonChar) ++ "\""

namespace JsonNumber

def render : JsonNumber → String
  | .int v => toString v
  | .float x => x.render

end JsonNumber

namespace Json

mutual
def compact : Json → String
  | .null => "null"
  | .bool b => if b then "true" else "false"
  | .num n => n.render
  | .str s => jsonString s
  | .arr items => "[" ++ compactItems items ++ "]"
  | .obj fields => "\x7b" ++ compactFields fields ++ "\x7d"

def compactItems : List Json → String
  | [] => ""
  | [j] => compact j
  | j :: rest => compact j ++ "," ++ compactItems rest

def compactFields : List (String × Json) → String
  | [] => ""
  | [f] => compactField f
  | f :: rest => compactField f ++ "," ++ compactFields rest

def compactField : String × Json → String
  | (k, j) => jsonString k ++ ":" ++ compact j
end

def indent (depth : Nat) : String := "\n" ++ String.join (List.replicate depth "  ")

mutual
def pretty (depth : Nat) : Json → String
  | .arr [] => "[]"
  | .obj [] => "\x7b\x7d"
  | .arr items => "[" ++ prettyItems (depth + 1) items ++ indent depth ++ "]"
  | .obj fields => "\x7b" ++ prettyFields (depth + 1) fields ++ indent depth ++ "\x7d"
  | j => compactScalar j

def prettyItems (depth : Nat) : List Json → String
  | [] => ""
  | [j] => indent depth ++ pretty depth j
  | j :: rest => indent depth ++ pretty depth j ++ "," ++ prettyItems depth rest

def prettyFields (depth : Nat) : List (String × Json) → String
  | [] => ""
  | [f] => indent depth ++ prettyField depth f
  | f :: rest => indent depth ++ prettyField depth f ++ "," ++ prettyFields depth rest

def prettyField (depth : Nat) : String × Json → String
  | (k, j) => jsonString k ++ ": " ++ pretty depth j

def compactScalar : Json → String
  | .null => "null"
  | .bool b => if b then "true" else "false"
  | .num n => n.render
  | .str s => jsonString s
  | _ => ""
end

end Json

end JsxVNode
