import JsxVNode.Text.Identifier
/-!
Tokens of script source. Positions are character offsets into the source. A token records
whether a line break stands between it and the token before, which automatic semicolons and a
few restricted productions depend on.
-/
namespace JsxVNode.Source

def isLineBreak (c : Char) : Bool :=
  c == '\n' || c == '\r' || c.toNat == 0x2028 || c.toNat == 0x2029

/-- Blanks between tokens other than line terminators: tab, vertical tab, form feed, space,
no-break space, the byte order mark and the Unicode space separators, and also next line
(U+0085) and the zero width space (U+200B), which separate tokens without ending a line. -/
def isSpace (c : Char) : Bool :=
  let n := c.toNat
  c == ' ' || c == '\t' || n == 0x0B || n == 0x0C || n == 0x85 || n == 0xA0 || n == 0xFEFF ||
    n == 0x1680 || (0x2000 ≤ n && n ≤ 0x200B) || n == 0x202F || n == 0x205F || n == 0x3000

/-- A diagnostic: a message and the offset it points at. -/
structure Diag where
  message : String
  offset : Nat
deriving DecidableEq, Repr, Inhabited

/-- What a token is. Identifiers include keywords; templates are cut at substitutions, and
`closes` says whether a piece ends the template. -/
inductive Kind where
  | eof
  | ident (name : String) (escaped : Bool)
  | privateName (name : String)
  | punct (text : String)
  | number (text : String)
  | string (value : String)
  | template (cooked : Option String) (closes : Bool)
  | regex
  | jsxText
  | undetermined
deriving DecidableEq, Repr, Inhabited

/-- A token with its place. -/
structure Token where
  kind : Kind
  start : Nat
  stop : Nat
  newline : Bool
deriving DecidableEq, Repr, Inhabited

def reservedWords : List String :=
  ["break", "case", "catch", "class", "const", "continue", "debugger", "default", "delete", "do",
    "else", "enum", "export", "extends", "false", "finally", "for", "function", "if", "import",
    "in", "instanceof", "new", "null", "return", "super", "switch", "this", "throw", "true", "try",
    "typeof", "var", "void", "while", "with"]

/-- Words that are tokens of their own rather than plain identifiers: keywords, contextual
keywords and the words of type annotations. Messages name them by their text. -/
def keywordTokens : List String :=
  reservedWords ++
    ["await", "async", "from", "get", "meta", "of", "set", "target", "accessor", "source", "defer",
      "abstract", "as", "asserts", "assert", "any", "boolean", "constructor", "declare", "infer",
      "intrinsic", "is", "keyof", "module", "namespace", "never", "out", "readonly", "require",
      "number", "object", "satisfies", "string", "symbol", "type", "undefined", "unique", "using",
      "unknown", "global", "bigint", "override", "implements", "interface", "let", "package",
      "private", "protected", "public", "static", "yield"]

/-- How a number literal is named in messages, by its form: the radix, a fraction, the sign of
an exponent, and the BigInt suffix. A leading `0` followed by octal digits only is an octal
literal of the legacy form. -/
def numberKindName (text : String) : String :=
  let cs := text.toList
  let prefixed (a b : Char) : Bool := cs.take 2 == ['0', a] || cs.take 2 == ['0', b]
  let big := cs.getLast? == some 'n'
  let radix (name : String) : String := if big then name ++ " bigint" else name
  if prefixed 'x' 'X' then radix "hex"
  else if prefixed 'o' 'O' then radix "octal"
  else if prefixed 'b' 'B' then radix "binary"
  else if big then "decimal bigint"
  else if cs.length > 1 && cs.head? == some '0' && cs.all (fun c => '0' ≤ c && c ≤ '7') then "octal"
  else if cs.contains '.' then "float"
  else match cs.dropWhile (fun c => c != 'e' && c != 'E') with
    | _ :: '-' :: _ => "negative_exponential"
    | _ :: _ => "positive_exponential"
    | [] => "decimal"

def Kind.describe : Kind → String
  | .eof => "EOF"
  | .ident name _ => if keywordTokens.contains name || ["null", "true", "false"].contains name
      then name else "Identifier"
  | .privateName _ => "#identifier"
  | .punct p => p
  | .number text => numberKindName text
  | .string _ => "string"
  | .template _ closes => if closes then "$\x7b\x7d" else "$\x7b"
  | .regex => "/regexp/"
  | .jsxText => "JSXText"
  | .undetermined => "Unknown"

end JsxVNode.Source
