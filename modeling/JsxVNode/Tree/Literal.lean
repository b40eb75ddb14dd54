import JsxVNode.Tree.Basic
import JsxVNode.Text.Blank
import JsxVNode.Text.Quoted
/-!
Reading a literal off expression source. Only literals are known when compiling: a quoted string
whose closing quote is its only unescaped quote (a template without substitutions counts), `true`,
`false`, `null`, `undefined`, and a decimal number with an optional minus sign. Redundant
parentheses around the text are dropped first. Anything else stays an expression.
-/
namespace JsxVNode

def isDigits (cs : List Char) : Bool := !cs.isEmpty && cs.all Char.isDigit

def isExponent : List Char → Bool
  | e :: rest =>
    (e == 'e' || e == 'E') &&
      match rest with
      | '+' :: ds | '-' :: ds => isDigits ds
      | ds => isDigits ds
  | [] => false

/-- A decimal number without sign: digits with an optional point (digits on at least one side)
and an optional exponent. -/
def isDecimalText (cs : List Char) : Bool :=
  let whole := cs.takeWhile Char.isDigit
  let rest := cs.drop whole.length
  let (frac, tail) := match rest with
    | '.' :: r => let f := r.takeWhile Char.isDigit; (some f, r.drop f.length)
    | r => (none, r)
  let mantissa := match frac with
    | none => !whole.isEmpty
    | some f => !whole.isEmpty || !f.isEmpty
  mantissa && (tail.isEmpty || isExponent tail)

def isNumberText (cs : List Char) : Bool :=
  let digits := match cs with
    | '-' :: r => r
    | r => r
  match digits with
  | c :: _ => (c.isDigit || c == '.') && isDecimalText digits
  | [] => false

/-- Whether the inside of a quoted literal has no unescaped `quote` and does not end inside an
escape. -/
def closedInside (quote : Char) : List Char → Bool
  | [] => true
  | '\\' :: [] => false
  | '\\' :: _ :: rest => closedInside quote rest
  | c :: rest => c != quote && closedInside quote rest

def hasSubstitution : List Char → Bool
  | '$' :: '\x7b' :: _ => true
  | _ :: rest => hasSubstitution rest
  | [] => false

def stringLiteral? (cs : List Char) : Option String :=
  match cs with
  | q :: rest@(_ :: _) =>
    if (q == '"' || q == '\'' || q == '`') && rest.getLast? == some q then
      let inside := rest.dropLast
      if closedInside q inside && !(q == '`' && hasSubstitution inside) then
        some (String.ofList (Text.unescape inside))
      else none
    else none
  | _ => none

def stripParens (cs : List Char) : List Char :=
  match cs with
  | '(' :: rest =>
    if rest.getLast? == some ')' then
      have : (Text.trimBlank rest.dropLast).length < rest.length + 1 := by
        have := Text.trimBlank_length_le rest.dropLast
        simp at this; omega
      stripParens (Text.trimBlank rest.dropLast)
    else cs
  | _ => cs
termination_by cs.length
decreasing_by simp_all

def Literal.ofSource? (code : String) : Option Literal :=
  let t := stripParens (Text.trimBlank code.toList)
  if t.isEmpty then none
  else match stringLiteral? t with
    | some s => some (.str s)
    | none =>
      let s := String.ofList t
      if s == "true" then some (.bool true)
      else if s == "false" then some (.bool false)
      else if s == "null" then some .null
      else if s == "undefined" then some .undefined
      else if isNumberText t then some (.num s)
      else none

def Value.ofSource (code : String) : Value :=
  match Literal.ofSource? code with
  | some l => .literal l
  | none => .code (Text.trim code)

def Tree.ofSlotSource (code : String) : Tree := .slot (Value.ofSource code)

def Tree.ofTag (tag : String) (attrs : List Attribute) (children : List Tree) : Tree :=
  .element tag (isComponentTag tag) attrs children ⟨0, 0⟩

end JsxVNode
