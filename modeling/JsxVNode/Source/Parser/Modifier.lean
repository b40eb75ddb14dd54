import JsxVNode.Source.Parser.Cursor
/-!
Modifiers: the words written before a declaration, a class member, a parameter, a type member or
a type parameter (`public`, `static`, `readonly`, `declare` and the like). A word is a modifier
only when what follows it can follow one; `static` and `get`-like words may be followed on the
next line, the others must be followed on the same line.

Reading modifiers reports a repeated one (any second accessibility word, or the same word twice)
and one out of order: an accessibility goes before `static`, `override`, `readonly` and
`accessor`, `static` before `readonly` and `accessor`, `override` before `readonly` and
`accessor`, and `export` before every other. Which modifiers a place allows is
checked by the reader of that place, with its own message.
-/
namespace JsxVNode.Source

/-- A modifier as written: its word and where it starts. -/
structure Modifier where
  word : String
  start : Nat
deriving DecidableEq, Repr

def modifierWords : List String :=
  ["abstract", "accessor", "async", "const", "declare", "default", "export", "in", "out",
    "override", "private", "protected", "public", "readonly", "static"]

def accessibilityWords : List String := ["public", "private", "protected"]

def Kind.followsModifier : Kind → Bool
  | .ident _ _ | .string _ | .number _ | .privateName _ => true
  | .punct p => ["[", "\x7b", "*", "..."].contains p
  | _ => false

def Kind.isName : Kind → Bool
  | .ident _ _ => true
  | _ => false

def Modifier.listHas (ms : List Modifier) (w : String) : Bool := ms.any (·.word == w)

def Modifier.message (m : Modifier) (rest : String) : String := "'" ++ m.word ++ "' modifier " ++ rest

/-- The modifier that should have come after the word `w`, when one of `seen` (those read
before it) is such a modifier. `export` comes first of all, and its message names `declare`
whichever modifier stood before it. -/
def misorder (w : String) (seen : List Modifier) : Option String :=
  let later (ws : List String) : Option String := ws.find? (Modifier.listHas seen ·)
  if accessibilityWords.contains w then later ["override", "static", "accessor", "readonly"]
  else if w == "static" then later ["readonly", "accessor"]
  else if w == "override" then later ["readonly", "accessor"]
  else if w == "export" then if seen.isEmpty then none else some "declare"
  else none

namespace P

def tokenAt (n : Nat) : P Token := do
  if n == 0 then return (← tok)
  let r ← peek do
    for _ in [0:n] do next
    tok
  pure (r.getD default)

/-- Whether the current token is a modifier. `const` is one only where `permitConst` says so
(class members and type parameters) and otherwise only before `enum`. -/
def atModifier (permitConst : Bool) : P Bool := do
  match ← kind with
  | .ident w false =>
    if !modifierWords.contains w then return false
    let n ← tokenAt 1
    if w == "const" && !permitConst then return n.kind == .ident "enum" false
    if w == "static" then return n.kind.followsModifier
    return !n.newline && n.kind.followsModifier
  | _ => return false

/-- Reads modifiers, reporting repeated ones; `seen` are those read so far, latest first. A
second `static` is not a modifier but a name, and in a class (`inClass`) `static` before `{`
opens a static block. -/
def readModifiers (fuel : Nat) (permitConst inClass : Bool) (seen : List Modifier) :
    P (List Modifier) :=
  match fuel with
  | 0 => pure seen.reverse
  | f + 1 => do
    let t ← tok
    match t.kind with
    | .ident w false =>
      let staticBlock := inClass && w == "static" && (← tokenAt 1).kind == .punct "\x7b"
      let staticAgain := w == "static" && Modifier.listHas seen "static"
      if staticBlock || staticAgain || !(← atModifier permitConst) then return seen.reverse
      if accessibilityWords.contains w && seen.any (accessibilityWords.contains ·.word) then
        report ⟨"Accessibility modifier already seen.", t.start⟩
      else if Modifier.listHas seen w then
        report ⟨"'" ++ w ++ "' modifier already seen.", t.start⟩
      else if let some other := misorder w seen then
        report ⟨"'" ++ w ++ "' modifier must precede '" ++ other ++ "' modifier.", t.start⟩
      next
      readModifiers f permitConst inClass (⟨w, t.start⟩ :: seen)
    | _ => return seen.reverse

/-- Reports each modifier that `allowed` does not hold, in order, with the rest of the message
after the modifier's word. -/
def disallow (ms : List Modifier) (allowed : List String) (rest : String) : P Unit :=
  ms.forM fun m => if allowed.contains m.word then pure () else report ⟨m.message rest, m.start⟩

end P

end JsxVNode.Source
