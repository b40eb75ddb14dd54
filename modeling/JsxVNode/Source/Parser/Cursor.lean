import JsxVNode.Source.Lexer
import JsxVNode.Tree.Basic
/-!
The reading position of the grammar: the current token, the diagnostics found so far, and what
the grammar collects on the way (markup sites, imported names). A failure raised with `fail`
stops reading; `report` records an error and reading goes on. Errors of the reader come first
among the diagnostics, then those of the grammar in the order found.
-/
namespace JsxVNode.Source

/-- The language a source is written in. -/
structure Dialect where
  typed : Bool
  markup : Bool
  module : Bool
  commonJs : Bool
  definition : Bool := false
deriving DecidableEq, Repr

/-- One outermost piece of markup: its span, the scope it is written in, and its tree. -/
structure Site where
  start : Nat
  stop : Nat
  scope : Scope
  tree : Tree

/-- What the grammar may do where it stands. -/
structure Ctx where
  returns : Bool := false
  awaits : Bool := false
  yields : Bool := false
  allowIn : Bool := true
  ambient : Bool := false
  inMarkup : Bool := false
deriving DecidableEq, Repr

/-- The grammar's reading state. -/
structure Cursor where
  src : Src
  lines : Array Nat := #[0]
  dialect : Dialect
  tok : Token
  prevEnd : Nat
  lexErrors : Array Diag := #[]
  errors : Array Diag := #[]
  depth : Nat := 0
  ctx : Ctx := {}
  sites : Array Site := #[]
  imports : Array String := #[]
  /-- Where shorthand properties with defaults start that no destructuring pattern has taken
  yet. -/
  defaults : List Nat := []
  escapedKeyword : Option Nat := none
  /-- The names binding patterns have bound so far: each name, where it is written, and how
  many functions enclose it. -/
  bound : Array (String × Nat × Nat) := #[]
  exported : Array (String × Nat) := #[]
  defaultExports : Array Nat := #[]
  firstComment : Option Nat := none
  /-- Whether the source has import or export declarations or `import.meta`, which make it a
  module. -/
  moduleSyntax : Bool := false
  /-- The reports of `await` outside async functions in a source that may be a script or a
  module; they are withdrawn if it turns out to be a module. -/
  awaitErrors : Array Diag := #[]
  /-- Whether an expression has read `await` as a name outside async functions; a source
  that turns out to be a module must then be read again, as `await` is an operator there. -/
  awaitAsName : Bool := false

abbrev P := EStateM Diag Cursor

namespace P

def tok : P Token := do return (← get).tok

def kind : P Kind := do return (← get).tok.kind

def dialect : P Dialect := do return (← get).dialect

def src : P Src := do return (← get).src

def fail {α : Type} (d : Diag) : P α := throw d

def report (d : Diag) : P Unit := modify fun c => { c with errors := c.errors.push d }

def lexError (d : Option Diag) : P Unit :=
  match d with
  | some d => modify fun c => { c with lexErrors := c.lexErrors.push d }
  | none => pure ()

def lexErrorList (ds : List Diag) : P Unit :=
  modify fun c => { c with lexErrors := c.lexErrors ++ ds.toArray }

/-- Notes where the first comment starts, if it lies in the blanks and comments read from
`start` to `stop`; `broken` is where a comment left open starts, which does not count. -/
def noteComment (start stop : Nat) (broken : Option Diag) : P Unit := do
  let c ← get
  if c.firstComment.isNone then
    match (List.range' start (stop - start)).find? (fun k => c.src[k]? == some '/') with
    | some k => if broken.map (·.offset) != some k then set { c with firstComment := some k }
    | none => pure ()

/-- Moves to the token read in ordinary code after the current one. A keyword (reserved or
contextual) written with escapes reads as that word, but taking it as a keyword (`keyword`) is
an error, reported as reading goes on; taking it as a name (a binding, a reference, a property
key) is not. -/
def advance (keyword : Bool) : P Unit := do
  let c ← get
  if keyword && c.escapedKeyword == some c.tok.start then
    report ⟨"Keywords cannot contain escape characters", c.tok.start⟩
  let c ← get
  let (i, nl, err) := skipTrivia c.src c.tok.stop false
  noteComment c.tok.stop i err
  let c ← get
  let (k, j, errs) := readToken c.src i
  let (k, escaped) := match k with
    | .ident w true => if keywordTokens.contains w then (Kind.ident w false, some i) else (k, none)
    | _ => (k, none)
  set { c with tok := ⟨k, i, j, nl⟩, prevEnd := c.tok.stop, escapedKeyword := escaped }
  lexError err
  lexErrorList errs

def escapedWord : P Bool := do
  let c ← get
  return c.escapedKeyword == some c.tok.start

def next : P Unit := advance true

def nextName : P Unit := advance false

def nextJsxChild : P Unit := do
  let c ← get
  let (k, j, err) := readJsxChild c.src c.tok.stop
  let start := c.tok.stop
  set { c with tok := ⟨k, start, if k == Kind.eof then start else j, false⟩, prevEnd := c.tok.stop }
  lexError err

def nextJsxAttrValue : P Unit := do
  let c ← get
  let (i, nl, err) := skipTrivia c.src c.tok.stop false
  noteComment c.tok.stop i err
  let c ← get
  let (k, j, errs) := match c.src[i]? with
    | some '"' => let (k, j, e) := readJsxString c.src i '"'; (k, j, e.toList)
    | some '\'' => let (k, j, e) := readJsxString c.src i '\''; (k, j, e.toList)
    | _ => readToken c.src i
  set { c with tok := ⟨k, i, j, nl⟩, prevEnd := c.tok.stop }
  lexError err
  lexErrorList errs

/-- Reads the current `/` or `/=` as a regular expression. One that is not closed runs to the
end of its line, and is a reader error; inside a markup container it cannot be read at all, and
reading stops at its slash. -/
def relexRegex : P Unit := do
  let c ← get
  match readRegex c.src c.tok.start with
  | some (j, err) =>
    set { c with tok := { c.tok with kind := .regex, stop := j } }
    lexError err
  | none =>
    if c.ctx.inMarkup then fail ⟨"Unexpected token", c.tok.start⟩
    let stop := match (List.range' c.tok.start (c.src.size - c.tok.start)).find?
        (fun k => (c.src[k]?.map isLineBreak).getD false) with
      | some k => k + 1
      | none => c.src.size
    set { c with tok := { c.tok with kind := .regex, stop } }
    lexError (some ⟨"Unterminated regular expression", c.tok.start⟩)

def relexTemplate : P Unit := do
  let c ← get
  match scanTemplate c.src (c.tok.start + 1) (some #[]) with
  | some (j, cooked, closes) =>
    set { c with tok := { c.tok with
      kind := .template (cooked.map fun (us : Array Nat) => unitsToString us.toList) closes,
      stop := j } }
  | none =>
    set { c with tok := { c.tok with kind := .undetermined, stop := c.src.size } }
    lexError (some ⟨"Unterminated string", c.tok.start⟩)

def extendJsxName : P Unit := do
  let c ← get
  let j := jsxNameEnd c.src c.tok.stop
  if j != c.tok.stop then
    set { c with tok := { c.tok with kind := .ident (c.src.slice c.tok.start j) false, stop := j } }

def joinGreater : P Unit := do
  let c ← get
  if c.tok.kind == .punct ">" then
    let i := c.tok.start
    let ops := [">>>=", ">>>", ">>=", ">>", ">="]
    match ops.find? (c.src.startsWith i ·) with
    | some op => set { c with tok := { c.tok with kind := .punct op, stop := i + op.length } }
    | none => pure ()

def splitLess : P Unit := do
  let c ← get
  if c.tok.kind == .punct "<<" || c.tok.kind == .punct "<<=" then
    set { c with tok := { c.tok with kind := .punct "<", stop := c.tok.start + 1 } }

def isAt (p : String) : P Bool := do return (← kind) == .punct p

def atWord (w : String) : P Bool := do return (← kind) == .ident w false

def eat (p : String) : P Bool := do
  if ← isAt p then next; return true else return false

def eatWord (w : String) : P Bool := do
  if ← atWord w then next; return true else return false

/-- Whether a version-control conflict marker starts at the offset: seven `<`, `=`, `>` or `|`
at the start of a line, followed by a space unless they are `=`. -/
def conflictMarkerAt (src : Src) (i : Nat) : Bool :=
  let lineStart := i == 0 || (src[i - 1]?.map isLineBreak).getD false
  match src[i]? with
  | some m =>
    lineStart && ['<', '=', '>', '|'].contains m && (List.range 7).all (fun k => src[i + k]? == some m) &&
      (m == '=' || src[i + 7]? == some ' ')
  | none => false

/-- Fails with "Unexpected token" at the current token. When the token is the end or unreadable
and the reader has reported an error, that error is taken off the reader's list and raised
instead, as the more telling one; a token that starts a conflict marker is reported as one. -/
def unexpected {α : Type} : P α := do
  let c ← get
  if (c.tok.kind == .eof || c.tok.kind == .undetermined) && !c.lexErrors.isEmpty then
    set { c with lexErrors := c.lexErrors.pop }
    fail c.lexErrors.back!
  else if conflictMarkerAt c.src c.tok.start then fail ⟨"Encountered diff marker", c.tok.start⟩
  else fail ⟨"Unexpected token", c.tok.start⟩

def expect (p : String) : P Unit := do
  let c ← get
  if c.tok.kind == .punct p then next
  else fail ⟨"Expected `" ++ p ++ "` but found `" ++ c.tok.kind.describe ++ "`", c.tok.start⟩

/-- Requires the comma between two items of a list that `close` ends, then moves on. At the
end of the source the list is over and lacks only its end. -/
def expectSeparator (close : String) : P Unit := do
  let c ← get
  if c.tok.kind == .punct "," then next
  else if c.tok.kind == .eof then expect close
  else fail ⟨"Expected `,` or `" ++ close ++ "` but found `" ++ c.tok.kind.describe ++ "`",
    c.tok.start⟩

def closeList (close : String) : P Unit := do
  if (← kind) == .punct close then next else expectSeparator close

def expectWord (w : String) : P Unit := do
  let c ← get
  if c.tok.kind == .ident w false then next
  else fail ⟨"Expected `" ++ w ++ "` but found `" ++ c.tok.kind.describe ++ "`", c.tok.start⟩

def expectJsxChild (p : String) : P Unit := do
  let c ← get
  if c.tok.kind == .punct p then nextJsxChild
  else fail ⟨"Expected `" ++ p ++ "` but found `" ++ c.tok.kind.describe ++ "`", c.tok.start⟩

/-- Checks the current piece of a template: a piece without a value (it has an invalid escape)
is an error outside a tagged template, reported just after the character that opens it. -/
def templatePiece (tagged : Bool) : P Unit := do
  let t ← tok
  match t.kind with
  | .template none _ =>
    if !tagged then report ⟨"Bad escape sequence in untagged template literal", t.start + 1⟩
  | _ => pure ()

def canInsertSemicolon : P Bool := do
  let t ← tok
  return t.kind == .punct ";" || t.kind == .punct "\x7d" || t.kind == .eof || t.newline

def semicolon : P Unit := do
  if ← eat ";" then return
  if ← canInsertSemicolon then return
  let c ← get
  fail ⟨"Expected a semicolon or an implicit semicolon after a statement, but found none", c.prevEnd⟩

def withCtx {α : Type} (f : Ctx → Ctx) (x : P α) : P α := do
  let saved := (← get).ctx
  modify fun c => { c with ctx := f saved }
  let r ← x
  modify fun c => { c with ctx := saved }
  pure r

def inFunction {α : Type} (x : P α) : P α := do
  modify fun c => { c with depth := c.depth + 1 }
  let r ← x
  modify fun c => { c with depth := c.depth - 1 }
  pure r

def attempt {α : Type} (x : P α) : P (Option α) := do
  let saved ← get
  tryCatch (some <$> x) fun _ => do set saved; pure none

def peek {α : Type} (x : P α) : P (Option α) := do
  let saved ← get
  let r ← tryCatch (some <$> x) fun _ => pure none
  set saved
  pure r

def peekKind : P Kind := do
  let r ← peek (do next; kind)
  pure (r.getD .eof)

def peekTok : P Token := do
  let r ← peek (do next; tok)
  pure (r.getD default)

def scope : P Scope := do return if (← get).depth > 0 then .function else .module

def addDefault (offset : Nat) : P Unit := modify fun c => { c with defaults := c.defaults ++ [offset] }

def takeDefaults (offsets : List Nat) : P Unit :=
  if offsets.isEmpty then pure ()
  else modify fun c => { c with defaults := c.defaults.filter fun o => !offsets.contains o }

def checkDefaults : P Unit := do
  match (← get).defaults.min? with
  | some o => report ⟨"Invalid assignment in object literal", o⟩
  | none => pure ()

def bind (name : String) (offset : Nat) : P Unit :=
  modify fun c => { c with bound := c.bound.push (name, offset, c.depth) }

def addExport (name : String) (offset : Nat) : P Unit :=
  modify fun c => { c with exported := c.exported.push (name, offset) }

/-- Records as exports the names bound since `mark` (a count of bound names) in the scope being
read, leaving out those bound inside nested functions. -/
def exportBound (mark : Nat) : P Unit := modify fun c =>
  let here := (c.bound.extract mark c.bound.size).filter fun (_, _, d) => d == c.depth
  { c with exported := c.exported ++ here.map fun (n, o, _) => (n, o) }

def addSite (s : Site) : P Unit := modify fun c => { c with sites := c.sites.push s }

def collecting {α : Type} (x : P α) : P (α × Array Site) := do
  let outer := (← get).sites
  modify fun c => { c with sites := #[] }
  let r ← x
  let inner := (← get).sites
  modify fun c => { c with sites := outer }
  pure (r, inner)

end P

end JsxVNode.Source
