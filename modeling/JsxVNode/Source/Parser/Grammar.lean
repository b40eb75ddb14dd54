import JsxVNode.Source.Parser.Type
import JsxVNode.Source.Parser.Target
import JsxVNode.Text.Entity
/-!
The grammar of scripts and modules with markup. Every reader takes a fuel argument that bounds
the depth of reading; the fuel given at the start is many times the number of tokens, so it runs
out only on input far deeper than any real source.

Reading records what the compiler needs: each outermost piece of markup as a site, with its tree
and the scope it is written in (inside a function or not), and the names bound by imports.
Markup in an embedded expression is collected apart and kept in that expression's parts.
-/
namespace JsxVNode.Source

/-- Whether a parenthesis or `<` starts an arrow function: surely, surely not, or only a trial
reading can tell. -/
inductive Tristate where
  | yes
  | no
  | maybe
deriving DecidableEq

def assignOps : List String :=
  ["=", "+=", "-=", "*=", "/=", "%=", "**=", "<<=", ">>=", ">>>=", "&=", "|=", "^=", "&&=", "||=",
    "??="]

def isAssignOp : Kind → Bool
  | .punct p => assignOps.contains p
  | _ => false

def precedence : Kind → Option Nat
  | .punct p =>
    if p == "??" then some 1 else if p == "||" then some 2 else if p == "&&" then some 3
    else if p == "|" then some 4 else if p == "^" then some 5 else if p == "&" then some 6
    else if ["==", "!=", "===", "!=="].contains p then some 7
    else if ["<", ">", "<=", ">="].contains p then some 8
    else if ["<<", ">>", ">>>"].contains p then some 9
    else if p == "+" || p == "-" then some 10
    else if p == "*" || p == "/" || p == "%" then some 11
    else if p == "**" then some 12
    else none
  | .ident w false => if ["instanceof", "in", "as", "satisfies"].contains w then some 8 else none
  | _ => none

def Kind.isBinding : Kind → Bool
  | .ident n _ => !reservedWords.contains n
  | _ => false

def Kind.isPlainIdentifier : Kind → Bool
  | .ident n false => !keywordTokens.contains n
  | .ident _ true => true
  | _ => false

def Kind.isLiteral : Kind → Bool
  | .string _ | .number _ => true
  | .ident w false => w == "true" || w == "false" || w == "null"
  | _ => false

def Kind.startsKey : Kind → Bool
  | .ident _ _ | .string _ | .number _ | .privateName _ | .punct "[" => true
  | _ => false

def Kind.startsExpression : Kind → Bool
  | .ident w _ => !(["break", "case", "catch", "const", "continue", "debugger", "default", "do",
      "else", "enum", "export", "extends", "finally", "for", "if", "return", "switch", "throw",
      "try", "var", "while", "with", "in", "instanceof"].contains w)
  | .number _ | .string _ | .template _ _ | .privateName _ | .regex => true
  | .punct p => ["(", "[", "\x7b", "/", "/=", "+", "-", "~", "!", "++", "--", "<", "@"].contains p
  | _ => false

def logicalForm : Kind → Form
  | .punct "??" => .logical true
  | .punct "||" | .punct "&&" => .logical false
  | _ => .other

/-- Whether an operand, not in parentheses, mixes `??` with `||` or `&&` under an operator of
the given form. -/
def mixesLogical (op operand : Form) : Bool :=
  match op, operand with
  | .logical a, .logical b => a != b
  | _, _ => false

/-- Whether `let` followed by a token of this kind is a variable in a longer expression: an
assignment or arithmetic operator, a member access or a call follows. -/
def letContinues (k : Kind) : Bool :=
  let operator := isAssignOp k || (match k with
    | .punct p => ["==", "!=", "===", "!==", "<", ">", "<=", ">=", "<<", ">>", ">>>", "+", "-",
        "*", "/", "%", "|", "^", "&", "**"].contains p
    | .ident w false => w == "in" || w == "instanceof"
    | _ => false)
  operator || k == .punct "." || k == .punct "(" || k == .punct "?."

/-- Whether `let` followed by a token of this kind is a variable standing alone as a statement:
before a semicolon, and in the body of an `if`, a loop or a label before anything but `[`. -/
def letAlone (k : Kind) (single : Bool) : Bool :=
  !letContinues k && (k == .punct ";" || (single && k != .punct "["))

/-- Whether `let` followed by a token of this kind starts a declaration rather than naming a
variable. -/
def letDeclares (k : Kind) (single : Bool) : Bool :=
  !letContinues k && !letAlone k single

/-- The keywords that start an expression after type arguments. Of the words reserved in strict
code only `private` is among them. -/
def expressionKeywords : List String :=
  ["this", "super", "function", "class", "new", "typeof", "void", "delete", "await", "yield",
    "true", "false", "null", "import", "private"]

/-- Whether a token after type arguments starts an expression, which then makes `<` a
comparison: a literal, a template, a plain identifier or an expression keyword, or an operator
or bracket that opens one. Other keywords (`async`, `let`, `type` and the like) and private
names do not. -/
def Kind.startsExpressionAfterTypeArgs : Kind → Bool
  | .ident w _ => !keywordTokens.contains w || expressionKeywords.contains w
  | .number _ | .string _ | .template _ _ | .regex => true
  | .punct p => ["(", "[", "\x7b", "/", "/=", "+", "-", "~", "!", "++", "--", "<", "@"].contains p
  | _ => false

namespace P

def arrowStart : P Tristate := do
  let t ← tok
  let d ← dialect
  let offset := if t.kind == .ident "async" false then 1 else 0
  if offset == 1 then
    let n1 ← tokenAt 1
    if n1.newline || (n1.kind != .punct "(" && n1.kind != .punct "<") then return .no
  let first ← tokenAt offset
  let second ← tokenAt (offset + 1)
  let third ← tokenAt (offset + 2)
  match first.kind with
  | .punct "(" =>
    match second.kind with
    | .punct ")" =>
      match third.kind with
      | .punct "=>" | .punct "\x7b" => return .yes
      | .punct ":" => return if d.typed then .maybe else .no
      | _ => return .no
    | .punct "[" | .punct "\x7b" => return .maybe
    | .punct "..." =>
      return if third.kind.isPlainIdentifier || third.kind == .punct "[" ||
          third.kind == .punct "\x7b" then .yes else .no
    | k =>
      match k with
      | .ident w false =>
        if modifierWords.contains w && w != "async" && third.kind.isBinding then
          return if third.kind == .ident "as" false then .no else .yes
      | _ => pure ()
      if !k.isBinding && k != .ident "this" false then return .no
      match third.kind with
      | .punct ":" => return .yes
      | .punct "?" =>
        let fourth ← tokenAt (offset + 3)
        match fourth.kind with
        | .punct ":" | .punct "," | .punct "=" | .punct ")" => return .yes
        | _ => return .no
      | .punct "," | .punct "=" | .punct ")" => return .maybe
      | _ => return .no
  | .punct "<" =>
    if !d.typed then return .no
    if !second.kind.isBinding && second.kind != .ident "const" false then return .no
    if d.markup then
      let (third, fourth) ←
        if second.kind == .ident "const" false then
          pure (← tokenAt (offset + 3), ← tokenAt (offset + 4))
        else pure (third, ← tokenAt (offset + 3))
      match third.kind with
      | .ident "extends" false =>
        match fourth.kind with
        | .punct "=" | .punct ">" | .punct "/" => return .no
        | .ident _ _ => return .maybe
        | _ => return .yes
      | .punct "," | .punct "=" => return .yes
      | _ => return .no
    else return .maybe
  | _ => return .no

/-- Reads type arguments of a call or instantiation, failing unless what follows can come after
them in an expression: a call, a template, a line break, a binary operator other than `in`
(which is no operator where `in` is not allowed), or anything that does not start an
expression. A closing `>` with `=` right after it is the operator `>=`, so no type arguments. -/
def typeArgsInExpression (fuel : Nat) : P Unit := do
  typeArgs fuel
  let t ← tok
  if t.start == (← get).prevEnd && t.kind == .punct "=" then unexpected
  match t.kind with
  | .punct "(" | .template _ _ => pure ()
  | .punct "<" | .punct ">" | .punct "+" | .punct "-" => unexpected
  | k =>
    if t.newline then pure ()
    else if k == .ident "in" false then
      if (← get).ctx.allowIn then unexpected
    else if (precedence k).isSome || !k.startsExpressionAfterTypeArgs then pure ()
    else unexpected

def markupIdent : P String := do
  match ← kind with
  | .ident _ _ =>
    extendJsxName
    let t ← tok
    nextName
    return (← src).slice t.start t.stop
  | _ => unexpected

def markupMembers : Nat → P (List String)
  | 0 => pure []
  | n + 1 => do
    if ← eat "." then
      let t ← tok
      let part ← markupIdent
      if part.toList.contains '-' then fail ⟨"Identifiers in JSX cannot contain hyphens", t.start⟩
      return part :: (← markupMembers n)
    else return []

def markupName : P (MarkupName × Nat × Nat) := do
  let start := (← tok).start
  let first ← markupIdent
  if ← eat ":" then
    let second ← markupIdent
    return (.namespaced first second, start, (← get).prevEnd)
  if ← isAt "." then
    let rest ← markupMembers (← src).size
    return (.member (first :: rest), start, (← get).prevEnd)
  return (.simple first, start, (← get).prevEnd)

def locationOf (offset : Nat) : P Location := do
  return Location.ofLineStarts (← get).lines offset

def markupCtx (c : Ctx) : Ctx :=
  { allowIn := true, awaits := c.awaits, ambient := c.ambient, inMarkup := true }

def reportIssues : List TargetIssue → P Unit
  | [] => pure ()
  | i :: rest => if i.fatal then fail i.diag else do report i.diag; reportIssues rest

/-- What a parameter list holds, for the checks on accessors and constructors: where it opens,
how many plain parameters it has, where its rest parameter starts and where its `this`
parameter starts. -/
structure ParamList where
  start : Nat
  count : Nat := 0
  rest : Option Nat := none
  thisParam : Option Nat := none
  initialized : Bool := false

/-- One parameter: the `this` parameter of typed source, a plain one and whether it has a
default value, or a rest parameter and where it starts. -/
inductive ParamKind where
  | this (start : Nat)
  | plain (initialized : Bool)
  | rest (start : Nat)

/-- A property name as written: an identifier or keyword, a string, a private name, a number,
or a computed key with where the expression inside its brackets starts and ends. -/
inductive PropKey where
  | name (n : String)
  | string (s : String)
  | privateName (n : String)
  | number
  | computed (start stop : Nat)
deriving DecidableEq

def PropKey.staticName : PropKey → Option String
  | .name n | .string n => some n
  | _ => none

/-- Where a key written from `start` to `stop` is named in messages, and by what text: a
computed key by the expression in its brackets, any other by its source text. -/
def PropKey.shown (key : PropKey) (source : Src) (start stop : Nat) : Nat × String :=
  match key with
  | .computed s e => (s, source.slice s e)
  | _ => (start, source.slice start stop)

/-- Reports an accessor whose parameters do not fit it: a getter takes none, a setter takes
exactly one, which is not a rest parameter and, in typed source, has no default value. -/
def checkAccessor (getter : Bool) (ps : ParamList) : P Unit := do
  if getter then
    if ps.count > 0 then report ⟨"A 'get' accessor must not have any formal parameters.", ps.start⟩
  else
    match ps.rest with
    | some r => report ⟨"A 'set' accessor cannot have rest parameter.", r⟩
    | none =>
      if ps.count != 1 then report ⟨"A 'set' accessor must have exactly one parameter.", ps.start⟩
      else if ps.initialized && (← dialect).typed then
        report ⟨"A 'set' accessor cannot have an initializer.", ps.start⟩

/-- Where a function is read. An expression's name belongs to the function itself, so it is
checked against the function's own kind; a declaration's name, required, and the default
export's, optional, belong to the enclosing scope. A declaration marked `declare` has no body. -/
inductive FunctionSite where
  | expression
  | declaration
  | declared
  | defaultExport
deriving DecidableEq

def FunctionSite.needsName (site : FunctionSite) : Bool :=
  site == .declaration || site == .declared

def awaitOutside : String :=
  "`await` is only allowed within async functions and at the top levels of modules"

def dynamicImportArguments : String :=
  "Dynamic imports can only accept a module specifier and an optional set of attributes as arguments"

/-- Reports `await` used as an operator outside async functions. In a source that may be a
script or a module, the report stands only if the source turns out to be a script. -/
def reportAwait (offset : Nat) : P Unit := do
  let d ← dialect
  if !d.module && !d.commonJs then
    modify fun c => { c with awaitErrors := c.awaitErrors.push ⟨awaitOutside, offset⟩ }
  else report ⟨awaitOutside, offset⟩

/-- Reports `await` used as a name where it is an operator (async functions, modules, static
blocks), and `yield` where it is one (generators). Reading goes on. -/
def checkIdentifier (t : Token) : P Unit := do
  let c := (← get).ctx
  match t.kind with
  | .ident "await" _ =>
    if c.awaits then report ⟨"Cannot use `await` as an identifier in an async context", t.start⟩
  | .ident "yield" _ =>
    if c.yields then report ⟨"Cannot use `yield` as an identifier in a generator context", t.start⟩
  | _ => pure ()

/-- What a declaration binds: variables (`var`, `let`), constants, or resources disposed of at
the end of their scope (`using`). -/
inductive Binding where
  | variable
  | constant
  | disposable
deriving DecidableEq

def declarationModifierWords : List String :=
  ["abstract", "accessor", "async", "declare", "private", "protected", "public", "readonly",
    "static"]

/-- Whether a declaration of typed source starts here, after any modifiers: each modifier but
`static` and `export` on the line of what follows it, then `var`, `let`, `const`, `function`,
`class` or `enum`, an `interface` or `type` with its name on its line, a `module` or
`namespace` with its name on its line, `global` before a block, a plain name or `export`, or
`import` before a name, a string, `*` or `{`. An `export` (and a `type` after it) before `=`,
`*`, `{`, `@`, `default` or `as` ends the modifiers with a declaration. -/
def declarationAhead : Nat → P Bool
  | 0 => return false
  | f + 1 => do
    match ← kind with
    | .ident w false =>
      if ["var", "let", "const", "function", "class", "enum"].contains w then return true
      let n ← tokenAt 1
      if w == "interface" || w == "type" then return n.kind.isBinding && !n.newline
      if w == "module" || w == "namespace" then
        return !n.newline && (n.kind.isBinding || match n.kind with | .string _ => true | _ => false)
      if w == "global" then
        return n.kind == .punct "\x7b" || n.kind.isPlainIdentifier || n.kind == .ident "export" false
      if w == "import" then
        return match n.kind with
          | .string _ | .ident _ _ | .punct "*" | .punct "\x7b" => true
          | _ => false
      if w == "export" then
        next
        if ← atWord "type" then next
        match ← kind with
        | .punct "=" | .punct "*" | .punct "\x7b" | .punct "@" | .ident "default" false
        | .ident "as" false => return true
        | _ => declarationAhead f
      else
        if !declarationModifierWords.contains w then return false
        next
        if w != "static" && (← tok).newline then return false
        declarationAhead f
    | _ => return false

/-- Whether modifiers before a declaration start here (`async` before `function` is read as an
ordinary async function). -/
def atModifiedDeclaration : P Bool := do
  match ← kind with
  | .ident w false =>
    if !declarationModifierWords.contains w then return false
    if w == "async" && (← tokenAt 1).kind == .ident "function" false then return false
    return (← peek (declarationAhead 64)).getD false
  | _ => return false

def decoratorsNotValid (marks : List Nat) : P Unit :=
  marks.forM fun m => report ⟨"Decorators are not valid here.", m⟩

def atClass : P Bool := do
  if ← atWord "class" then return true
  return (← atWord "abstract") && (← peekKind) == .ident "class" false

def computedEnumName : String := "Computed property names are not allowed in enums."

def numericEnumName : String := "An enum member cannot have a numeric name."

def abstractInitializer (name : String) : String :=
  "Property '" ++ name ++ "' cannot have an initializer because it is marked abstract."

/-- Ends a class field: a semicolon, or one that may be left out; anything else is reported as
the token found where `;` was expected. -/
def fieldEnd : P Unit := do
  if ← eat ";" then return
  if ← canInsertSemicolon then return
  expect ";"

/-- Whether a `using` or `await using` declaration starts here: the words, then a name, with no
line break between them. After a lone `using` an object pattern also starts one, to be
reported as a pattern a resource cannot bind. -/
def atUsing : P Bool := do
  let t ← tok
  let n ← tokenAt 1
  if t.kind == .ident "using" false then
    return (n.kind.isBinding || n.kind == .punct "\x7b") && !n.newline
  if t.kind == .ident "await" false && n.kind == .ident "using" false && !n.newline then
    let n2 ← tokenAt 2
    return n2.kind.isBinding && !n2.newline
  return false

/-- Words that cannot name a local binding in an export without `from`: the reserved words and
those reserved in strict code. -/
def exportReserved : List String :=
  reservedWords ++ ["await", "yield", "implements", "interface", "package", "private", "protected",
    "public", "static"]

def decoratorsAfterExport : String :=
  "Decorators may not appear after 'export' or 'export default' if they also appear before 'export'."

def loneSurrogateName : String := "An export name cannot include a unicode lone surrogate"

/-- The keys of import attributes that are given again, each with where it first stands, in
the order of the repetitions; `seen` holds the keys before the list. -/
def repeatedKeys (seen : List (String × Nat)) : List (String × Nat) → List (String × Nat)
  | [] => []
  | (k, o) :: rest =>
    match seen.find? (·.1 == k) with
    | some first => first :: repeatedKeys seen rest
    | none => repeatedKeys (seen ++ [(k, o)]) rest

/-- Reads import attributes after `with` or `assert`, up to and including `}`: entries
`key: "value"` separated by commas, each key a name or a string and each value a string.
`keys` holds the keys read so far with where each stands, a string key being the same key
as the name it spells; all of them are the result. -/
def attributes (fuel : Nat) (first : Bool) (keys : List (String × Nat)) :
    P (List (String × Nat)) :=
  match fuel with
  | 0 => tooDeep
  | f + 1 => do
    if ← eat "\x7d" then return keys
    if !first then
      expectSeparator "\x7d"
      if ← eat "\x7d" then return keys
    let k ← tok
    let key ← match k.kind with
      | .ident w _ => do nextName; pure w
      | .string v => do next; pure v
      | _ => unexpected
    expect ":"
    let v ← tok
    match v.kind with
    | .string _ => next
    | _ => fail ⟨"Only string literals are allowed as module attribute values.", v.start⟩
    attributes f false (keys ++ [(key, k.start)])

/-- Reads import attributes, if `with` (or `assert` on the same line) introduces them.
Once the clause is read, a key given twice is reported at its first place. -/
def attributeClause (fuel : Nat) : P Unit := do
  if (← atWord "with") || ((← atWord "assert") && !(← tok).newline) then
    next
    expect "\x7b"
    let keys ← attributes fuel true []
    for (key, first) in repeatedKeys [] keys do
      report ⟨"Identifier \x60" ++ key ++ "\x60 has already been declared", first⟩

/-- Fails when an expression about to be assigned to is an instantiation (`f<T>`), which
names no place. -/
def instantiationTarget (e : Expr) : P Unit :=
  match e.form with
  | .instantiation =>
    fail ⟨"The left-hand side of an assignment expression must be a variable or a property access.",
      e.start⟩
  | _ => pure ()

/-- Reads the name a binding introduces. A reserved word cannot be one, even written with
escapes. -/
def bindingName : P Unit := do
  let t ← tok
  match t.kind with
  | .ident w _ =>
    if reservedWords.contains w then
      fail ⟨"Identifier expected. '" ++ w ++ "' is a reserved word that cannot be used here.",
        t.start⟩
    checkIdentifier t
    bind w t.start
    nextName
  | _ => unexpected

/-- Reads the name a type, interface, enum or namespace declaration gives; a reserved word
cannot be one. -/
def declarationName : P Unit := do
  let t ← tok
  match t.kind with
  | .ident w _ =>
    if reservedWords.contains w then
      fail ⟨"Identifier expected. '" ++ w ++ "' is a reserved word that cannot be used here.",
        t.start⟩
    nextName
  | _ => unexpected

def entityRest (fuel : Nat) : P Unit :=
  match fuel with
  | 0 => tooDeep
  | f + 1 => do
    if ← eat "." then
      let _ ← name
      entityRest f
termination_by structural fuel

/-- Reads the rest of `import name = target;` from the name: the target is `require("m")` or an
entity name. -/
def importEquals (fuel : Nat) : P Unit :=
  match fuel with
  | 0 => tooDeep
  | f + 1 => do
    match ← kind with
    | .ident _ _ => if (← kind).isBinding then nextName else unexpected
    | _ => unexpected
    expect "="
    if (← atWord "require") && (← tokenAt 1).kind == .punct "(" then
      next
      next
      match ← kind with
      | .string _ => next
      | _ => unexpected
      expect ")"
    else
      let _ ← name
      entityRest f
    semicolon

mutual

def expression (fuel : Nat) : P Expr :=
  match fuel with
  | 0 => tooDeep
  | f + 1 => do
    let first ← assignment f true
    if ← isAt "," then sequence f first.start false else pure first
termination_by structural fuel

def parenContents (fuel : Nat) : P Expr :=
  match fuel with
  | 0 => tooDeep
  | f + 1 => do
    let first ← assignment f true
    if ← isAt "," then sequence f first.start true else pure first
termination_by structural fuel

def sequence (fuel : Nat) (start : Nat) (inParens : Bool) : P Expr :=
  match fuel with
  | 0 => tooDeep
  | f + 1 => do
    let c ← tok
    if ← eat "," then
      if inParens then
        if ← isAt ")" then
          fail ⟨"Parenthesized expressions may not have a trailing comma.", c.start⟩
      let _ ← assignment f true
      sequence f start inParens
    else pure { start, stop := (← get).prevEnd, form := .sequence }
termination_by structural fuel

/-- Reads an assignment expression: an arrow function, a `yield`, an assignment, or a
conditional expression. `allowReturnType` says whether a parenthesized arrow may carry a return
type here (not in the middle branch of a conditional). -/
def assignment (fuel : Nat) (allowReturnType : Bool) : P Expr :=
  match fuel with
  | 0 => tooDeep
  | f + 1 => do
    let t ← tok
    if t.kind == .ident "yield" false then
      if (← get).ctx.yields then return ← yieldExpr f
      let n ← tokenAt 1
      if !n.newline && (n.kind.isName || n.kind.isLiteral) then
        report ⟨"A 'yield' expression is only allowed in a generator body.", t.start⟩
        return ← yieldExpr f
    if t.kind == .punct "(" || t.kind == .punct "<" || t.kind == .ident "async" false then
      match ← parenArrow f allowReturnType with
      | some e => return e
      | none => pure ()
    if t.kind == .ident "async" false then
      let n1 ← tokenAt 1
      let n2 ← tokenAt 2
      if !n1.newline && n1.kind.isBinding && n2.kind == .punct "=>" then
        next
        nextName
        return ← arrowBody f t.start true
    let lhs ← binary f 0
    if ← isAt "=>" then
      match lhs.form with
      | .name _ => return ← arrowBody f lhs.start false
      | _ => pure ()
    let op ← kind
    if isAssignOp op then
      instantiationTarget lhs
      if op == .punct "=" then
        reportIssues (lhs.form.targetIssues lhs.start)
        takeDefaults lhs.form.patternDefaults
      else if let some pos := lhs.form.placeError lhs.start then fail ⟨cannotAssign, pos⟩
      next
      let _ ← assignment f true
      return { start := lhs.start, stop := (← get).prevEnd, form := .assignment (op != .punct "=") }
    conditional f lhs allowReturnType
termination_by structural fuel

def yieldExpr (fuel : Nat) : P Expr :=
  match fuel with
  | 0 => tooDeep
  | f + 1 => do
    let start := (← tok).start
    next
    if !(← tok).newline then
      let delegate ← eat "*"
      let bare ← match ← kind with
        | .punct ";" | .eof | .punct "\x7d" | .punct ")" | .punct "]" | .punct ":"
        | .punct "," => pure true
        | _ => pure false
      if !bare || delegate then
        let _ ← assignment f true
    return { start, stop := (← get).prevEnd }
termination_by structural fuel

/-- Reads an arrow function that starts with `(` or `<`, when the tokens say it is one or a trial
reading of its head succeeds. -/
def parenArrow (fuel : Nat) (allowReturnType : Bool) : P (Option Expr) :=
  match fuel with
  | 0 => tooDeep
  | f + 1 => do
    let start := (← tok).start
    match ← arrowStart with
    | .no => return none
    | .yes =>
      let (async, _) ← arrowHead f
      return some (← arrowBody f start async)
    | .maybe =>
      let saved ← get
      match ← attempt (arrowHead f) with
      | none => return none
      | some (async, hasReturnType) =>
        -- `a ? (b) : c => d` is a parenthesized `b`, unless another `:` follows the arrow
        let e ← arrowBody f start async
        if !allowReturnType && hasReturnType && !(← isAt ":") then
          set saved
          return none
        return some e
termination_by structural fuel

/-- Reads the head of a parenthesized arrow function up to and including `=>`: whether it is
`async`, and whether it has a return type. -/
def arrowHead (fuel : Nat) : P (Bool × Bool) :=
  match fuel with
  | 0 => tooDeep
  | f + 1 => inFunction do
    let async ← eatWord "async"
    let outer := (← get).ctx
    withCtx (fun c => { c with awaits := async || outer.awaits, allowIn := true }) do
      if (← dialect).typed && (← isAt "<") then typeParams f
      let ps ← formalParams f false
      if let some t := ps.thisParam then
        report ⟨"An arrow function cannot have a `this` parameter.", t⟩
      let hasReturnType ← if (← dialect).typed && (← isAt ":") then
          do next; returnType f; pure true
        else pure false
      let t ← tok
      if t.newline && t.kind == .punct "=>" then
        report ⟨"Line terminator not permitted before arrow", t.start⟩
      expect "=>"
      return (async, hasReturnType)
termination_by structural fuel

/-- Reads the body of an arrow function after `=>` (a block or an expression) inside the
function's scope; `start` is where the arrow function starts. An arrow function in the body may
have a return type, even where the outer one could not. -/
def arrowBody (fuel : Nat) (start : Nat) (async : Bool) : P Expr :=
  match fuel with
  | 0 => tooDeep
  | f + 1 => do
    if ← isAt "=>" then
      let t ← tok
      if t.newline then report ⟨"Line terminator not permitted before arrow", t.start⟩
      next
    inFunction do
      let outer := (← get).ctx
      withCtx (fun _ => { returns := true, awaits := async, ambient := outer.ambient }) do
        if ← isAt "\x7b" then functionBody f
        else let _ ← assignment f true
    return { start, stop := (← get).prevEnd }
termination_by structural fuel

def conditional (fuel : Nat) (test : Expr) (allowReturnType : Bool) : P Expr :=
  match fuel with
  | 0 => tooDeep
  | f + 1 => do
    if !(← eat "?") then return test
    let _ ← withCtx (fun c => { c with allowIn := true }) (assignment f false)
    expect ":"
    let _ ← assignment f allowReturnType
    return { start := test.start, stop := (← get).prevEnd }
termination_by structural fuel

def binary (fuel : Nat) (minPrec : Nat) : P Expr :=
  match fuel with
  | 0 => tooDeep
  | f + 1 => do
    let t ← tok
    match t.kind with
    | .privateName _ =>
      if (← get).ctx.allowIn then
        next
        if !(← atWord "in") then expectWord "in"
        next
        let _ ← unary f
        binaryRest f { start := t.start, stop := (← get).prevEnd } minPrec
      else
        let lhs ← unary f
        binaryRest f lhs minPrec
    | _ =>
      let lhs ← unary f
      binaryRest f lhs minPrec
termination_by structural fuel

def binaryRest (fuel : Nat) (lhs : Expr) (minPrec : Nat) : P Expr :=
  match fuel with
  | 0 => tooDeep
  | f + 1 => do
    joinGreater
    let t ← tok
    match precedence t.kind with
    | none => return lhs
    | some p =>
      let stop := if t.kind == .punct "**" then p < minPrec else p ≤ minPrec
      if stop then return lhs
      if t.kind == .ident "in" false && !(← get).ctx.allowIn then return lhs
      if t.kind == .ident "as" false || t.kind == .ident "satisfies" false then
        if t.newline then return lhs
        next
        type f
        if !(← dialect).typed then
          let what := if t.kind == .ident "as" false then "assertion" else "satisfaction"
          report ⟨"Type " ++ what ++ " expressions can only be used in TypeScript files.", lhs.start⟩
        binaryRest f { start := lhs.start, stop := (← get).prevEnd, form := .place } minPrec
      else
        if t.kind == .punct "**" && (match lhs.form with | .unary => true | _ => false) then
          report ⟨"Unexpected exponentiation expression", lhs.start⟩
        next
        let rhs ← binary f p
        let form := logicalForm t.kind
        if mixesLogical form lhs.form || mixesLogical form rhs.form then
          report ⟨"Logical expressions and coalesce expressions cannot be mixed", lhs.start⟩
        binaryRest f { start := lhs.start, stop := (← get).prevEnd, form } minPrec
termination_by structural fuel

/-- Reads a unary expression: prefix operators, `await`, markup, a type assertion, or an
update expression. Outside async functions `await` is an operator only before a name or a
literal on its line; in untyped source not before `in`, `instanceof` or `of`, which make it a
name. -/
def unary (fuel : Nat) : P Expr :=
  match fuel with
  | 0 => tooDeep
  | f + 1 => do
    let t ← tok
    let prefixed : P Expr := do
      next
      let _ ← unary f
      return { start := t.start, stop := (← get).prevEnd, form := .unary }
    match t.kind with
    | .punct "++" | .punct "--" =>
      next
      let e ← unary f
      if let some pos := e.form.placeError e.start then fail ⟨cannotAssign, pos⟩
      return { start := t.start, stop := (← get).prevEnd }
    | .punct "!" | .punct "~" | .punct "+" | .punct "-" => prefixed
    | .ident "typeof" false | .ident "void" false | .ident "delete" false => prefixed
    | .punct "<" =>
      let d ← dialect
      if d.markup then markupExpr f
      else if d.typed then
        next
        type f
        expect ">"
        let _ ← unary f
        return { start := t.start, stop := (← get).prevEnd, form := .place }
      else unexpected
    | .ident "await" false =>
      if (← get).ctx.awaits then prefixed
      else
        let n ← tokenAt 1
        let operator := match n.kind with
          | .ident "in" false | .ident "instanceof" false | .ident "of" false => true
          | _ => false
        if !n.newline && (n.kind.isName || n.kind.isLiteral) &&
            ((← dialect).typed || !operator) then
          reportAwait t.start
          prefixed
        else
          modify fun c => { c with awaitAsName := true }
          update f
    | _ => update f
termination_by structural fuel

def update (fuel : Nat) : P Expr :=
  match fuel with
  | 0 => tooDeep
  | f + 1 => do
    let (e, chained) ← memberExpr f
    let e ← callRest f e chained
    let t ← tok
    if (t.kind == .punct "++" || t.kind == .punct "--") && !t.newline then
      if let some pos := e.form.placeError e.start then fail ⟨cannotAssign, pos⟩
      next
      return { start := e.start, stop := (← get).prevEnd }
    return e
termination_by structural fuel

def markupExpr (fuel : Nat) : P Expr :=
  match fuel with
  | 0 => tooDeep
  | f + 1 => do
    let start := (← tok).start
    let sc ← scope
    let tree ← markup f false
    let stop := (← get).prevEnd
    addSite { start, stop, scope := sc, tree }
    return { start, stop }
termination_by structural fuel

/-- Reads a primary expression and its member accesses (no calls), with whether they hold an
optional chain. -/
def memberExpr (fuel : Nat) : P (Expr × Bool) :=
  match fuel with
  | 0 => tooDeep
  | f + 1 => do
    let e ← primary f
    memberRest f e false false
termination_by structural fuel

/-- Reads member accesses, tagged templates, non-null assertions and type arguments after an
expression. `chained` says the accesses so far hold an optional chain (`?.`), in which a tagged
template is an error; the result says so for all of them. The callee of `new` (`inNew`) stops
before `?.`. -/
def memberRest (fuel : Nat) (e : Expr) (chained inNew : Bool) : P (Expr × Bool) :=
  match fuel with
  | 0 => tooDeep
  | f + 1 => do
    let t ← tok
    let d ← dialect
    let grown (form : Form) : P Expr := do return { start := e.start, stop := (← get).prevEnd, form }
    let access : Form := if chained then .other else .place
    match t.kind with
    | .punct "." =>
      next
      match ← kind with
      | .ident _ _ | .privateName _ => nextName
      | _ => unexpected
      memberRest f (← grown access) chained inNew
    | .punct "?." =>
      if inNew then return (e, chained)
      match (← tokenAt 1).kind with
      | .punct "[" =>
        next
        next
        let _ ← withCtx (fun c => { c with allowIn := true }) (expression f)
        expect "]"
        memberRest f (← grown .other) true inNew
      | .ident _ _ | .privateName _ =>
        next
        nextName
        memberRest f (← grown .other) true inNew
      | _ => return (e, chained)
    | .punct "[" =>
      next
      let _ ← withCtx (fun c => { c with allowIn := true }) (expression f)
      expect "]"
      memberRest f (← grown access) chained inNew
    | .punct "!" =>
      if d.typed && !t.newline then
        next
        memberRest f (← grown access) chained inNew
      else return (e, chained)
    | .template _ _ =>
      let _ ← template f true
      if chained then
        report ⟨"Tagged template expressions are not permitted in an optional chain", t.start⟩
      memberRest f (← grown .other) chained inNew
    | .punct "<" =>
      if d.typed then
        match ← attempt (typeArgsInExpression f) with
        | some _ => memberRest f (← grown .instantiation) chained inNew
        | none => return (e, chained)
      else return (e, chained)
    | _ => return (e, chained)
termination_by structural fuel

/-- Reads calls, with member accesses between them, after an expression; `chained` as for
`memberRest`. -/
def callRest (fuel : Nat) (e : Expr) (chained : Bool) : P Expr :=
  match fuel with
  | 0 => tooDeep
  | f + 1 => do
    let (e, chained) ← memberRest f e chained false
    let q ← tok
    let optional ← eat "?."
    let chained := chained || optional
    if optional && (← dialect).typed && (← isAt "<") then
      let _ ← attempt (typeArgsInExpression f)
    if optional then
      let t ← tok
      match t.kind with
      | .template _ _ =>
        let _ ← template f true
        report ⟨"Tagged template expressions are not permitted in an optional chain", t.start⟩
        return ← callRest f { start := e.start, stop := (← get).prevEnd } chained
      | .punct "(" => pure ()
      | _ => fail ⟨"Identifier expected after '?.'", q.start⟩
    if ← isAt "(" then
      arguments f
      callRest f { start := e.start, stop := (← get).prevEnd } chained
    else return e
termination_by structural fuel

def arguments (fuel : Nat) : P Unit :=
  match fuel with
  | 0 => tooDeep
  | f + 1 => do
    expect "("
    withCtx (fun c => { c with allowIn := true }) (argumentList f true)
    expect ")"
termination_by structural fuel

def argumentList (fuel : Nat) (first : Bool) : P Unit :=
  match fuel with
  | 0 => tooDeep
  | f + 1 => do
    if ← isAt ")" then return
    if !first then
      expectSeparator ")"
      if ← isAt ")" then return
    let _ ← eat "..."
    let _ ← assignment f true
    argumentList f false
termination_by structural fuel

def primary (fuel : Nat) : P Expr :=
  match fuel with
  | 0 => tooDeep
  | f + 1 => do
    let t ← tok
    let single : P Expr := do
      next
      return { start := t.start, stop := t.stop }
    match t.kind with
    | .ident w false =>
      if w == "function" then functionExpr f t.start false .expression
      else if w == "async" && (← tokenAt 1).kind == .ident "function" false &&
          !(← tokenAt 1).newline then
        next
        functionExpr f t.start true .expression
      else if w == "class" then classExpr f t.start
      else if w == "new" then newExpr f
      else if w == "import" then
        next
        let call : P Unit := do
          expect "("
          if ← isAt ")" then fail ⟨"import() requires a specifier.", t.start⟩
          withCtx (fun c => { c with allowIn := true }) do
            let _ ← assignment f true
            if ← eat "," then
              if !(← isAt ")") then
                let _ ← assignment f true
                if ← eat "," then
                  if !(← isAt ")") then fail ⟨dynamicImportArguments, t.start⟩
          expect ")"
        if ← eat "." then
          match ← kind with
          | .ident "meta" _ =>
            next
            modify fun c => { c with moduleSyntax := true }
          | .ident "source" _ | .ident "defer" _ =>
            next
            call
          | _ => fail ⟨"The only valid meta property for import is import.meta", t.start⟩
        else if ← isAt "(" then call
        else unexpected
        return { start := t.start, stop := (← get).prevEnd }
      else if w == "super" then
        next
        match ← kind with
        | .punct "(" | .punct "." | .punct "[" => pure ()
        | _ => report ⟨"'super' can only be used with function calls or in property accesses", t.start⟩
        return { start := t.start, stop := t.stop }
      else if ["this", "null", "true", "false"].contains w then single
      else if reservedWords.contains w then unexpected
      else if (← get).ctx.awaits && w == "await" then unexpected
      else
        nextName
        return { start := t.start, stop := t.stop, form := .name w }
    | .ident w true =>
      next
      return { start := t.start, stop := t.stop, form := .name w }
    | .number _ => single
    | .string v =>
      next
      return { start := t.start, stop := t.stop, form := .string v }
    | .template _ _ => template f false
    | .punct "[" => arrayLiteral f
    | .punct "\x7b" => objectLiteral f
    | .punct "(" =>
      next
      if ← isAt ")" then fail ⟨"Empty parenthesized expression", t.start⟩
      let e ← withCtx (fun c => { c with allowIn := true }) (parenContents f)
      expect ")"
      return { start := t.start, stop := (← get).prevEnd, form := .paren e.start e.form }
    | .punct "/" | .punct "/=" =>
      relexRegex
      let r ← tok
      next
      return { start := r.start, stop := r.stop }
    | .punct "<" => if (← dialect).markup then markupExpr f else unexpected
    | .punct "@" =>
      let _ ← decorators f
      if !(← atWord "class") then unexpected
      classExpr f t.start
    | .privateName _ => fail ⟨"Unexpected private identifier", t.start⟩
    | _ => unexpected
termination_by structural fuel

/-- Reads a template literal: its pieces and substitutions. A piece with an invalid escape has
no value, which only a tagged template allows. -/
def template (fuel : Nat) (tagged : Bool) : P Expr :=
  match fuel with
  | 0 => tooDeep
  | f + 1 => do
    let t ← tok
    templatePiece tagged
    match t.kind with
    | .template cooked true =>
      next
      return { start := t.start, stop := t.stop, form := .template cooked }
    | _ =>
      next
      templateRest f tagged
      return { start := t.start, stop := (← get).prevEnd }
termination_by structural fuel

def templateRest (fuel : Nat) (tagged : Bool) : P Unit :=
  match fuel with
  | 0 => tooDeep
  | f + 1 => do
    let _ ← withCtx (fun c => { c with allowIn := true }) (expression f)
    if ← isAt "\x7d" then relexTemplate else expect "\x7d"
    match ← kind with
    | .template _ true =>
      templatePiece tagged
      next
    | .template _ false =>
      templatePiece tagged
      next
      templateRest f tagged
    | _ => unexpected
termination_by structural fuel

def arrayLiteral (fuel : Nat) : P Expr :=
  match fuel with
  | 0 => tooDeep
  | f + 1 => do
    let start := (← tok).start
    expect "["
    let (elements, trailing) ← withCtx (fun c => { c with allowIn := true }) (arrayElements f true)
    expect "]"
    return { start, stop := (← get).prevEnd, form := .array elements trailing }
termination_by structural fuel

/-- Reads the elements of an array literal up to `]`; holes are allowed. Gives them, and where
a comma after the last one stands. -/
def arrayElements (fuel : Nat) (first : Bool) : P (List Element × Option Nat) :=
  match fuel with
  | 0 => tooDeep
  | f + 1 => do
    if ← isAt "]" then return ([], none)
    if !first then
      let comma ← tok
      expectSeparator "]"
      if ← isAt "]" then return ([], some comma.start)
    if ← isAt "," then
      let (rest, trailing) ← arrayElements f false
      return (.hole :: rest, trailing)
    else
      let dots := (← tok).start
      let spread ← eat "..."
      let e ← assignment f true
      let element := if spread then Element.spread dots e.start e.form else .item e.start e.form
      let (rest, trailing) ← arrayElements f false
      return (element :: rest, trailing)
termination_by structural fuel

def objectLiteral (fuel : Nat) : P Expr :=
  match fuel with
  | 0 => tooDeep
  | f + 1 => do
    let start := (← tok).start
    expect "\x7b"
    let (members, trailing) ← withCtx (fun c => { c with allowIn := true }) (objectMembers f true)
    expect "\x7d"
    return { start, stop := (← get).prevEnd, form := .object members trailing }
termination_by structural fuel

/-- Reads the members of an object literal up to `}`. Gives them, and where a comma after the
last one stands. -/
def objectMembers (fuel : Nat) (first : Bool) : P (List Element × Option Nat) :=
  match fuel with
  | 0 => tooDeep
  | f + 1 => do
    if ← isAt "\x7d" then return ([], none)
    if !first then
      let comma ← tok
      expectSeparator "\x7d"
      if ← isAt "\x7d" then return ([], some comma.start)
    let member ← objectMember f
    let (rest, trailing) ← objectMembers f false
    return (member :: rest, trailing)
termination_by structural fuel

/-- Reads one member of an object literal: a spread, a method or accessor, a property with a
value, or a shorthand property. Modifiers may come first, but only `async`, and only on a method
that is not an accessor. -/
def objectMember (fuel : Nat) : P Element :=
  match fuel with
  | 0 => tooDeep
  | f + 1 => do
    let dots := (← tok).start
    if ← eat "..." then
      let e ← assignment f true
      return .spread dots e.start e.form
    let mods ← readModifiers f false false []
    let async := Modifier.listHas mods "async"
    let allow (allowed : List String) : P Unit := disallow mods allowed "cannot be used here."
    let t ← tok
    let n ← tokenAt 1
    let keyNext := n.kind.startsKey
    match t.kind with
    | .ident "get" false | .ident "set" false =>
      if keyNext then
        allow []
        next
        let _ ← propertyKey f
        let start := (← tok).start
        checkAccessor (t.kind == .ident "get" false) (← method f false false false true).1
        return .method start
    | .punct "*" =>
      if keyNext then
        allow ["async"]
        next
        let _ ← propertyKey f
        let start := (← tok).start
        let _ ← method f async true false true
        return .method start
    | _ => pure ()
    let shorthand := match t.kind with
      | .ident w _ => !reservedWords.contains w
      | _ => false
    let shorthand := shorthand && !(match n.kind with
      | .punct "(" | .punct ":" | .punct "<" | .punct "<<" => true
      | _ => false)
    if shorthand then
      allow []
      nextName
      if ← eat "=" then
        let _ ← assignment f true
        addDefault t.start
        return .shorthand (some t.start)
      return .shorthand none
    let _ ← propertyKey f
    if (← isAt "(") || (← isAt "<") then
      allow ["async"]
      let start := (← tok).start
      let _ ← method f async false false true
      return .method start
    allow []
    expect ":"
    let e ← assignment f true
    return .item e.start e.form
termination_by structural fuel

/-- Reads a property name: an identifier or keyword, a string, a number, a private name, or a
computed key in brackets. -/
def propertyKey (fuel : Nat) : P PropKey :=
  match fuel with
  | 0 => tooDeep
  | f + 1 => do
    match ← kind with
    | .punct "[" =>
      next
      let inner := (← tok).start
      let _ ← withCtx (fun c => { c with allowIn := true }) (assignment f true)
      let stop := (← get).prevEnd
      expect "]"
      return .computed inner stop
    | .ident w _ => nextName; return .name w
    | .string v => next; return .string v
    | .privateName n => next; return .privateName n
    | .number _ => next; return .number
    | _ => unexpected
termination_by structural fuel

/-- Reads a method after its name: type parameters, parameters, return type and body, inside
the method's own scope. Gives what its parameter list holds, and whether it has a body, which
`needsBody` says it must. A constructor takes no type parameters, no `this` parameter and no
return type. -/
def method (fuel : Nat) (async generator constructor needsBody : Bool) : P (ParamList × Bool) :=
  match fuel with
  | 0 => tooDeep
  | f + 1 => inFunction do
    let outer := (← get).ctx
    let inner : Ctx := { returns := true, awaits := async, yields := generator, ambient := outer.ambient }
    withCtx (fun _ => inner) do
      if (← dialect).typed && (← isAt "<") then
        if constructor then
          report ⟨"Type parameters cannot appear on a constructor declaration", (← tok).start⟩
        typeParams f
      let ps ← formalParams f constructor
      if constructor then
        if let some t := ps.thisParam then
          report ⟨"A constructor cannot have a `this` parameter.", t⟩
      if (← dialect).typed && (← isAt ":") then
        if constructor then
          report ⟨"Type annotation cannot appear on a constructor declaration.", (← tok).start⟩
        next
        returnType f
      if ← isAt "\x7b" then
        functionBody f
        return (ps, true)
      else if needsBody then fail ⟨"Expected function body", ps.start⟩
      else semicolon
      return (ps, false)
termination_by structural fuel

/-- Reads a function from `function` (after `async`, if any). A declaration needs a name: a
missing one is reported where the parameters open, and a reserved word stops reading. The name
of an expression is checked as a name inside the function, any other as one outside it. -/
def functionExpr (fuel : Nat) (start : Nat) (async : Bool) (site : FunctionSite) : P Expr :=
  match fuel with
  | 0 => tooDeep
  | f + 1 => do
    expectWord "function"
    let generator ← eat "*"
    inFunction do
      let t ← tok
      if t.kind.isBinding then
        if site == .expression then
          withCtx (fun c => { c with awaits := async, yields := generator }) (checkIdentifier t)
        else checkIdentifier t
        nextName
      else if site.needsName then
        match t.kind with
        | .punct "(" => report ⟨"Expected function name", t.start⟩
        | .ident w _ => fail ⟨"Expected `Identifier` but found `" ++ w ++ "`", t.start⟩
        | _ => pure ()
      let outer := (← get).ctx
      let inner : Ctx := { returns := true, awaits := async, yields := generator, ambient := outer.ambient }
      withCtx (fun _ => inner) do
        if (← dialect).typed && (← isAt "<") then typeParams f
        let _ ← formalParams f false
        if (← dialect).typed && (← isAt ":") then
          next
          returnType f
        let brace ← tok
        if brace.kind == .punct "\x7b" then
          if site == .declared then
            report ⟨"An implementation cannot be declared in ambient contexts.", brace.start⟩
          functionBody f
        else if (← dialect).typed then semicolon
        else fail ⟨"Expected function body", start⟩
    return { start, stop := (← get).prevEnd }
termination_by structural fuel

def functionBody (fuel : Nat) : P Unit :=
  match fuel with
  | 0 => tooDeep
  | f + 1 => do
    expect "\x7b"
    statementList f false
    expect "\x7d"
termination_by structural fuel

/-- Reads formal parameters, from `(` to `)`, and gives what they hold; `constructor` says they
are a constructor's, which alone may declare properties. -/
def formalParams (fuel : Nat) (constructor : Bool) : P ParamList :=
  match fuel with
  | 0 => tooDeep
  | f + 1 => do
    let start := (← tok).start
    expect "("
    let ps ← paramList f true constructor { start }
    expect ")"
    return ps
termination_by structural fuel

/-- Reads parameters separated by commas up to `)`, counting them. A rest parameter must come
last, and no comma may follow it (except in ambient declarations). -/
def paramList (fuel : Nat) (first constructor : Bool) (ps : ParamList) : P ParamList :=
  match fuel with
  | 0 => tooDeep
  | f + 1 => do
    if ← isAt ")" then return ps
    if !first then
      let comma ← tok
      expectSeparator ")"
      if ← isAt ")" then
        if ps.rest.isSome && !(← get).ctx.ambient then
          report ⟨restTrailingComma, comma.start⟩
        return ps
    if let some r := ps.rest then report ⟨"A rest parameter must be last in a parameter list", r⟩
    match ← param f constructor with
    | .this t => paramList f false constructor { ps with thisParam := some t }
    | .plain initialized =>
      let first := ps.initialized || (ps.count == 0 && initialized)
      paramList f false constructor { ps with count := ps.count + 1, initialized := first }
    | .rest r => paramList f false constructor { ps with rest := some r }
termination_by structural fuel

/-- Reads one parameter: decorators, modifiers, a rest marker, a pattern, a type and a default.
Modifiers make a parameter a property: only a constructor of typed source declares those, with
an accessibility, `readonly` or `override`, and a plain name. -/
def param (fuel : Nat) (constructor : Bool) : P ParamKind :=
  match fuel with
  | 0 => tooDeep
  | f + 1 => do
    let start := (← tok).start
    if ← isAt "@" then let _ ← decorators f
    let mods ← readModifiers f false false []
    if (← dialect).typed then
      let allowed := if constructor then accessibilityWords ++ ["readonly", "override"] else []
      disallow mods allowed "cannot appear on a parameter."
    else
      mods.forM fun m =>
        report ⟨"Parameter modifiers can only be used in TypeScript files.", m.start⟩
    let t ← tok
    if (← dialect).typed && t.kind == .ident "this" false then
      next
      if ← eat ":" then type f
      return .this t.start
    if ← eat "..." then
      restBinding f true
      return .rest t.start
    if !mods.isEmpty && (t.kind == .punct "[" || t.kind == .punct "\x7b") then
      report ⟨"A parameter property may not be declared using a binding pattern.", start⟩
    let (optional, initialized) ← bindingElement f
    if optional && initialized then
      report ⟨"A parameter cannot have a question mark and an initializer.", start⟩
    return .plain initialized
termination_by structural fuel

/-- Reads the argument of a rest parameter (`param`) or rest element after `...`: a pattern,
with a type in typed source, which only a parameter may have. A rest element is never optional
and takes no default. -/
def restBinding (fuel : Nat) (param : Bool) : P Unit :=
  match fuel with
  | 0 => tooDeep
  | f + 1 => do
    let start := (← tok).start
    pattern f
    if (← dialect).typed then
      let q ← tok
      if ← eat "?" then report ⟨"A rest parameter cannot be optional", q.start⟩
      let colon ← tok
      if ← eat ":" then
        if !param then report ⟨"A rest element cannot have a property name.", colon.start⟩
        type f
    if ← eat "=" then
      let _ ← withCtx (fun c => { c with allowIn := true }) (assignment f true)
      report ⟨"A rest element cannot have an initializer.", start⟩
termination_by structural fuel

/-- Reads a binding pattern with an optional type and default value: whether it was marked
optional, and whether it has a default. -/
def bindingElement (fuel : Nat) : P (Bool × Bool) :=
  match fuel with
  | 0 => tooDeep
  | f + 1 => do
    pattern f
    let mut optional := false
    if (← dialect).typed then
      optional ← eat "?"
      if ← eat ":" then type f
    if ← eat "=" then
      let _ ← withCtx (fun c => { c with allowIn := true }) (assignment f true)
      return (optional, true)
    return (optional, false)
termination_by structural fuel

/-- Reads a binding pattern: a name, an array pattern or an object pattern. The rest element
of an object pattern must be a plain name. -/
def pattern (fuel : Nat) : P Unit :=
  match fuel with
  | 0 => tooDeep
  | f + 1 => do
    match ← kind with
    | .punct "[" =>
      next
      arrayPattern f true none
      expect "]"
    | .punct "\x7b" =>
      next
      let rest ← objectPattern f true none
      expect "\x7d"
      if let some (_, arg, false) := rest then report ⟨"Invalid rest element", arg⟩
    | _ => bindingName
termination_by structural fuel

/-- Reads the elements of an array pattern up to `]`; `rest` is where a rest element read so
far starts. It must be the last element, with no comma after it. -/
def arrayPattern (fuel : Nat) (first : Bool) (rest : Option Nat) : P Unit :=
  match fuel with
  | 0 => tooDeep
  | f + 1 => do
    if ← isAt "]" then return
    if !first then
      let comma ← tok
      expectSeparator "]"
      if ← isAt "]" then
        if rest.isSome && !(← get).ctx.ambient then report ⟨restTrailingComma, comma.start⟩
        return
    if let some r := rest then report ⟨restNotLast, r⟩
    if ← isAt "," then arrayPattern f false rest
    else
      let t ← tok
      if ← eat "..." then
        restBinding f false
        arrayPattern f false (some t.start)
      else
        let _ ← bindingElement f
        arrayPattern f false rest
termination_by structural fuel

/-- Reads the properties of an object pattern up to `}`. A rest element must come last, with no
comma after it; the result gives where it starts, where its argument starts, and whether the
argument is a plain name. -/
def objectPattern (fuel : Nat) (first : Bool) (rest : Option (Nat × Nat × Bool)) :
    P (Option (Nat × Nat × Bool)) :=
  match fuel with
  | 0 => tooDeep
  | f + 1 => do
    if ← isAt "\x7d" then return rest
    if !first then
      let comma ← tok
      expectSeparator "\x7d"
      if ← isAt "\x7d" then
        if rest.isSome && !(← get).ctx.ambient then report ⟨restTrailingComma, comma.start⟩
        return rest
    if let some (r, _, _) := rest then report ⟨restNotLast, r⟩
    let t ← tok
    if ← eat "..." then
      let arg ← tok
      restBinding f false
      let plain := (← get).prevEnd == arg.stop && match arg.kind with
        | .ident _ _ => true
        | _ => false
      objectPattern f false (some (t.start, arg.start, plain))
    else
      let n ← tokenAt 1
      if t.kind.isBinding && n.kind != .punct ":" then
        bindingName
        if ← eat "=" then
          let _ ← withCtx (fun c => { c with allowIn := true }) (assignment f true)
      else
        let _ ← propertyKey f
        expect ":"
        let _ ← bindingElement f
      objectPattern f false rest
termination_by structural fuel

/-- Reads decorators: `@` and a member chain, optionally called. Gives where each starts. A
decorator that is not a parenthesized expression must be a name followed by property names,
with type arguments and arguments at most once at the end. -/
def decorators (fuel : Nat) : P (List Nat) :=
  match fuel with
  | 0 => tooDeep
  | f + 1 => do
    let t ← tok
    if ← eat "@" then
      let exprStart := (← tok).start
      let shapeEnd ← peek (decoratorShape f)
      let (e, chained) ← memberExpr f
      let _ ← callRest f e chained
      if shapeEnd != some (← get).prevEnd then
        report ⟨"Expression must be enclosed in parentheses to be used as a decorator.", exprStart⟩
      return t.start :: (← decorators f)
    return []
termination_by structural fuel

/-- Reads the longest decorator of the plain form, giving where it ends: a parenthesized
expression, or a name with property names after it and arguments at most once at the end. In
typed source, non-null assertions and type arguments may come anywhere in the chain. -/
def decoratorShape (fuel : Nat) : P Nat :=
  match fuel with
  | 0 => tooDeep
  | f + 1 => do
    if ← isAt "(" then
      let _ ← primary f
      return (← get).prevEnd
    let _ ← name
    dottedNames f true
    if ← isAt "(" then
      arguments f
      dottedNames f false
    return (← get).prevEnd
termination_by structural fuel

/-- Reads property names after dots, private names among them (when `members` says so), and
in typed source non-null assertions and type arguments. -/
def dottedNames (fuel : Nat) (members : Bool) : P Unit :=
  match fuel with
  | 0 => tooDeep
  | f + 1 => do
    let typed := (← dialect).typed
    let t ← tok
    match t.kind with
    | .punct "." =>
      if members then
        match ← peekKind with
        | .ident _ _ | .privateName _ =>
          next
          nextName
          dottedNames f members
        | _ => pure ()
    | .punct "!" =>
      if typed && !t.newline then
        next
        dottedNames f members
    | .punct "<" =>
      if typed then
        if let some _ ← attempt (typeArgsInExpression f) then dottedNames f members
    | _ => pure ()
termination_by structural fuel

def classExpr (fuel : Nat) (start : Nat) : P Expr :=
  match fuel with
  | 0 => tooDeep
  | f + 1 => do
    expectWord "class"
    let t ← tok
    if t.kind.isBinding && t.kind != .ident "implements" false then
      checkIdentifier t
      nextName
    if (← dialect).typed && (← isAt "<") then typeParams f
    let _ ← heritage f false false none
    expect "\x7b"
    classMembers f
    expect "\x7d"
    return { start, stop := (← get).prevEnd }
termination_by structural fuel

/-- Reads the heritage clauses of a class or interface (`forInterface`): at most one `extends`
clause, which comes first, and at most one `implements` clause. `extended` says an `extends`
clause was read, `implemented` where the `implements` clause starts; gives the latter. -/
def heritage (fuel : Nat) (forInterface extended : Bool) (implemented : Option Nat) :
    P (Option Nat) :=
  match fuel with
  | 0 => tooDeep
  | f + 1 => do
    let t ← tok
    if t.kind == .ident "extends" false then
      if extended then report ⟨"'extends' clause already seen", t.start⟩
      else if let some i := implemented then
        report ⟨"'extends' clause must precede 'implements' clause", i⟩
      next
      superClasses f forInterface
      heritage f forInterface true implemented
    else if t.kind == .ident "implements" false then
      if let some i := implemented then report ⟨"'implements' clause already seen", i⟩
      next
      implementsList f
      heritage f forInterface extended (some (implemented.getD t.start))
    else return implemented
termination_by structural fuel

/-- Reads the expressions after `extends`, with their type arguments. An interface extends only
dotted names, each with type arguments at most. -/
def superClasses (fuel : Nat) (forInterface : Bool) : P Unit :=
  match fuel with
  | 0 => tooDeep
  | f + 1 => do
    let start := (← tok).start
    let shapeEnd ← peek do
      let _ ← name
      entityRest f
      if ← isAt "<" then typeArgs f
      return (← get).prevEnd
    let (e, chained) ← memberExpr f
    let _ ← callRest f e chained
    if (← dialect).typed && (← isAt "<") then typeArgs f
    if forInterface && shapeEnd != some (← get).prevEnd then
      report ⟨"An interface can only extend an identifier/qualified-name with optional type arguments.",
        start⟩
    if ← eat "," then superClasses f forInterface
termination_by structural fuel

def implementsList (fuel : Nat) : P Unit :=
  match fuel with
  | 0 => tooDeep
  | f + 1 => do
    let _ ← name
    entityRest f
    if ← isAt "<" then typeArgs f
    if ← eat "," then implementsList f
termination_by structural fuel

def classMembers (fuel : Nat) : P Unit :=
  match fuel with
  | 0 => tooDeep
  | f + 1 => do
    if (← isAt "\x7d") || (← kind) == .eof then return
    classMember f
    classMembers f
termination_by structural fuel

/-- Reads one class member: a static block, an index signature, a method, an accessor or a
field, after its decorators and modifiers. Field initializers belong to the class's scope,
method bodies to their own. A member named `constructor` (not static) is always a method, and
a plain one; no member may be named `#constructor`. Each kind of member takes its own
modifiers: no member takes `const`, only fields take `declare` and `readonly`, a constructor
takes no `declare`, and in typed source no private name takes an accessibility. -/
def classMember (fuel : Nat) : P Unit :=
  match fuel with
  | 0 => tooDeep
  | f + 1 => do
    if ← eat ";" then return
    let start := (← tok).start
    let marks ← decorators f
    let decorated := !marks.isEmpty
    let mods ← readModifiers f true true []
    if (← atWord "static") && (← tokenAt 1).kind == .punct "\x7b" then
      decoratorsNotValid marks
      mods.forM fun m => report ⟨"Modifiers cannot appear here.", m.start⟩
      next
      let outer := (← get).ctx
      withCtx (fun _ => { awaits := true, ambient := outer.ambient }) do
        expect "\x7b"
        statementList f false
        expect "\x7d"
      return
    if let some m := mods.find? (·.word == "const") then
      report ⟨"A class member cannot have the 'const' keyword.", m.start⟩
    mods.forM fun m =>
      if m.word == "in" || m.word == "out" then
        report ⟨m.message
          "can only appear on a type parameter of a class, interface or type alias.", m.start⟩
      else pure ()
    let static := Modifier.listHas mods "static"
    let abstract := Modifier.listHas mods "abstract"
    let async := Modifier.listHas mods "async"
    let typed := (← dialect).typed
    let methodModifiers : P Unit := mods.forM fun m =>
      if m.word == "declare" then
        report ⟨m.message "cannot appear on class elements of this kind.", m.start⟩
      else if m.word == "readonly" then
        report ⟨m.message "can only appear on a property declaration or index signature.", m.start⟩
      else pure ()
    let generator ← eat "*"
    let t ← tok
    let n ← tokenAt 1
    let implementation (what : String) (key : PropKey) (keyStart keyEnd : Nat) : P Unit := do
      let (pos, text) := key.shown (← src) keyStart keyEnd
      report ⟨what ++ " '" ++ text ++
        "' cannot have an implementation because it is marked abstract.", pos⟩
    let readKey : P (PropKey × Nat) := do
      let keyStart := (← tok).start
      let key ← propertyKey f
      if key == .privateName "constructor" then
        report ⟨"Classes can't have an element named '#constructor'", keyStart⟩
      match key with
      | .privateName _ =>
        if typed then
          if let some m := mods.find? (accessibilityWords.contains ·.word) then
            report ⟨"An accessibility modifier cannot be used with a private identifier.", m.start⟩
      | _ => pure ()
      return (key, keyStart)
    let checkPrototype (key : PropKey) (keyStart : Nat) : P Unit := do
      if static && key.staticName == some "prototype" && !(← get).ctx.ambient then
        report ⟨"Classes may not have a static property named 'prototype'", keyStart⟩
    if !generator && (t.kind == .ident "get" false || t.kind == .ident "set" false) &&
        n.kind.startsKey then
      next
      methodModifiers
      let (key, keyStart) ← readKey
      let keyEnd := (← get).prevEnd
      let (ps, body) ← method f false false false !typed
      checkAccessor (t.kind == .ident "get" false) ps
      if abstract && body then implementation "Accessor" key keyStart keyEnd
      checkPrototype key keyStart
      if !static && key.staticName == some "constructor" then
        report ⟨"Constructor can't have get/set modifier", keyStart⟩
      return
    if typed && !generator && (← atIndexSignature) then
      decoratorsNotValid marks
      disallow mods ["readonly", "static"] "cannot appear on an index signature."
      indexSignature f start
      semicolon
      return
    let (key, keyStart) ← readKey
    let keyEnd := (← get).prevEnd
    let q ← tok
    let optional ← eat "?"
    if ← eat "!" then
      if optional then report ⟨"A property cannot be both optional and definite.", q.start⟩
    let constructor := !static && key.staticName == some "constructor"
    if (← isAt "(") || (← isAt "<") || (!static && key == .name "constructor") then
      if constructor then
        mods.forM fun m =>
          if m.word == "declare" then
            report ⟨m.message "cannot appear on a constructor declaration.", m.start⟩
          else pure ()
      else methodModifiers
      let (_, body) ← method f async generator constructor !typed
      if decorated && !body then
        report ⟨"A decorator can only decorate a method implementation, not an overload.", start⟩
      if abstract && body && !constructor then implementation "Method" key keyStart keyEnd
      checkPrototype key keyStart
      if constructor then
        if async then report ⟨"Constructor can't be an async method", keyStart⟩
        if generator then report ⟨"Constructor can't be a generator", keyStart⟩
      return
    if Modifier.listHas mods "accessor" then
      mods.forM fun m =>
        if ["readonly", "declare", "default", "export", "async"].contains m.word then
          report ⟨"'accessor' modifier cannot be used with '" ++ m.word ++ "' modifier.", m.start⟩
        else pure ()
    if optional && Modifier.listHas mods "accessor" then
      report ⟨"An 'accessor' property cannot be declared optional.", q.start⟩
    if key.staticName == some "constructor" then
      let verb := if Modifier.listHas mods "accessor" then "may not" else "can't"
      report ⟨"Classes " ++ verb ++ " have a field named 'constructor'", keyStart⟩
    checkPrototype key keyStart
    if typed then
      if ← eat ":" then type f
    if ← eat "=" then
      let outer := (← get).ctx
      let _ ← withCtx (fun _ => { ambient := outer.ambient }) (assignment f true)
      if abstract then
        let (pos, text) := key.shown (← src) keyStart keyEnd
        report ⟨abstractInitializer text, pos⟩
    fieldEnd
termination_by structural fuel

def newExpr (fuel : Nat) : P Expr :=
  match fuel with
  | 0 => tooDeep
  | f + 1 => do
    let start := (← tok).start
    expectWord "new"
    if ← eat "." then
      match ← kind with
      | .ident "target" _ => next
      | _ => fail ⟨"The only valid meta property for new is new.target", start⟩
      return { start, stop := (← get).prevEnd }
    let calleeTok ← tok
    let importCall := calleeTok.kind == .ident "import" false && (← peekKind) == .punct "("
    let callee ← primary f
    let afterCallee := (← get).prevEnd
    let _ ← memberRest f callee false true
    let bare := (← get).prevEnd == afterCallee
    if ← isAt "?." then fail ⟨"Invalid optional chain from new expression.", (← tok).start⟩
    if (← dialect).typed && (← isAt "<") then
      let _ ← attempt (typeArgsInExpression f)
    if ← isAt "(" then arguments f
    if importCall && bare then report ⟨"Cannot use new with dynamic import", calleeTok.start⟩
    return { start, stop := (← get).prevEnd }
termination_by structural fuel

/-- Reads an element or fragment whose `<` is current; `inChild` when it stands among the
children of other markup, where the token after it is read as markup text. -/
def markup (fuel : Nat) (inChild : Bool) : P Tree :=
  match fuel with
  | 0 => tooDeep
  | f + 1 => do
    let start := (← tok).start
    let loc ← locationOf start
    if (← tokenAt 1).kind == .punct ">" then
      expect "<"
      expectJsxChild ">"
      let children ← markupChildren f
      expect "<"
      expect "/"
      if inChild then expectJsxChild ">" else expect ">"
      return .fragment none children loc
    expect "<"
    let (name, nameStart, nameStop) ← markupName
    if (← dialect).typed && (← isAt "<") then typeArgs f
    let attrs ← markupAttributes f
    let selfClosing ← eat "/"
    if !selfClosing || inChild then expectJsxChild ">" else expect ">"
    let tag := tagOf (← src) nameStart nameStop
    let isComponent := name.isComponent tag
    if selfClosing then return .element tag isComponent attrs [] loc
    let children ← markupChildren f
    expect "<"
    expect "/"
    let closeStart := (← tok).start
    let (closeName, _, _) ← markupName
    if inChild then expectJsxChild ">" else expect ">"
    if closeName != name then
      report ⟨"Expected corresponding JSX closing tag for '" ++ (← src).slice nameStart nameStop ++
        "'.", closeStart⟩
    return .element tag isComponent attrs children loc
termination_by structural fuel

def markupAttributes (fuel : Nat) : P (List Attribute) :=
  match fuel with
  | 0 => tooDeep
  | f + 1 => do
    match ← kind with
    | .punct "<" | .punct ">" | .punct "/" | .eof => return []
    | .punct "\x7b" =>
      let start := (← tok).start
      next
      expect "..."
      let (e, sites) ← collecting (markupExpression f)
      expect "\x7d"
      let attr := Attribute.spread (partsOf (← src) e.start e.stop sites) (← locationOf start)
      return attr :: (← markupAttributes f)
    | _ =>
      let start := (← tok).start
      let first ← markupIdent
      let name ← if ← eat ":" then pure (AttrName.namespaced first (← markupIdent))
        else pure (AttrName.plain first)
      let value ← if ← isAt "=" then
          nextJsxAttrValue
          attributeValue f
        else pure (Value.literal (.bool true))
      let attr := Attribute.named name value (← locationOf start)
      return attr :: (← markupAttributes f)
termination_by structural fuel

def attributeValue (fuel : Nat) : P Value :=
  match fuel with
  | 0 => tooDeep
  | f + 1 => do
    let t ← tok
    match t.kind with
    | .string s =>
      next
      return Value.string (Text.decodeEntities s)
    | .punct "\x7b" =>
      next
      if ← isAt "\x7d" then
        expect "\x7d"
        report ⟨"JSX attributes must only be assigned a non-empty 'expression'.", t.start⟩
        return Value.literal .undefined
      let (e, sites) ← collecting (markupExpression f)
      expect "\x7d"
      return valueOf (← src) e sites
    | .punct "<" =>
      let sc ← scope
      let tree ← markup f false
      return .expr [.tree tree sc]
    | _ => unexpected
termination_by structural fuel

def markupExpression (fuel : Nat) : P Expr :=
  match fuel with
  | 0 => tooDeep
  | f + 1 => withCtx markupCtx (expression f)
termination_by structural fuel

def markupChildren (fuel : Nat) : P (List Tree) :=
  match fuel with
  | 0 => tooDeep
  | f + 1 => do
    let t ← tok
    match t.kind with
    | .punct "<" =>
      match (← tokenAt 1).kind with
      | .punct ">" | .ident _ _ =>
        let child ← markup f true
        return child :: (← markupChildren f)
      | .punct "/" => return []
      | _ =>
        next
        unexpected
    | .punct "\x7b" =>
      next
      if ← eat "..." then
        let (e, sites) ← collecting (expression f)
        expectJsxChild "\x7d"
        let child := Tree.slot (.expr (partsOf (← src) e.start e.stop sites))
        return child :: (← markupChildren f)
      if ← isAt "\x7d" then
        expectJsxChild "\x7d"
        return ← markupChildren f
      let (e, sites) ← collecting (markupExpression f)
      expectJsxChild "\x7d"
      let child := Tree.slot (valueOf (← src) e sites)
      return child :: (← markupChildren f)
    | .jsxText =>
      let text := (← src).slice t.start t.stop
      nextJsxChild
      return .text text :: (← markupChildren f)
    | _ => unexpected
termination_by structural fuel

def statementList (fuel : Nat) (topLevel : Bool) : P Unit :=
  match fuel with
  | 0 => tooDeep
  | f + 1 => do
    let k ← kind
    if k == .eof || (!topLevel && k == .punct "\x7d") then return
    let _ ← statement f false
    statementList f topLevel
termination_by structural fuel

/-- Reads one statement or declaration; for an expression statement, its expression. `single`
says the statement is the body of an `if`, a loop, `with` or a label, where a declaration other
than `var` or a plain function is out of place. -/
def statement (fuel : Nat) (single : Bool) : P (Option Expr) :=
  match fuel with
  | 0 => tooDeep
  | f + 1 => do
    let t ← tok
    let d ← dialect
    let escaped ← escapedWord
    let none' : P (Option Expr) := pure none
    match t.kind with
    | .punct "\x7b" =>
      block f
      none'
    | .punct ";" =>
      next
      none'
    | .punct "@" =>
      let marks ← decorators f
      if ← atWord "export" then
        exportDecl f marks
        none'
      else if ← atClass then
        let _ ← eatWord "abstract"
        let _ ← classExpr f t.start
        none'
      else
        decoratorsNotValid marks
        statement f single
    | .ident w false =>
      let n ← tokenAt 1
      if w == "if" then
        next
        parenExpression f
        let _ ← statement f true
        if ← eatWord "else" then let _ ← statement f true
        none'
      else if w == "while" || w == "with" then
        next
        parenExpression f
        let _ ← statement f true
        none'
      else if w == "do" then
        next
        let _ ← statement f true
        expectWord "while"
        parenExpression f
        let _ ← eat ";"
        none'
      else if w == "for" then
        forStatement f
        none'
      else if w == "break" || w == "continue" then
        next
        if !(← canInsertSemicolon) then
          let ctx := (← get).ctx
          match ← kind with
          | .ident l _ =>
            if reservedWords.contains l || (l == "yield" && ctx.yields) ||
                (l == "await" && (ctx.awaits || d.module)) then unexpected
            nextName
          | _ => unexpected
        semicolon
        none'
      else if w == "switch" then
        next
        parenExpression f
        expect "\x7b"
        switchCases f
        expect "\x7d"
        none'
      else if w == "throw" then
        next
        if (← tok).newline then report ⟨"Illegal newline after throw", t.start⟩
        let _ ← withCtx (fun c => { c with allowIn := true }) (expression f)
        semicolon
        none'
      else if w == "try" then
        next
        block f
        let blockEnd := (← get).prevEnd
        let caught ← eatWord "catch"
        if caught then
          if ← eat "(" then
            pattern f
            if d.typed then
              if ← eat ":" then type f
            expect ")"
          block f
        let cleanup ← eatWord "finally"
        if cleanup then block f
        if !caught && !cleanup then report ⟨"Missing catch or finally clause", blockEnd⟩
        none'
      else if w == "debugger" then
        next
        semicolon
        none'
      else if w == "return" then
        next
        if !(← eat ";") && !(← canInsertSemicolon) then
          let _ ← withCtx (fun c => { c with allowIn := true }) (expression f)
          semicolon
        if !(← get).ctx.returns && !d.commonJs then
          report ⟨"A 'return' statement can only be used within a function body.", t.start⟩
        none'
      else if w == "let" && !escaped && letAlone n.kind single then
        let _ ← primary f
        semicolon
        none'
      else if w == "var" || (w == "const" && (n.kind != .ident "enum" false || !d.typed)) ||
          (w == "let" && !escaped && letDeclares n.kind single) then
        next
        declarations f (if w == "const" then .constant else .variable)
        semicolon
        if single && w != "var" then
          report ⟨"Lexical declaration cannot appear in a single-statement context", t.start⟩
        none'
      else if ← atUsing then
        if w == "await" then next
        next
        declarations f .disposable
        semicolon
        if single then
          report ⟨"Lexical declaration cannot appear in a single-statement context", t.start⟩
        none'
      else if w == "function" then
        let _ ← functionExpr f t.start false .declaration
        if single && n.kind == .punct "*" then
          report ⟨"Generators can only be declared at the top level or inside a block", t.start⟩
        none'
      else if w == "async" && n.kind == .ident "function" false && !n.newline then
        next
        let _ ← functionExpr f t.start true .declaration
        if single then
          report ⟨"Async functions can only be declared at the top level or inside a block",
            t.start⟩
        none'
      else if w == "class" then
        let _ ← classExpr f t.start
        if single then report ⟨"Invalid class declaration", t.start⟩
        none'
      else if w == "export" then
        exportDecl f []
        none'
      else if w == "import" && n.kind != .punct "(" && n.kind != .punct "." then
        let _ ← importDecl f
        none'
      else if d.typed then
        if ← typedDeclaration f false then none' else expressionStatement f
      else expressionStatement f
    | _ => expressionStatement f
termination_by structural fuel

def expressionStatement (fuel : Nat) : P (Option Expr) :=
  match fuel with
  | 0 => tooDeep
  | f + 1 => do
    let e ← withCtx (fun c => { c with allowIn := true }) (expression f)
    match e.form with
    | .name _ =>
      if ← eat ":" then
        let _ ← statement f true
        return none
    | _ => pure ()
    semicolon
    return some e
termination_by structural fuel

def block (fuel : Nat) : P Unit :=
  match fuel with
  | 0 => tooDeep
  | f + 1 => do
    expect "\x7b"
    statementList f false
    expect "\x7d"
termination_by structural fuel

def parenExpression (fuel : Nat) : P Unit :=
  match fuel with
  | 0 => tooDeep
  | f + 1 => do
    expect "("
    let _ ← withCtx (fun c => { c with allowIn := true }) (expression f)
    expect ")"
termination_by structural fuel

def switchCases (fuel : Nat) : P Unit :=
  match fuel with
  | 0 => tooDeep
  | f + 1 => do
    if ← eatWord "case" then
      let _ ← withCtx (fun c => { c with allowIn := true }) (expression f)
      expect ":"
      caseBody f
      switchCases f
    else if ← eatWord "default" then
      expect ":"
      caseBody f
      switchCases f
    else if !(← isAt "\x7d") && (← kind) != .eof then
      fail ⟨"Expected switch clause", (← tok).start⟩
termination_by structural fuel

def caseBody (fuel : Nat) : P Unit :=
  match fuel with
  | 0 => tooDeep
  | f + 1 => do
    let k ← kind
    if k == .punct "\x7d" || k == .ident "case" false || k == .ident "default" false ||
        k == .eof then return
    if ← atUsing then
      report ⟨"Using declaration cannot appear in the bare case statement.", (← tok).start⟩
    let _ ← statement f false
    caseBody f
termination_by structural fuel

/-- Reads variable declarators joined by commas. A constant, a resource or a pattern needs an
initializer outside a `for` head and outside ambient declarations; a resource is bound to a
plain name. A declarator cannot be optional. -/
def declarations (fuel : Nat) (binding : Binding) : P Unit :=
  match fuel with
  | 0 => tooDeep
  | f + 1 => do
    let t ← tok
    let isPattern := t.kind == .punct "[" || t.kind == .punct "\x7b"
    if binding == .disposable && isPattern then
      report ⟨"Using declarations may not have binding patterns.", t.start⟩
    pattern f
    let bang ← tok
    let mut definite := false
    let mut annotated := false
    if (← dialect).typed then
      let q ← tok
      if ← eat "?" then report ⟨"Optional declaration is not allowed here", q.start⟩
      definite ← eat "!"
      annotated ← eat ":"
      if annotated then type f
    let initialized ← eat "="
    if initialized then
      let _ ← assignment f true
    else
      let c := (← get).ctx
      if c.allowIn && !c.ambient && !(← atWord "in") && !(← atWord "of") then
        if binding == .constant then report ⟨"Missing initializer in const declaration", t.start⟩
        else if binding == .disposable then
          report ⟨"Using declarations must have an initializer.", t.start⟩
        else if isPattern then
          report ⟨"Missing initializer in destructuring declaration", t.start⟩
    if definite then
      if initialized then
        report ⟨"Declarations with initializers cannot also have definite assignment assertions.",
          bang.start⟩
      else if !annotated then
        report ⟨"Declarations with definite assignment assertions must also have type annotations.",
          bang.start⟩
    if ← eat "," then declarations f binding
termination_by structural fuel

def forStatement (fuel : Nat) : P Unit :=
  match fuel with
  | 0 => tooDeep
  | f + 1 => do
    let start := (← tok).start
    expectWord "for"
    let awaitTok ← tok
    let awaits ← eatWord "await"
    if awaits && !(← get).ctx.awaits then reportAwait awaitTok.start
    let awaitNotOf : P Unit := do
      if awaits then
        report ⟨"await can only be used in conjunction with `for...of` statements", start⟩
    expect "("
    if ← isAt ";" then
      awaitNotOf
      forRest f
      return
    let t ← tok
    let n ← tokenAt 1
    let escaped ← escapedWord
    let isDecl := t.kind == .ident "var" false || t.kind == .ident "const" false ||
      (t.kind == .ident "let" false && !escaped &&
        (n.kind.isBinding || n.kind == .punct "[" || n.kind == .punct "\x7b"))
    let disposable := (← atUsing) && !(t.kind == .ident "using" false && n.kind == .ident "of" false)
    if isDecl then
      next
      withCtx (fun c => { c with allowIn := false })
        (declarations f (if t.kind == .ident "const" false then .constant else .variable))
    else if disposable then
      if t.kind == .ident "await" false then next
      next
      withCtx (fun c => { c with allowIn := false }) (declarations f .disposable)
      if ← atWord "in" then
        report ⟨"The left-hand side of a for...in statement cannot be an using declaration.", t.start⟩
    else
      let head ← withCtx (fun c => { c with allowIn := false }) (expression f)
      let asyncName := match head.form with
        | .name "async" => t.kind == .ident "async" false && !escaped
        | _ => false
      if !awaits && asyncName && (← atWord "of") then
        report ⟨"The left-hand side of a `for...of` statement may not be `async`", head.start⟩
      if t.kind == .ident "let" false && !escaped && (← atWord "of") then
        report ⟨"The left-hand side of a `for...of` statement may not start with `let`", head.start⟩
      if (← atWord "of") || (← atWord "in") then
        instantiationTarget head
        reportIssues (head.form.targetIssues head.start)
        takeDefaults head.form.patternDefaults
    if ← eatWord "of" then
      let _ ← withCtx (fun c => { c with allowIn := true }) (assignment f true)
      expect ")"
      let _ ← statement f true
    else if ← eatWord "in" then
      awaitNotOf
      let _ ← withCtx (fun c => { c with allowIn := true }) (expression f)
      expect ")"
      let _ ← statement f true
    else
      awaitNotOf
      forRest f
termination_by structural fuel

def forRest (fuel : Nat) : P Unit :=
  match fuel with
  | 0 => tooDeep
  | f + 1 => do
    expect ";"
    if !(← isAt ";") then
      let _ ← withCtx (fun c => { c with allowIn := true }) (expression f)
    expect ";"
    if !(← isAt ")") then
      let _ ← withCtx (fun c => { c with allowIn := true }) (expression f)
    expect ")"
    let _ ← statement f true
termination_by structural fuel

/-- Reads an export declaration; `marks` are where the decorators before `export` start. None
may come after it then, and what is exported must be a class. -/
def exportDecl (fuel : Nat) (marks : List Nat) : P Unit :=
  match fuel with
  | 0 => tooDeep
  | f + 1 => do
    let decorated := !marks.isEmpty
    expectWord "export"
    modify fun c => { c with moduleSyntax := true }
    let t ← tok
    let d ← dialect
    let decoratedTwice : P Unit := do
      if decorated && (← isAt "@") then report ⟨decoratorsAfterExport, (← tok).start⟩
    decoratedTwice
    let starRest : P Unit := do
      if ← eatWord "as" then
        let t ← tok
        match t.kind with
        | .ident w _ => addExport w t.start
        | .string s =>
          if hasLoneSurrogate s then report ⟨loneSurrogateName, t.start⟩
          addExport s t.start
        | _ => pure ()
        match t.kind with
        | .ident _ _ | .string _ => nextName
        | _ => unexpected
      fromClause f
    match t.kind with
    | .punct "*" =>
      next
      starRest
    | .punct "\x7b" =>
      next
      let problems ← specifiers f true false false
      if ← atWord "from" then fromClause f
      else
        problems.forM report
        semicolon
    | .punct "=" =>
      if d.typed then
        next
        let _ ← withCtx (fun c => { c with allowIn := true }) (expression f)
        semicolon
      else unexpected
    | .ident "default" false =>
      modify fun c => { c with defaultExports := c.defaultExports.push t.start }
      next
      decoratedTwice
      let t ← tok
      let n ← tokenAt 1
      if !(← atClass) && t.kind != .punct "@" then decoratorsNotValid marks
      if t.kind == .ident "function" false then
        let _ ← functionExpr f t.start false .defaultExport
      else if t.kind == .ident "async" false && n.kind == .ident "function" false &&
          !n.newline then
        next
        let _ ← functionExpr f t.start true .defaultExport
      else if t.kind == .ident "class" false then
        let _ ← classExpr f t.start
      else if t.kind == .punct "@" then
        let _ ← decorators f
        let _ ← classExpr f t.start
      else if t.kind == .ident "abstract" false && n.kind == .ident "class" false then
        next
        let _ ← classExpr f t.start
      else if t.kind == .ident "interface" false && n.kind.isBinding then
        let _ ← typedDeclaration f true
      else
        let _ ← withCtx (fun c => { c with allowIn := true }) (assignment f true)
        semicolon
    | .ident "as" false =>
      if d.typed then
        next
        expectWord "namespace"
        let _ ← name
        semicolon
      else unexpected
    | .ident "type" false =>
      if d.typed && (← tokenAt 1).kind == .punct "*" then
        next
        next
        starRest
      else if d.typed && (← tokenAt 1).kind == .punct "\x7b" then
        next
        next
        let problems ← specifiers f true false true
        if ← atWord "from" then fromClause f
        else
          problems.forM report
          semicolon
      else
        decoratorsNotValid marks
        exportedDeclaration f
    | .ident "import" false =>
      if !(← importDecl f) then report ⟨"Unexpected export.", t.start⟩
    | _ =>
      if !(← atClass) && t.kind != .punct "@" then decoratorsNotValid marks
      exportedDeclaration f
termination_by structural fuel

/-- Reads the declaration an `export` introduces: a variable, function or class declaration, or
in typed source a type, interface, enum, namespace or ambient declaration. Anything else is
unexpected. -/
def exportedDeclaration (fuel : Nat) : P Unit :=
  match fuel with
  | 0 => tooDeep
  | f + 1 => do
    if (← dialect).typed then
      if ← typedDeclaration f true then return
    let t ← tok
    let n ← tokenAt 1
    if ← atUsing then
      report ⟨"Using declarations cannot be exported directly.", t.start⟩
      let _ ← statement f false
      return
    let declares : Bool := match t.kind with
      | .ident "var" false | .ident "let" false | .ident "const" false
      | .ident "function" false | .ident "class" false | .punct "@" => true
      | .ident "async" false => n.kind == .ident "function" false && !n.newline
      | _ => false
    if !declares then unexpected
    let skip := (if t.kind == .ident "async" false then 1 else 0) +
      (if t.kind == .punct "@" then 0 else 1)
    let star := (← tokenAt skip).kind == .punct "*"
    let nameTok ← tokenAt (if star then skip + 1 else skip)
    let named := t.kind != .ident "var" false && t.kind != .ident "let" false &&
      t.kind != .ident "const" false && t.kind != .punct "@"
    let mark := (← get).bound.size
    let _ ← statement f false
    if named then
      match nameTok.kind with
      | .ident w _ => if nameTok.kind.isBinding then addExport w nameTok.start
      | _ => pure ()
    else exportBound mark
termination_by structural fuel

def fromClause (fuel : Nat) : P Unit :=
  match fuel with
  | 0 => tooDeep
  | f + 1 => do
    expectWord "from"
    match ← kind with
    | .string _ => next
    | _ => unexpected
    attributeClause f
    semicolon

/-- Reads import or export specifiers up to and including `}`. When `importing`, each local
name is recorded as imported; otherwise each exported name is recorded as exported, and the
result holds the problems of the local names, which count only when no `from` follows: a
string, or a reserved word. In an `import type` or `export type` statement (`typeOnly`) a
specifier cannot say `type` again. -/
def specifiers (fuel : Nat) (first : Bool) (importing typeOnly : Bool) : P (List Diag) :=
  match fuel with
  | 0 => tooDeep
  | f + 1 => do
    if ← eat "\x7d" then return []
    if !first then
      expectSeparator "\x7d"
      if ← eat "\x7d" then return []
    let t ← tok
    let n ← tokenAt 1
    -- `type name`, but not `type as x` or a lone `type`
    if (← dialect).typed && t.kind == .ident "type" false &&
        (n.kind.isName || (match n.kind with | .string _ => true | _ => false)) &&
        n.kind != .ident "as" false then
      if typeOnly then
        report ⟨if importing then
            "The 'type' modifier cannot be used on a named import when 'import type' is used on its import statement."
          else
            "The 'type' modifier cannot be used on a named export when 'export type' is used on its export statement.",
          t.start⟩
      next
    let specName : P (String × Nat × Option Diag) := do
      let t ← tok
      match t.kind with
      | .ident w _ =>
        nextName
        let problem : Option Diag := if exportReserved.contains w then
          some ⟨"A reserved word cannot be used as an exported binding without `from`", t.start⟩
          else none
        pure (w, t.start, problem)
      | .string s =>
        next
        if hasLoneSurrogate s then report ⟨loneSurrogateName, t.start⟩
        pure (s, t.start,
          some ⟨"A string literal cannot be used as an exported binding without `from`", t.start⟩)
      | _ => unexpected
    let (localName, localStart, problem) ← specName
    let (name, offset, _) ← if ← eatWord "as" then specName else pure (localName, localStart, problem)
    if importing then modify fun c => { c with imports := c.imports.push name }
    else if name == "default" then
      modify fun c => { c with defaultExports := c.defaultExports.push offset }
    else addExport name offset
    let rest ← specifiers f false importing typeOnly
    return problem.toList ++ rest
termination_by structural fuel

/-- Reads an import declaration, recording the local names it binds: whether it was the form
`import x = …`, which belongs to typed source. A deferred import (`import defer`) takes a
namespace only, and a source phase import (`import source`) a single default binding. -/
def importDecl (fuel : Nat) : P Bool :=
  match fuel with
  | 0 => tooDeep
  | f + 1 => do
    let start := (← tok).start
    expectWord "import"
    let d ← dialect
    if (match ← kind with | .string _ => true | _ => false) then
      modify fun c => { c with moduleSyntax := true }
      next
      attributeClause f
      semicolon
      return false
    let t ← tok
    let n ← tokenAt 1
    let typeOnly := d.typed && t.kind == .ident "type" false &&
        (n.kind == .punct "\x7b" || n.kind == .punct "*" ||
          (n.kind.isBinding && n.kind != .ident "from" false) ||
          (n.kind == .ident "from" false && (← tokenAt 2).kind == .ident "from" false))
    if typeOnly then next
    let t ← tok
    let n ← tokenAt 1
    let phaseBinding := (n.kind.isBinding && n.kind != .ident "from" false) ||
      (n.kind == .ident "from" false && (← tokenAt 2).kind == .ident "from" false)
    let sourcePhase := t.kind == .ident "source" false &&
      (n.kind == .punct "*" || n.kind == .punct "\x7b" || phaseBinding)
    let deferPhase := t.kind == .ident "defer" false &&
      (n.kind == .punct "*" || n.kind == .punct "\x7b" || phaseBinding)
    let phaseStart := t.start
    if sourcePhase || deferPhase then next
    let t ← tok
    let n ← tokenAt 1
    if t.kind.isBinding && n.kind == .punct "=" then
      if !d.typed then report ⟨"'import ... =' can only be used in TypeScript files.", start⟩
      importEquals f
      return true
    modify fun c => { c with moduleSyntax := true }
    let phaseError (message : String) : P Unit := do
      if deferPhase then report ⟨message, phaseStart⟩
    let sourceError : P Unit := do
      if sourcePhase then
        report ⟨"Only a single default import is allowed in a source phase import.", phaseStart⟩
    if t.kind.isBinding && !(t.kind == .ident "from" false && (match n.kind with
        | .string _ => true | _ => false)) then
      phaseError "Default imports are not allowed in a deferred import."
      match t.kind with
      | .ident w _ => modify fun c => { c with imports := c.imports.push w }
      | _ => pure ()
      nextName
      if !(← eat ",") then
        fromClause f
        return false
      if typeOnly then
        report ⟨"A type-only import can specify a default import or named bindings, but not both.",
          t.start⟩
    sourceError
    if ← eat "*" then
      expectWord "as"
      match ← kind with
      | .ident w _ =>
        modify fun c => { c with imports := c.imports.push w }
        nextName
      | _ => unexpected
    else if ← isAt "\x7b" then
      phaseError "Named imports are not allowed in a deferred import."
      next
      let _ ← specifiers f true true typeOnly
    else unexpected
    fromClause f
    return false


/-- Reads a declaration that only typed source has: a type alias, an interface, an enum, a
namespace or module, or a declaration after modifiers. Whether one was there. A type alias,
interface or namespace needs a name on its line, which must be no reserved word unless the
declaration is `exported` (where a reserved word is then an error). -/
def typedDeclaration (fuel : Nat) (exported : Bool) : P Bool :=
  match fuel with
  | 0 => tooDeep
  | f + 1 => do
    let t ← tok
    let n ← tokenAt 1
    let sameLine := !n.newline
    let named := if exported then n.kind.isName else n.kind.isBinding
    if ← atModifiedDeclaration then
      let mods ← readModifiers f false false []
      let declare := Modifier.listHas mods "declare"
      withCtx (fun c => { c with ambient := c.ambient || declare }) (modifiedDeclaration f t.start mods)
      return true
    match t.kind with
    | .ident "type" false =>
      if !(named && sameLine) then return false
      next
      declarationName
      if ← isAt "<" then typeParams f
      expect "="
      type f
      semicolon
      return true
    | .ident "interface" false =>
      if !(named && sameLine) then return false
      next
      declarationName
      if ← isAt "<" then typeParams f
      if let some i ← heritage f true false none then
        report ⟨"Interface declaration cannot have 'implements' clause.", i⟩
      expect "\x7b"
      members f
      return true
    | .ident "enum" false =>
      if !n.kind.isName then return false
      next
      declarationName
      expect "\x7b"
      enumMembers f true
      return true
    | .ident "const" false =>
      if n.kind != .ident "enum" false then return false
      next
      typedDeclaration f exported
    | .ident "global" false =>
      if n.kind != .punct "\x7b" && !n.kind.isPlainIdentifier then return false
      next
      block f
      return true
    | .ident "namespace" false | .ident "module" false =>
      let isName := named || (match n.kind with | .string _ => true | _ => false)
      if !(isName && sameLine) then return false
      next
      if n.kind.isName then declarationName else next
      entityRest f
      if ← isAt "\x7b" then block f else semicolon
      return true
    | _ => return false
termination_by structural fuel

/-- Reads a declaration after its modifiers, which start at `start`. Each kind of declaration
takes its own modifiers: all take `declare` and `export`, functions `async`, classes `abstract`
and enums `const`. A function's are checked once it is read. -/
def modifiedDeclaration (fuel : Nat) (start : Nat) (mods : List Modifier) : P Unit :=
  match fuel with
  | 0 => tooDeep
  | f + 1 => do
    let t ← tok
    let allow (allowed : List String) : P Unit := disallow mods allowed "cannot be used here."
    match t.kind with
    | .ident "var" false | .ident "let" false | .ident "const" false =>
      allow ["declare", "export"]
      next
      declarations f (if t.kind == .ident "const" false then .constant else .variable)
      semicolon
    | .ident "function" false =>
      let site : FunctionSite := if Modifier.listHas mods "declare" then .declared else .declaration
      let _ ← functionExpr f start (Modifier.listHas mods "async") site
      allow ["declare", "async", "export"]
    | .ident "class" false =>
      allow ["declare", "abstract", "export"]
      let _ ← classExpr f start
    | .ident "enum" false =>
      allow ["declare", "const", "export"]
      let _ ← typedDeclaration f false
    | .ident "import" false =>
      next
      importEquals f
      allow ["declare", "export"]
    | _ =>
      allow ["declare", "export"]
      if !(← typedDeclaration f false) then unexpected
termination_by structural fuel

/-- Reads enum members up to `}`. A member's name is an identifier or a string; a computed
name may only be a string or a template without substitutions, and no name is a number. -/
def enumMembers (fuel : Nat) (first : Bool) : P Unit :=
  match fuel with
  | 0 => tooDeep
  | f + 1 => do
    if ← eat "\x7d" then return
    if !first then
      expectSeparator "\x7d"
      if ← eat "\x7d" then return
    let t ← tok
    match t.kind with
    | .punct "[" =>
      next
      let e ← tok
      let _ ← withCtx (fun c => { c with allowIn := true }) (assignment f true)
      let whole := (← get).prevEnd == e.stop
      match e.kind with
      | .string _ | .template _ true => if !whole then report ⟨computedEnumName, e.start⟩
      | .number _ => report ⟨if whole then numericEnumName else computedEnumName, e.start⟩
      | _ => report ⟨computedEnumName, e.start⟩
      expect "]"
    | .number _ =>
      report ⟨numericEnumName, t.start⟩
      next
    | _ => let _ ← propertyKey f
    if ← eat "=" then
      let _ ← withCtx (fun c => { c with allowIn := true }) (assignment f true)
    enumMembers f false
termination_by structural fuel

/-- Reads the directive prologue of a program and then its statements: the end of the last
directive, if there is one. -/
def program (fuel : Nat) (last : Option Nat) : P (Option Nat) :=
  match fuel with
  | 0 => tooDeep
  | f + 1 => do
    let t ← tok
    match t.kind with
    | .string _ =>
      let r ← statement f false
      let stop := (← get).prevEnd
      let directive := match r with
        | some e => (match e.form with | .string _ => true | _ => false) && e.start == t.start
        | none => false
      if directive then return ← program f (some stop)
      statementList f true
      return last
    | _ =>
      statementList f true
      return last
termination_by structural fuel

end

end P

end JsxVNode.Source
