import JsxVNode.Source.Parser.Grammar
import JsxVNode.Error
/-!
Reading a source file: the dialect its name selects, the markup sites in source order, the names
its imports bind, and where module-level declarations may be inserted (after a `#!` line and the
directive prologue). The first diagnostic, if any, becomes a syntax error; reader errors come
before grammar errors, and a failure that stopped reading comes last.
-/
namespace JsxVNode.Source

/-- The pieces of a text between the occurrences of a character, by character, so that reading
a path's name can be evaluated. -/
def splitOnChar (s : String) (c : Char) : List String := (s.toList.splitOn c).map String.ofList

/-- The last component of a slash-separated path: none for a path that ends in `..` or has no
named component. Empty and `.` components are skipped. -/
def fileName (path : String) : Option String :=
  match ((splitOnChar path '/').filter fun p => p != "" && p != ".").getLast? with
  | some ".." | none => none
  | some name => some name

/-- The extension of a file name: what follows its last dot, unless the dot is its first
character. -/
def extension (name : String) : Option String :=
  match (splitOnChar name '.').reverse with
  | [_] | [] => none
  | ext :: before => if ".".intercalate before.reverse == "" then none else some ext

/-- Whether a `.ts` file name is a definition file: one of the last two dotted parts of the name
without `.ts` is `d`. -/
def isDefinitionName (name : String) : Bool :=
  let stem := String.ofList (name.toList.take (name.length - 3))
  ((splitOnChar stem '.').reverse.take 2).contains "d"

/-- The dialect a path selects by its extension. Only `.mjs` and `.mts` files are modules for
certain; `.js`, `.jsx`, `.ts` and `.tsx` files may be either, and are read as scripts whose uses
of `await` as an operator are excused if the source has module syntax. Unknown extensions read
as modules with markup. -/
def Dialect.ofPath (path : String) : Dialect :=
  let plain : Dialect := { typed := false, markup := true, module := true, commonJs := false }
  let typed : Dialect := { typed := true, markup := false, module := true, commonJs := false }
  match fileName path with
  | none => plain
  | some name =>
    let dotD (n : Nat) := (String.ofList (name.toList.take (name.length - n))).endsWith ".d"
    match extension name with
    | some "js" | some "jsx" => { plain with module := false }
    | some "mjs" => plain
    | some "cjs" => { plain with module := false, commonJs := true }
    | some "ts" => { typed with module := false, definition := isDefinitionName name }
    | some "mts" => { typed with definition := dotD 4 }
    | some "cts" => { typed with module := false, commonJs := true, definition := dotD 4 }
    | some "tsx" => { typed with module := false, markup := true }
    | _ => plain

/-- What reading a source gives the compiler. -/
structure Parsed where
  sites : List Site
  imports : List String
  declarationOffset : Nat

/-- The names exported again, in the order met, each with where it was exported before: a
later export of a name takes the place of the one it repeats. -/
def repeatedExports : List (String × Nat) → List (String × Nat) → List (String × Nat)
  | [], _ => []
  | (n, o) :: rest, seen =>
    match seen.lookup n with
    | some before => (n, before) :: repeatedExports rest ((n, o) :: seen)
    | none => repeatedExports rest ((n, o) :: seen)

def multipleDefaults : String := "A module cannot have multiple default exports."

/-- The errors of a module's exports, after all others: every name exported twice, reported at
the earlier export; every default export but the last when there are several; and the last
default export when a namespace is also re-exported as `default`. Typed sources are not
checked. -/
def exportErrors (c : Cursor) : List Diag :=
  if c.dialect.typed then []
  else
    let named := (repeatedExports c.exported.toList []).map fun (n, o) =>
      (⟨"Duplicated export '" ++ n ++ "'", o⟩ : Diag)
    let defaults := c.defaultExports.toList.dropLast.map fun o => (⟨multipleDefaults, o⟩ : Diag)
    let mixed : List Diag := match c.defaultExports.back?, c.exported.toList.lookup "default" with
      | some d, some _ => [⟨multipleDefaults, d⟩]
      | _, _ => []
    named ++ defaults ++ mixed

/-- Where the first comment starts when it marks the source as Flow (it holds `@flow`), which
only untyped sources are checked for. -/
def flowComment (c : Cursor) : Option Nat :=
  match c.firstComment with
  | some s =>
    let stop := if c.src[s + 1]? == some '/' then lineEnd c.src (s + 2)
      else ((blockEnd c.src (s + 2) false).map (·.1)).getD c.src.size
    if !c.dialect.typed && ((c.src.slice s stop).splitOn "@flow").length > 1 then some s else none
  | none => none

/-- The reports of `await` outside async functions in a source that may be a script or a
module, which stand only once reading is over: a source with module syntax is a module, where
`await` is an operator at the top level, so they are withdrawn; otherwise they come after
every other error. -/
def awaitErrors (c : Cursor) : Array Diag :=
  if c.moduleSyntax then #[] else c.awaitErrors

/-- The diagnostic reported for a reading: the first reader error, else the first grammar
error, else the failure that stopped reading, else the first report of `await` outside async
functions, else the first error of the exports. A source that fails to read and whose first
comment marks it as Flow is reported as such instead. -/
def firstDiagnostic (c : Cursor) (stop : Option Diag) : Option Diag :=
  match c.lexErrors[0]? <|> c.errors[0]? <|> stop, flowComment c with
  | some _, some s => some ⟨"Flow is not supported", s⟩
  | some d, none => some d
  | none, _ => (awaitErrors c)[0]? <|> (exportErrors c).head?

/-- Reads a whole source in a dialect, from the offset after any `#!` line; the result is
where the module-level declarations go, with the cursor at the end. -/
def readProgram (src : Src) (d : Dialect) (start : Nat) : EStateM.Result Diag Cursor (Option Nat) :=
  let ctx : Ctx := { awaits := d.module, ambient := d.definition }
  let init : Cursor :=
    { src, lines := lineStarts src, dialect := d, tok := ⟨.eof, start, start, false⟩, prevEnd := 0,
      ctx }
  let reading : P (Option Nat) := do
    P.next
    let last ← P.program (32 * (src.size + 2)) none
    P.checkDefaults
    pure last
  reading.run init

def finalCursor : EStateM.Result Diag Cursor (Option Nat) → Cursor
  | .ok _ c => c
  | .error _ c => c

/-- Reads a source file. A source that may be a script or a module is read as a script; if it
has module syntax and read `await` as a name, it is read again as a module, where that
`await` is an operator. -/
def parse (source : String) (path : String) : Except CompileError Parsed :=
  let chars := source.toList
  let src : Src := chars.toArray
  let d := Dialect.ofPath path
  let hashbang := if src.startsWith 0 "#!" then some (lineEnd src 2) else none
  let start := hashbang.getD 0
  let first := readProgram src d start
  let c := finalCursor first
  let result :=
    if !d.module && !d.commonJs && c.moduleSyntax && c.awaitAsName then
      readProgram src { d with module := true } start
    else first
  let fault (diag : Diag) : CompileError :=
    { fault := .unparsable diag.message, file := path, loc := Location.ofOffset chars diag.offset }
  match result with
  | .ok last c =>
    match firstDiagnostic c none with
    | some diag => .error (fault diag)
    | none =>
      .ok { sites := sortSites c.sites, imports := c.imports.toList
            declarationOffset := last.getD start }
  | .error stop c => .error (fault ((firstDiagnostic c (some stop)).getD stop))

end JsxVNode.Source
