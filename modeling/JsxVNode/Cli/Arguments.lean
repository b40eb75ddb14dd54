/-!
The command line of `vnodec`: one or more paths, and options. Arguments are read from left to
right. An option that takes a value takes the rest of its argument after `=` (or, for a short
option, after its letter), or else the next argument unless that one looks like an option. The
values of an argument are checked when the next option is met or the line ends: a path or a
directory must not be empty, and an option may be given once. After all arguments, options that
exclude each other are checked, then that some path is given.

Mistakes are answered with the messages of the usual argument reader: the fault, tips, a usage
line that repeats the options given so far, and a pointer to `--help`. For an unknown long option
the most similar known one is suggested, by the Jaro similarity of the names.
-/
namespace JsxVNode.Cli

/-- The options of the command line, in the order they are declared and listed. -/
inductive Flag where
  | outDir
  | config
  | pragma
  | noImports
  | importSource
  | defineAllArguments
  | optimizeStatic
  | noCache
  | json
  | help
deriving DecidableEq, Repr

namespace Flag

def all : List Flag :=
  [outDir, config, pragma, noImports, importSource, defineAllArguments, optimizeStatic, noCache,
    json, help]

def long : Flag → String
  | outDir => "out-dir"
  | config => "config"
  | pragma => "pragma"
  | noImports => "no-imports"
  | importSource => "import-source"
  | defineAllArguments => "define-all-arguments"
  | optimizeStatic => "optimize-static"
  | noCache => "no-cache"
  | json => "json"
  | help => "help"

def short? : Flag → Option Char
  | outDir => some 'o'
  | config => some 'c'
  | help => some 'h'
  | _ => none

def valueName? : Flag → Option String
  | outDir => some "OUT_DIR"
  | config => some "CONFIG"
  | pragma => some "PRAGMA"
  | importSource => some "IMPORT_SOURCE"
  | _ => none

def takesPath : Flag → Bool
  | outDir | config => true
  | _ => false

def helpText : Flag → String
  | outDir => "Write outputs under this directory instead of next to the sources"
  | config => "JSON file with compile options"
  | pragma => "Callee for element construction"
  | noImports => "Read helpers from the global `Inferno` object instead of importing them"
  | importSource => "Module the helpers are imported from"
  | defineAllArguments => "Write out every positional argument"
  | optimizeStatic => "Cache static subtrees inside functions in module-scope slots"
  | noCache => "Ignore and do not update the incremental cache"
  | json => "Print a JSON report instead of log lines"
  | help => "Print help"

def spec (f : Flag) : String :=
  "--" ++ f.long ++ match f.valueName? with
    | some v => " <" ++ v ++ ">"
    | none => ""

def excludes : Flag → List Flag
  | importSource => [noImports]
  | _ => []

def conflicts (a b : Flag) : Bool := a.excludes.contains b || b.excludes.contains a

def ofLong? (name : String) : Option Flag := all.find? (·.long == name)

def ofShort? (c : Char) : Option Flag := all.find? (·.short? == some c)

end Flag

/-- An argument of the command line: the paths, or an option. -/
inductive Arg where
  | paths
  | flag (f : Flag)
deriving DecidableEq, Repr

def Arg.spec : Arg → String
  | .paths => "<PATHS>..."
  | .flag f => f.spec

def programName : String := "vnodec"

def about : String := "Compile JSX into VNode construction calls"

def pathsHelp : String := "Files or directories to compile"

/-- The usage line for a mistake: the options given (or `[OPTIONS]` when none is), then the
paths. -/
def usage (given : List Arg) : String :=
  let options := given.filterMap fun | .flag f => some f | .paths => none
  let options := options.foldl (fun acc f => if acc.contains f then acc else acc ++ [f]) []
  if given.isEmpty then programName ++ " [OPTIONS] <PATHS>..."
  else " ".intercalate (programName :: options.map Flag.spec ++ [Arg.paths.spec])

/-- A message for a mistake on the command line: the fault, tips, the usage line if any, and a
pointer to the help. -/
def mistake (fault : String) (tips : List String) (usageOf : Option (List Arg)) : String :=
  "error: " ++ fault ++ (if tips.isEmpty then "" else "\n") ++
    String.join (tips.map ("\n  tip: " ++ ·)) ++
    (match usageOf with
      | some given => "\n\nUsage: " ++ usage given
      | none => "") ++
    "\n\nFor more information, try '--help'.\n"

/-- What the command line asks for. -/
structure Invocation where
  paths : List String
  outDir : Option String := none
  config : Option String := none
  pragma : Option String := none
  noImports : Bool := false
  importSource : Option String := none
  defineAllArguments : Bool := false
  optimizeStatic : Bool := false
  noCache : Bool := false
  json : Bool := false
deriving DecidableEq, Repr

/-- The outcome of reading a command line. -/
inductive Request where
  | compile (invocation : Invocation)
  | help
  | mistake (message : String)
deriving DecidableEq, Repr

/-- The arguments read so far, each with its values, in the order they were first met; the
argument whose values are being gathered; and whether `--` has ended the options. -/
structure Reading where
  given : List (Arg × List String) := []
  pending : Option (Arg × List String) := none
  trailing : Bool := false

namespace Reading

def args (r : Reading) : List Arg := r.given.map (·.1)

def valuesOf (r : Reading) (a : Arg) : Option (List String) := (r.given.find? (·.1 == a)).map (·.2)

def emptyValue (a : Arg) : Request :=
  .mistake (mistake ("a value is required for '" ++ a.spec ++ "' but none was supplied") [] none)

def accept (r : Reading) (a : Arg) (values : List String) : Except Request Reading :=
  match a with
  | .paths =>
    if values.contains "" then .error (emptyValue a)
    else
      match r.valuesOf a with
      | some old => .ok { r with given := r.given.map fun (b, vs) => if b == a then (b, old ++ values) else (b, vs) }
      | none => .ok { r with given := r.given ++ [(a, values)] }
  | .flag .help => .error .help
  | .flag f =>
    if f.valueName?.isSome && values.isEmpty then .error (emptyValue a)
    else if (r.valuesOf a).isSome then
      .error (.mistake (mistake ("the argument '" ++ a.spec ++ "' cannot be used multiple times") []
        (some [])))
    else if f.takesPath && values.contains "" then .error (emptyValue a)
    else .ok { r with given := r.given ++ [(a, values)] }

def settle (r : Reading) : Except Request Reading :=
  match r.pending with
  | none => .ok r
  | some (a, values) => { r with pending := none }.accept a values

/-- Settles the pending argument if that works, and otherwise drops it, as done before reporting
another mistake. -/
def settleQuietly (r : Reading) : Reading :=
  match r.settle with
  | .ok r' => r'
  | .error _ => { r with pending := none }

def react (r : Reading) (a : Arg) (values : List String) : Except Request Reading := do
  let r ← r.settle
  r.accept a values

def expect (r : Reading) (f : Flag) : Except Request Reading := do
  let r ← r.settle
  return { r with pending := some (.flag f, []) }

def awaitsValue (r : Reading) : Bool :=
  match r.pending with
  | some (.flag _, []) => true
  | _ => false

/-- Adds a path, or the value of the option that waits for one. After `--` every argument is
a path. -/
def value (r : Reading) (v : String) : Except Request Reading :=
  if r.awaitsValue && !r.trailing then
    .ok { r with pending := r.pending.map fun (a, vs) => (a, vs ++ [v]) }
  else
    match r.pending with
    | some (.paths, vs) => .ok { r with pending := some (.paths, vs ++ [v]) }
    | _ => do
      let r ← r.settle
      return { r with pending := some (.paths, [v]) }

end Reading

/-- The Jaro similarity of two names: the share of characters that match within a window,
discounted by half the matched characters that stand in a different order. -/
def jaro (a b : List Char) : Float :=
  if a.isEmpty && b.isEmpty then 1.0
  else if a.isEmpty || b.isEmpty then 0.0
  else
    let window := max a.length b.length / 2 - 1
    let (used, fromA) := a.zipIdx.foldl (fun (acc : List Bool × List Char) (c, i) =>
      let (used, hits) := acc
      let hi := min b.length (i + window + 1)
      let lo := i - window
      match (List.range' lo (hi - lo)).find? (fun j => b[j]? == some c && used[j]? == some false) with
      | some j => (used.set j true, hits ++ [c])
      | none => (used, hits)) (List.replicate b.length false, [])
    let found := fromA.length
    if found == 0 then 0.0
    else
      let fromB := (b.zip used).filterMap fun (c, u) => if u then some c else none
      let transpositions := ((fromA.zip fromB).filter fun (x, y) => x != y).length / 2
      (found.toFloat / a.length.toFloat + found.toFloat / b.length.toFloat +
        (found - transpositions).toFloat / found.toFloat) / 3.0

/-- The known long option most similar to an unknown one, if any is similar enough; of equally
similar ones the last declared. -/
def suggestion? (name : String) : Option Flag :=
  let scored := Flag.all.filterMap fun f =>
    let s := jaro name.toList f.long.toList
    if s > 0.7 then some (f, s) else none
  scored.foldl (fun best (f, s) =>
    match best with
    | some (_, t) => if s < t then best else some (f, s)
    | none => some (f, s)) none |>.map (·.1)

/-- The mistake of an unknown argument, with a tip: the most similar option when there is one,
which is the likelier intent, or else how to pass the text as a path. -/
def unknownArgument (text : String) (similar : Option Flag) (given : List Arg) : Request :=
  let tips := match similar with
    | some f => ["a similar argument exists: '--" ++ f.long ++ "'"]
    | none => ["to pass '" ++ text ++ "' as a value, use '-- " ++ text ++ "'"]
  .mistake (mistake ("unexpected argument '" ++ text ++ "' found") tips (some given))

def optionsGiven (r : Reading) : List Arg := r.args.filter (· != .paths)

def readLong (r : Reading) (body : String) : Except Request Reading :=
  let (name, attached) := match body.splitOn "=" with
    | [n] => (n, none)
    | n :: rest => (n, some ("=".intercalate rest))
    | [] => (body, none)
  match Flag.ofLong? name with
  | none =>
    let similar := suggestion? name
    let r := r.settleQuietly
    let given := r.args ++ (similar.map Arg.flag).toList.filter (fun a => !r.args.contains a)
    .error (unknownArgument ("--" ++ name) similar given)
  | some f =>
    match f.valueName?, attached with
    | some _, some v => r.react (.flag f) [v]
    | some _, none => r.expect f
    | none, some v =>
      .error (.mistake (mistake ("unexpected value '" ++ v ++ "' for '" ++ f.spec ++
        "' found; no more were expected") [] (some (optionsGiven r ++ [.flag f]))))
    | none, none => r.react (.flag f) []

def readShort (r : Reading) : List Char → Except Request Reading
  | [] => .ok r
  | c :: rest =>
    match Flag.ofShort? c with
    | none =>
      let text := "-" ++ c.toString
      .error (unknownArgument text none [])
    | some f =>
      if f.valueName?.isNone then do
        let r ← r.react (.flag f) []
        readShort r rest
      else
        let attached := match rest with
          | '=' :: v => some (String.ofList v)
          | [] => none
          | v => some (String.ofList v)
        match attached with
        | some v => r.react (.flag f) [v]
        | none => r.expect f

def readArg (r : Reading) (arg : String) : Except Request Reading :=
  if r.trailing then r.value arg
  else if arg == "--" then .ok { r with trailing := true }
  else if arg.startsWith "--" then readLong r (String.ofList (arg.toList.drop 2))
  else if arg.startsWith "-" && arg.length > 1 then readShort r (arg.toList.drop 1)
  else r.value arg

def checkConflicts (r : Reading) : Except Request Unit :=
  let flags := r.args.filterMap fun | .flag f => some f | .paths => none
  match flags.find? (fun f => flags.any (Flag.conflicts f)) with
  | none => .ok ()
  | some f =>
    let others := flags.filter (Flag.conflicts f)
    let rest := r.args.filter fun
      | .flag g => !others.contains g
      | .paths => true
    let fault := match others with
      | [g] => "the argument '" ++ f.spec ++ "' cannot be used with '" ++ g.spec ++ "'"
      | gs => "the argument '" ++ f.spec ++ "' cannot be used with:" ++
          String.join (gs.map ("\n  " ++ ·.spec))
    .error (.mistake (mistake fault [] (some (rest ++ [.paths]))))

def Reading.invocation (r : Reading) : Invocation :=
  let one (f : Flag) : Option String := (r.valuesOf (.flag f)).bind (·.head?)
  let on (f : Flag) : Bool := (r.valuesOf (.flag f)).isSome
  { paths := (r.valuesOf .paths).getD []
    outDir := one .outDir
    config := one .config
    pragma := one .pragma
    noImports := on .noImports
    importSource := one .importSource
    defineAllArguments := on .defineAllArguments
    optimizeStatic := on .optimizeStatic
    noCache := on .noCache
    json := on .json }

def parse (args : List String) : Request :=
  let read := args.foldlM readArg ({} : Reading)
  match read with
  | .error req => req
  | .ok r =>
    match r.settle with
    | .error req => req
    | .ok r =>
      match checkConflicts r with
      | .error req => req
      | .ok () =>
        if (r.valuesOf .paths).isNone then
          .mistake (mistake ("the following required arguments were not provided:\n  " ++
            Arg.paths.spec) [] (some (r.args ++ [.paths])))
        else .compile r.invocation

def padRight (s : String) (width : Nat) : String :=
  s ++ String.ofList (List.replicate (width - s.length) ' ')

/-- A section of the help: a heading and its entries (how the entry is written, its help). When
some help would not fit beside its entry in a line of 100 characters, and the entries take more
than two fifths of it, every help goes on the line below its entry. -/
def helpSection (heading : String) (entries : List (String × String)) (indent : Nat) : String :=
  let longest := entries.foldl (fun n e => max n e.1.length) 2
  let taken := longest + indent
  let below := entries.any fun e => 100 ≥ taken && taken * 10 > 400 && e.2.length > 100 - taken
  heading ++ ":\n" ++ "\n".intercalate (entries.map fun (entry, help) =>
    if below then "  " ++ entry ++ "\n          " ++ help
    else "  " ++ padRight entry (longest + 2) ++ help)

/-- How an option is listed in the help: its letter (or room for one), then its long name and
value. -/
def Flag.listed (f : Flag) : String :=
  (match f.short? with
    | some c => "-" ++ c.toString ++ ", "
    | none => "    ") ++ f.spec

def helpText : String :=
  about ++ "\n\nUsage: " ++ usage [] ++ "\n\n" ++
    helpSection "Arguments" [(Arg.paths.spec, pathsHelp)] 4 ++ "\n\n" ++
    helpSection "Options" (Flag.all.map fun f => (f.listed, f.helpText)) 4 ++ "\n"

end JsxVNode.Cli
