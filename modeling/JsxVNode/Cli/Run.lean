import JsxVNode.Transform
import JsxVNode.Cache.Entry
import JsxVNode.Cli.Arguments
import JsxVNode.Cli.Sources
/-!
A run of `vnodec` over a file system. The command line is read, the options are loaded (from a
configuration file if one is named, then changed by the options of the command line), and the
sources are found. Each source is compiled, unless the cache holds an entry made from the same
source and options, and its output is written. Each file then gets a line in the log (or an
entry in a JSON report), and the run fails when a file failed.

Log lines name their level and the program; lines after the first of a message are indented by
four blanks. A failure of the run is written as `Error:` and its message, followed by the chain
of its causes.
-/
namespace JsxVNode.Cli

/-- What a run leaves besides its files: its exit status and the texts of its two streams. -/
structure Outcome where
  status : Nat
  stdout : String := ""
  stderr : String := ""
deriving DecidableEq, Repr

/-- An error of the run: what was being done, and the chain of causes below it. -/
structure Failure where
  message : String
  causes : List String := []
deriving DecidableEq, Repr

namespace Failure

def brief (f : Failure) : String := ": ".intercalate (f.message :: f.causes)

/-- The error as the run's last words: the message, then its causes on lines of their own,
numbered when there are several. -/
def report (f : Failure) : String :=
  "Error: " ++ f.message ++
    (match f.causes with
      | [] => ""
      | [c] => "\n\nCaused by:\n    " ++ c
      | cs => "\n\nCaused by:" ++ String.join (cs.zipIdx.map fun (c, i) =>
          "\n    " ++ toString i ++ ": " ++ c)) ++ "\n"

end Failure

def logLine (level : String) (message : String) : String :=
  "[" ++ level ++ String.ofList (List.replicate (5 - level.length) ' ') ++ " " ++ programName ++
    "] " ++ "\n    ".intercalate (message.splitOn "\n") ++ "\n"

/-- What is reported of one compiled file. -/
structure FileReport where
  input : String
  output : String
  cached : Bool
  sites : Nat
  blueprints : Nat
deriving DecidableEq, Repr

def FileReport.toJson (r : FileReport) : Json :=
  .obj [("input", .str r.input), ("output", .str r.output), ("cached", .bool r.cached),
    ("sites", Json.nat r.sites), ("blueprints", Json.nat r.blueprints)]

/-- The options of a run: those of the configuration file, or the defaults, changed by the
command line. -/
def Invocation.adjust (inv : Invocation) (base : Options) : Options :=
  let o := match inv.pragma with
    | some p => { base with pragma := some p }
    | none => base
  let o := if inv.noImports then { o with imports := .enabled false } else o
  let o := match inv.importSource with
    | some m => { o with imports := .module m }
    | none => o
  { o with
    defineAllArguments := o.defineAllArguments || inv.defineAllArguments
    optimizeStaticVNodes := o.optimizeStaticVNodes || inv.optimizeStatic }

variable {m : Type → Type} [Monad m] [FileSystem m]

def loadOptions (inv : Invocation) : m (Except Failure Options) := do
  match inv.config with
  | none => return .ok (inv.adjust {})
  | some path =>
    match ← FileSystem.readFile path with
    | .error e => return .error ⟨"failed to read " ++ path, [e.message]⟩
    | .ok raw =>
      match Options.fromJsonText raw with
      | .error e => return .error ⟨"invalid options in " ++ path, [e.render]⟩
      | .ok o => return .ok (inv.adjust o)

def cachePath (input : String) : String := Path.join Cache.directory (Cache.entryName input)

/-- The cache entry for a source, if one is stored for the same source and options. A stored
entry that cannot be read is removed. -/
def cacheGet (input source : String) (options : Options) : m (Option Cache.Entry) := do
  match ← FileSystem.readFile (cachePath input) with
  | .error _ => return none
  | .ok text =>
    match Cache.Entry.parse? text with
    | none =>
      let _ ← FileSystem.removeFile (cachePath input)
      return none
    | some e => return if e.hash == Cache.hash source options then some e else none

def cacheSet (input source : String) (options : Options) (out : TransformOutput) : m Unit := do
  let entry : Cache.Entry :=
    { hash := Cache.hash source options, code := out.code, sites := out.sites,
      blueprints := out.blueprints.length }
  let _ ← FileSystem.writeFile (cachePath input) entry.render

def compileFile (file : SourceFile) (outDir : Option String) (options : Options)
    (useCache : Bool) : m (Except Failure FileReport) := do
  let input := file.path
  match ← FileSystem.readFile input with
  | .error e => return .error ⟨"failed to read " ++ input, [e.message]⟩
  | .ok source =>
    let outPath := Sources.outputPath file outDir
    let hit ← if useCache then cacheGet input source options else pure none
    let compiled ← match hit with
      | some e => pure (Except.ok (e.code, true, e.sites, e.blueprints))
      | none =>
        match transform source input options with
        | .error ce => pure (.error (Failure.mk ce.render []))
        | .ok out => do
          if useCache then cacheSet input source options out
          pure (.ok (out.code, false, out.sites, out.blueprints.length))
    match compiled with
    | .error f => return .error f
    | .ok (code, cached, sites, blueprints) =>
      let made ← match Path.parent? outPath with
        | some dir =>
          if dir.isEmpty then pure (Except.ok ())
          else do
            match ← FileSystem.createDirAll dir with
            | .ok () => pure (.ok ())
            | .error e => pure (.error (Failure.mk ("failed to create " ++ dir) [e.message]))
        | none => pure (.ok ())
      match made with
      | .error f => return .error f
      | .ok () =>
        match ← FileSystem.writeFile outPath code with
        | .error e => return .error ⟨"failed to write " ++ outPath, [e.message]⟩
        | .ok () => return .ok { input, output := outPath, cached, sites, blueprints }

def walkDepth : Nat := 4096

def compile (inv : Invocation) : m Outcome := do
  match ← loadOptions inv with
  | .error f => return { status := 1, stderr := f.report }
  | .ok options =>
    let files ← Sources.find inv.paths walkDepth
    if files.isEmpty then
      return { status := 1, stderr := (Failure.mk "no .jsx or .tsx files found" []).report }
    let useCache := !inv.noCache
    if useCache then
      if (← FileSystem.kind? Cache.directory).isNone then
        let _ ← FileSystem.createDirAll Cache.directory
    let results ← files.mapM fun file => do
      return (file.path, ← compileFile file inv.outDir options useCache)
    let log := String.join (results.map fun (name, result) =>
      match result with
      | .ok r =>
        if inv.json then ""
        else logLine "INFO" (r.input ++ " -> " ++ r.output ++ if r.cached then " (cached)" else "")
      | .error f => logLine "ERROR" (name ++ ": " ++ f.brief))
    let reports := results.filterMap fun (_, result) => match result with
      | .ok r => some r
      | .error _ => none
    let stdout := if inv.json then (Json.arr (reports.map FileReport.toJson)).pretty 0 ++ "\n" else ""
    let failures := results.length - reports.length
    if failures > 0 then
      let last := Failure.mk (toString failures ++ " of " ++ toString files.length ++
        " file(s) failed to compile") []
      return { status := 1, stdout, stderr := log ++ last.report }
    return { status := 0, stdout, stderr := log }

def run (args : List String) : m Outcome :=
  match parse args with
  | .help => pure { status := 0, stdout := helpText }
  | .mistake message => pure { status := 2, stderr := message }
  | .compile inv => compile inv

end JsxVNode.Cli
