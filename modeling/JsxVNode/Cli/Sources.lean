import JsxVNode.Files.System
/-!
Which files are compiled and where their output goes. A path named on the command line that is
a file is taken as it is; a directory is walked, entries in order of name, skipping directories
below it whose name starts with a dot or is `node_modules` or `target`, and taking the files
with extension `jsx` or `tsx`. The files found are put in order of path and each is taken once.
An output has the extension `ts` for a `tsx` source and `js` otherwise; it stands next to its
source, or below an output directory at the place the source has below the path it was found
under.
-/
namespace JsxVNode

/-- A file to compile, with the path it was found under. -/
structure SourceFile where
  path : String
  root : String
deriving DecidableEq, Repr

namespace Sources

def extensions : List String := ["jsx", "tsx"]

def skippedNames : List String := ["node_modules", "target"]

def isSourceFile (p : String) : Bool :=
  match Path.extension? p with
  | some ext => extensions.contains ext
  | none => false

def outputExtension (p : String) : String :=
  if Path.extension? p == some "tsx" then "ts" else "js"

/-- Where the output of a source goes: next to it, or below `outDir` at the place the source
has below its root (or, when it is not below its root, by its file name alone). -/
def outputPath (file : SourceFile) (outDir : Option String) : String :=
  let renamed := Path.withExtension file.path (outputExtension file.path)
  match outDir with
  | none => renamed
  | some dir =>
    let relative := match Path.stripPrefix? renamed file.root with
      | some rest => rest
      | none => (Path.fileName? renamed).getD ""
    Path.join dir relative

def isSkippedName (name : String) : Bool := name.startsWith "." || skippedNames.contains name

variable {m : Type → Type} [Monad m] [FileSystem m]

/-- The source files below a directory, entries in order of name, directories before what
follows them; `fuel` bounds the depth. -/
def walk : Nat → String → m (List String)
  | 0, _ => pure []
  | fuel + 1, dir => do
    match ← FileSystem.readDir dir with
    | .error _ => return []
    | .ok entries =>
      let sorted := entries.mergeSort fun a b => decide (a.1 ≤ b.1)
      let mut found := []
      for (name, kind) in sorted do
        let p := Path.join dir name
        match kind with
        | .directory =>
          if !isSkippedName name then found := found ++ (← walk fuel p)
        | .file => if isSourceFile p then found := found ++ [p]
      return found

def find (paths : List String) (depth : Nat) : m (List SourceFile) := do
  let mut files : List SourceFile := []
  for input in paths do
    if ← FileSystem.isFile input then
      files := files ++ [⟨input, (Path.parent? input).getD ""⟩]
    else if ← FileSystem.isDir input then
      files := files ++ (← walk depth input).map fun p => ⟨p, input⟩
  let sorted := files.mergeSort fun a b => Path.compare a.path b.path != .gt
  return dedup sorted
where
  dedup : List SourceFile → List SourceFile
    | a :: b :: rest => if Path.same a.path b.path then dedup (a :: rest) else a :: dedup (b :: rest)
    | l => l

end Sources

end JsxVNode
