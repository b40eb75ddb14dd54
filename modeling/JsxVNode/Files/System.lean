import JsxVNode.Files.Path
/-!
What the compiler needs of a file system, as a class over the monad it runs in. One instance
keeps a directory tree in memory; another calls the operating system. The errors are those of
the operating system, each with the text and number that Linux gives it. Making a directory
with all its missing parents is built on the class: it makes the directory, and when a parent is
missing makes the parents first and tries again.
-/
namespace JsxVNode

/-- An error of a file operation. -/
inductive OsError where
  | notFound
  | alreadyExists
  | notDirectory
  | isDirectory
  | other (code : Nat) (text : String)
  | custom (text : String)
deriving DecidableEq, Repr

namespace OsError

def message : OsError → String
  | notFound => "No such file or directory (os error 2)"
  | alreadyExists => "File exists (os error 17)"
  | notDirectory => "Not a directory (os error 20)"
  | isDirectory => "Is a directory (os error 21)"
  | other code text => text ++ " (os error " ++ toString code ++ ")"
  | custom text => text

end OsError

/-- What a path names. -/
inductive FileKind where
  | file
  | directory
deriving DecidableEq, Repr

/-- The operations of a file system. Paths are texts, relative to the working directory unless
they begin at the root. -/
class FileSystem (m : Type → Type) where
  kind? : String → m (Option FileKind)
  readFile : String → m (Except OsError String)
  readDir : String → m (Except OsError (List (String × FileKind)))
  createDir : String → m (Except OsError Unit)
  writeFile : String → String → m (Except OsError Unit)
  removeFile : String → m (Except OsError Unit)

namespace FileSystem

variable {m : Type → Type} [Monad m] [FileSystem m]

def isFile (p : String) : m Bool := do return (← kind? p) == some .file

def isDir (p : String) : m Bool := do return (← kind? p) == some .directory

/-- Makes a directory and its missing parents. A directory that already exists is no error;
anything else that stands in the way is. -/
def createDirAll (p : String) : m (Except OsError Unit) :=
  go (p.length + 1) p
where
  go : Nat → String → m (Except OsError Unit)
    | 0, _ => pure (.error (.custom "failed to create whole tree"))
    | n + 1, p => do
      if p.isEmpty then return .ok ()
      match ← createDir p with
      | .ok () => return .ok ()
      | .error .notFound => pure ()
      | .error e => return if ← isDir p then .ok () else .error e
      match Path.parent? p with
      | some q =>
        match ← go n q with
        | .error e => return .error e
        | .ok () =>
          match ← createDir p with
          | .ok () => return .ok ()
          | .error e => return if ← isDir p then .ok () else .error e
      | none => return .error (.custom "failed to create whole tree")

end FileSystem

end JsxVNode
