import JsxVNode.Cli.Run
/-!
The `vnodec` command over the operating system. The file operations of a run are those of the
operating system, their errors are read back by their error numbers, and what the run writes to
its two streams is printed.
-/
namespace JsxVNode

def OsError.ofCode (code : Nat) (text : String) : OsError :=
  match code with
  | 2 => .notFound
  | 17 => .alreadyExists
  | 20 => .notDirectory
  | 21 => .isDirectory
  | _ => .other code text

def OsError.ofIOError : IO.Error → OsError
  | .noFileOrDirectory _ code text => ofCode code.toNat text
  | .alreadyExists _ code text => ofCode code.toNat text
  | .inappropriateType _ code text => ofCode code.toNat text
  | .permissionDenied _ code text => ofCode code.toNat text
  | .invalidArgument _ code text => ofCode code.toNat text
  | .noSuchThing _ code text => ofCode code.toNat text
  | .resourceExhausted _ code text => ofCode code.toNat text
  | .otherError code text => ofCode code.toNat text
  | e => .custom (toString e)

namespace OperatingSystem

def attempt {α : Type} (act : IO α) : IO (Except OsError α) :=
  tryCatch (Except.ok <$> act) fun e => pure (.error (OsError.ofIOError e))

def kind? (p : String) : IO (Option FileKind) := do
  match ← attempt (IO.FS.Handle.mk ⟨p⟩ .read) with
  | .error _ => return none
  | .ok h =>
    match ← attempt (h.read 1) with
    | .ok _ => return some .file
    | .error .isDirectory => return some .directory
    | .error _ => return none

def readDir (p : String) : IO (Except OsError (List (String × FileKind))) := do
  match ← attempt (do (← IO.FS.realPath ⟨p⟩).readDir) with
  | .error e => return .error e
  | .ok entries =>
    let mut found := []
    for e in entries.toList do
      if let some k ← kind? (Path.join p e.fileName) then found := found ++ [(e.fileName, k)]
    return .ok found

instance : FileSystem IO where
  kind? := kind?
  readFile p := attempt (IO.FS.readFile ⟨p⟩)
  readDir := readDir
  createDir p := attempt (IO.FS.createDir ⟨p⟩)
  writeFile p text := attempt (IO.FS.writeFile ⟨p⟩ text)
  removeFile p := attempt (IO.FS.removeFile ⟨p⟩)

end OperatingSystem

end JsxVNode

def main (args : List String) : IO UInt32 := do
  let outcome ← JsxVNode.Cli.run args
  IO.print outcome.stdout
  IO.eprint outcome.stderr
  return outcome.status.toUInt32
