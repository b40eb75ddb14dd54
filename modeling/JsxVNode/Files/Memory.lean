import JsxVNode.Files.System
/-!
A file system held in memory: the files and directories below a working directory, each by
the list of names that leads to it. Paths are resolved as Linux resolves them: every part but
the last must be a directory (else the error says what is missing or in the way), `..` goes up,
and a path that ends in a separator must name a directory. Nothing above the working
directory can be reached.
-/
namespace JsxVNode

/-- What a name in a workspace holds: a file with its text, or a directory. -/
inductive Workspace.Content where
  | file (text : String)
  | directory
deriving DecidableEq, Repr

/-- The files and directories below a working directory, each by its names. A directory holds
the entries whose names extend its own by one. -/
structure Workspace where
  nodes : List (List String × Workspace.Content) := []
deriving Repr

namespace Workspace

def node? (w : Workspace) (names : List String) : Option Content :=
  if names.isEmpty then some .directory
  else (w.nodes.find? (·.1 == names)).map (·.2)

/-- A path resolved to the names of its last part, and whether it must be a directory. -/
structure Target where
  names : List String
  mustBeDirectory : Bool

def endsAsDirectory (p : String) : Bool :=
  p.endsWith "/" || p == "." || p == ".." || p.endsWith "/." || p.endsWith "/.."

/-- Resolves components from a directory: each but the last must be a directory; the last
may name anything or nothing. -/
def walk (w : Workspace) : List String → List Path.Component → Except OsError (List String)
  | dir, [] => .ok dir
  | dir, c :: rest =>
    let next : Except OsError (List String) :=
      match c with
      | .root => .error .notFound
      | .current => .ok dir
      | .parent => if dir.isEmpty then .error .notFound else .ok dir.dropLast
      | .normal n => .ok (dir ++ [n])
    match next with
    | .error e => .error e
    | .ok names =>
      if rest.isEmpty then .ok names
      else
        match w.node? names with
        | some .directory => walk w names rest
        | some (.file _) => .error .notDirectory
        | none => .error .notFound

def resolve (w : Workspace) (p : String) : Except OsError Target :=
  if p.isEmpty then .error .notFound
  else
    match w.walk [] (Path.components p) with
    | .ok names => .ok ⟨names, endsAsDirectory p⟩
    | .error e => .error e

def kind? (w : Workspace) (p : String) : Option FileKind :=
  match w.resolve p with
  | .ok t =>
    match w.node? t.names with
    | some .directory => some .directory
    | some (.file _) => if t.mustBeDirectory then none else some .file
    | none => none
  | .error _ => none

def readFile (w : Workspace) (p : String) : Except OsError String := do
  let t ← w.resolve p
  match w.node? t.names with
  | some (.file text) => if t.mustBeDirectory then throw .notDirectory else pure text
  | some .directory => throw .isDirectory
  | none => throw .notFound

def readDir (w : Workspace) (p : String) : Except OsError (List (String × FileKind)) := do
  let t ← w.resolve p
  match w.node? t.names with
  | some .directory =>
    pure (w.nodes.filterMap fun (names, node) =>
      if names.dropLast == t.names && names.length == t.names.length + 1 then
        names.getLast?.map fun n => (n, match node with | .file _ => .file | .directory => .directory)
      else none)
  | some (.file _) => throw .notDirectory
  | none => throw .notFound

def put (w : Workspace) (names : List String) (node : Content) : Workspace :=
  { nodes := w.nodes.filter (·.1 != names) ++ [(names, node)] }

def createDir (w : Workspace) (p : String) : Except OsError Workspace := do
  let t ← w.resolve p
  match w.node? t.names with
  | some _ => throw .alreadyExists
  | none => pure (w.put t.names .directory)

def writeFile (w : Workspace) (p : String) (text : String) : Except OsError Workspace := do
  let t ← w.resolve p
  match w.node? t.names with
  | some .directory => throw .isDirectory
  | some (.file _) => if t.mustBeDirectory then throw .notDirectory else pure (w.put t.names (.file text))
  | none => if t.mustBeDirectory then throw .isDirectory else pure (w.put t.names (.file text))

def removeFile (w : Workspace) (p : String) : Except OsError Workspace := do
  let t ← w.resolve p
  match w.node? t.names with
  | some (.file _) =>
    if t.mustBeDirectory then throw .notDirectory
    else pure { nodes := w.nodes.filter (·.1 != t.names) }
  | some .directory => throw .isDirectory
  | none => throw .notFound

def files (w : Workspace) : List (String × String) :=
  let all := w.nodes.filterMap fun (names, node) =>
    match node with
    | .file text => some ("/".intercalate names, text)
    | .directory => none
  all.mergeSort fun a b => decide (a.1 ≤ b.1)

def change (f : Workspace → Except OsError Workspace) : StateM Workspace (Except OsError Unit) :=
  modifyGet fun w =>
    match f w with
    | .ok w' => (.ok (), w')
    | .error e => (.error e, w)

instance : FileSystem (StateM Workspace) where
  kind? p := do return (← get).kind? p
  readFile p := do return (← get).readFile p
  readDir p := do return (← get).readDir p
  createDir p := change (·.createDir p)
  writeFile p text := change (·.writeFile p text)
  removeFile p := change (·.removeFile p)

end Workspace

end JsxVNode
