/-!
Paths as texts with `/` between their parts. A path may begin at the root (`/`) or at the
current directory (`./`, or `.` alone); the rest is a list of segments, of which empty ones and
`.` name nothing. Comparison, equality and prefixes go by components; the operations that give
a new path (`parent`, `withExtension`, `stripPrefix`, `join`) keep the text of the parts they do
not touch.
-/
namespace JsxVNode.Path

/-- One part of a path. -/
inductive Component where
  | root
  | current
  | parent
  | normal (name : String)
deriving DecidableEq, Repr

namespace Component

def compare : Component → Component → Ordering
  | .normal a, .normal b => Ord.compare a b
  | a, b =>
    let rank : Component → Nat
      | .root => 0 | .current => 1 | .parent => 2 | .normal _ => 3
    Ord.compare (rank a) (rank b)

def ofSegment (segment : String) : Option Component :=
  if segment == "" || segment == "." then none
  else if segment == ".." then some .parent
  else some (.normal segment)

end Component

def isTrivial (segment : String) : Bool := segment == "" || segment == "."

/-- The component a path begins with before its segments: the root for `/...`, the current
directory for `.` and `./...`. -/
def lead (p : String) : Option Component :=
  match p.toList with
  | '/' :: _ => some .root
  | ['.'] => some .current
  | '.' :: '/' :: _ => some .current
  | _ => none

def leadText (p : String) : String :=
  match lead p with
  | some .root => "/"
  | some .current => "."
  | _ => ""

def segments (p : String) : List String :=
  match lead p with
  | some _ => ((p.toList.drop 1).splitOn '/').map String.ofList
  | none => (p.toList.splitOn '/').map String.ofList

def assemble (leadText : String) (segments : List String) : String :=
  leadText ++ "/".intercalate segments

def components (p : String) : List Component :=
  (lead p).toList ++ (segments p).filterMap Component.ofSegment

def compare (a b : String) : Ordering :=
  let rec go : List Component → List Component → Ordering
    | [], [] => .eq
    | [], _ :: _ => .lt
    | _ :: _, [] => .gt
    | x :: xs, y :: ys =>
      match x.compare y with
      | .eq => go xs ys
      | o => o
  go (components a) (components b)

def same (a b : String) : Bool := components a == components b

def fileName? (p : String) : Option String :=
  match (components p).getLast? with
  | some (.normal n) => some n
  | _ => none

/-- A file name split at its last dot into stem and extension; a name with no dot, or whose
only dot begins it, has no extension. -/
def splitName (name : String) : String × Option String :=
  let rev := name.toList.reverse
  let after := rev.takeWhile (· != '.')
  if after.length == rev.length then (name, none)
  else
    let before := (rev.drop (after.length + 1)).reverse
    if before.isEmpty then (name, none)
    else (String.ofList before, some (String.ofList after.reverse))

def extension? (p : String) : Option String := (fileName? p).bind fun n => (splitName n).2

def trimEnd (segments : List String) : List String :=
  (segments.reverse.dropWhile isTrivial).reverse

def trimBoth (segments : List String) : List String :=
  trimEnd (segments.dropWhile isTrivial)

/-- The path of the directory that holds a path's last component: none for the root and for
the empty path. -/
def parent? (p : String) : Option String :=
  match (trimEnd (segments p)).reverse with
  | last :: before =>
    if (Component.ofSegment last).isSome then
      some (assemble (leadText p) (trimEnd before.reverse))
    else none
  | [] =>
    match lead p with
    | some .current => some ""
    | _ => none

/-- A path with the extension of its file name replaced (or removed when `ext` is empty); the
text after the file name is dropped. A path without a file name is kept. -/
def withExtension (p : String) (ext : String) : String :=
  match (trimEnd (segments p)).reverse with
  | last :: before =>
    match Component.ofSegment last with
    | some (.normal name) =>
      let renamed := (splitName name).1 ++ (if ext.isEmpty then "" else "." ++ ext)
      assemble (leadText p) (before.reverse ++ [renamed])
    | _ => p
  | [] => p

def dropComponents : Nat → List String → List String
  | 0, segments => segments
  | _, [] => []
  | n + 1, s :: rest =>
    if (Component.ofSegment s).isSome then dropComponents n rest
    else dropComponents (n + 1) rest

def stripPrefix? (p base : String) : Option String :=
  let bc := components base
  if bc.isPrefixOf (components p) then
    if bc.isEmpty then some (assemble (leadText p) (trimEnd (segments p)))
    else
      let fromBody := if (lead p).isSome then bc.length - 1 else bc.length
      some ("/".intercalate (trimBoth (dropComponents fromBody (segments p))))
  else none

/-- A path followed by another: an absolute second path replaces the first, and a separator
stands between them unless the first is empty or already ends in one. -/
def join (base rel : String) : String :=
  if rel.toList.head? == some '/' || base.isEmpty then rel
  else if base.toList.getLast? == some '/' then base ++ rel
  else base ++ "/" ++ rel

end JsxVNode.Path
