import JsxVNode.Json.Binary64
/-!
JSON values as the compiler reads and writes them. Numbers keep whether they were integers:
an integer that fits in 64 bits stays exact, anything else is a binary64 value. Objects keep their members in the order written, duplicates included; `sorted`
gives the map view, keys in order and the last of equal keys kept.
-/
namespace JsxVNode

/-- A JSON number: an integer within the 64-bit ranges, or a binary64 value. -/
inductive JsonNumber where
  | int (value : Int)
  | float (value : Binary64)
deriving DecidableEq, Repr, Inhabited

/-- A JSON value. -/
inductive Json where
  | null
  | bool (b : Bool)
  | num (n : JsonNumber)
  | str (s : String)
  | arr (items : List Json)
  | obj (fields : List (String × Json))
deriving Repr, Inhabited

namespace Json

def nat (n : Nat) : Json := .num (.int n)

def optStr : Option String → Json
  | some s => .str s
  | none => .null

def insertSorted (k : String) (v : Json) : List (String × Json) → List (String × Json)
  | [] => [(k, v)]
  | (k', v') :: rest =>
    if k == k' then (k, v) :: rest
    else if k < k' then (k, v) :: (k', v') :: rest
    else (k', v') :: insertSorted k v rest

def sortedFields (fields : List (String × Json)) : List (String × Json) :=
  fields.foldl (fun acc (k, v) => insertSorted k v acc) []

def sorted : Json → Json
  | .arr items => .arr (items.attach.map fun ⟨j, _⟩ => sorted j)
  | .obj fields => .obj (sortedFields (fields.attach.map fun ⟨(k, j), _⟩ => (k, sorted j)))
  | j => j
termination_by j => sizeOf j
decreasing_by
  all_goals simp_wf
  · have := List.sizeOf_lt_of_mem (by assumption); omega
  · rename_i h
    have := List.sizeOf_lt_of_mem h
    simp at this
    omega

def field? (j : Json) (key : String) : Option Json :=
  match j with
  | .obj fields => (fields.reverse.find? (·.1 == key)).map (·.2)
  | _ => none

def str? (j : Json) (key : String) : Option String :=
  match j.field? key with
  | some (.str s) => some s
  | _ => none

end Json

end JsxVNode
