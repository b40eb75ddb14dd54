/-!
Collapsing a run of markup text. The run is cut into lines at each line break (`\r\n`, `\n` or
`\r`); a line after the first loses its leading spaces and tabs, a line before the last loses its
trailing ones, empty lines vanish and the rest are joined by one space. Text written on one line
is therefore kept as it stands, and indentation never reaches the output.
-/
namespace JsxVNode.Text

def isIndent (c : Char) : Bool := c == ' ' || c == '\t'

/-- Cuts text into lines at `\r\n`, `\n` and `\r`, keeping empty lines; the result is never
empty. -/
def lines : List Char → List (List Char)
  | [] => [[]]
  | '\r' :: '\n' :: rest => [] :: lines rest
  | '\n' :: rest => [] :: lines rest
  | '\r' :: rest => [] :: lines rest
  | c :: rest =>
    match lines rest with
    | [] => [[c]]
    | l :: ls => (c :: l) :: ls

def trimLine (first last : Bool) (line : List Char) : List Char :=
  let l := if first then line else line.dropWhile isIndent
  if last then l else (l.reverse.dropWhile isIndent).reverse

def keptLines (ls : List (List Char)) : List (List Char) :=
  let n := ls.length
  (ls.zipIdx.map fun (l, i) => trimLine (i == 0) (i + 1 == n) l).filter (· ≠ [])

def collapse (raw : String) : String :=
  " ".intercalate ((keptLines (lines raw.toList)).map String.ofList)

theorem lines_ne_nil (cs : List Char) : lines cs ≠ [] := by
  fun_induction lines cs <;> simp_all

end JsxVNode.Text
