/-!
Blank characters. Trimming a code fragment removes the characters of the Unicode property
`White_Space`; the rule is a table, so it does not depend on the ASCII-only classes of `Char`.
-/
namespace JsxVNode.Text

/-- The Unicode `White_Space` characters: tab to carriage return, space, next line, no-break
space, ogham space, the typographic spaces, the two separators and the ideographic space. -/
def isBlank (c : Char) : Bool :=
  let n := c.toNat
  (0x09 ≤ n && n ≤ 0x0D) || n == 0x20 || n == 0x85 || n == 0xA0 || n == 0x1680 ||
    (0x2000 ≤ n && n ≤ 0x200A) || n == 0x2028 || n == 0x2029 || n == 0x202F ||
    n == 0x205F || n == 0x3000

def trimBlank (cs : List Char) : List Char :=
  ((cs.dropWhile isBlank).reverse.dropWhile isBlank).reverse

def trim (s : String) : String :=
  String.ofList (trimBlank s.toList)

theorem trimBlank_length_le (cs : List Char) : (trimBlank cs).length ≤ cs.length := by
  have h1 : (cs.dropWhile isBlank).length ≤ cs.length :=
    (List.dropWhile_suffix isBlank).length_le
  have h2 : ((cs.dropWhile isBlank).reverse.dropWhile isBlank).length ≤
      (cs.dropWhile isBlank).reverse.length :=
    (List.dropWhile_suffix isBlank).length_le
  simp only [trimBlank, List.length_reverse] at h2 ⊢
  omega

end JsxVNode.Text
