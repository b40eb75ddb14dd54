import JsxVNode.Text.Uppercase
/-!
Markup trees as they are written in source: elements with their attributes and children, text
runs, embedded expressions and fragments. Embedded expressions are kept as source text, cut
around the markup nested in them, which stays a tree with the scope it was written in.
-/
namespace JsxVNode

/-- A place in the source, by line and column counted from 1; a tree built by hand carries
`0:0`. -/
structure Location where
  line : Nat
  column : Nat
deriving DecidableEq, Repr, Inhabited

/-- A value known when compiling. Numbers keep their spelling. -/
inductive Literal where
  | str (value : String)
  | num (text : String)
  | bool (value : Bool)
  | null
  | undefined
deriving DecidableEq, Repr, Inhabited

/-- Where markup is written: at the top level of a module or inside a function. -/
inductive Scope where
  | module
  | function
deriving DecidableEq, Repr, Inhabited

/-- The name of an attribute: one identifier, or a namespace and a name. -/
inductive AttrName where
  | plain (name : String)
  | namespaced («namespace» : String) (name : String)
deriving DecidableEq, Repr, Inhabited

mutual
/-- A piece of an embedded expression: source text, or markup nested in it. -/
inductive ExprPart where
  | source (code : String)
  | tree (node : Tree) (scope : Scope)

/-- A value: a literal, or the parts of an expression. -/
inductive Value where
  | literal (lit : Literal)
  | expr (parts : List ExprPart)

/-- An attribute of an element: a name with a value, or a spread of an expression. -/
inductive Attribute where
  | named (name : AttrName) (value : Value) (loc : Location)
  | spread (argument : List ExprPart) (loc : Location)

/-- A markup tree. -/
inductive Tree where
  | element (tag : String) (isComponent : Bool) (attrs : List Attribute) (children : List Tree)
      (loc : Location)
  | text (value : String)
  | slot (value : Value)
  | fragment (key : Option Value) (children : List Tree) (loc : Location)
end

instance : Inhabited Value := ⟨.literal .null⟩
instance : Inhabited Tree := ⟨.text ""⟩

namespace Value

def string (s : String) : Value := .literal (.str s)

def code (s : String) : Value := .expr [.source s]

def literal? : Value → Option Literal
  | .literal l => some l
  | .expr _ => none

def isNullish : Value → Bool
  | .literal .null | .literal .undefined => true
  | _ => false

end Value

def plainSource? : List ExprPart → Option String
  | [.source code] => some code
  | _ => none

def hasNestedTrees (parts : List ExprPart) : Bool :=
  parts.any fun | .tree .. => true | .source _ => false

/-- A tag names a component when it is a member name (it has a dot) or starts with an
upper-case letter. -/
def isComponentTag (tag : String) : Bool :=
  tag.toList.contains '.' ||
    match tag.toList with
    | c :: _ => Text.isUppercase c
    | [] => false

def isFragmentTag (tag : String) : Bool :=
  tag == "Fragment" || ".Fragment".toList.isSuffixOf tag.toList

/-- Line and column of a character offset: lines are counted by `\n`, columns in characters
since the last `\n`. -/
def Location.ofOffset (source : List Char) (offset : Nat) : Location :=
  let before := source.take offset
  let line := before.count '\n' + 1
  let column := (before.reverse.takeWhile (· ≠ '\n')).length + 1
  ⟨line, column⟩

def lineStarts (source : Array Char) : Array Nat :=
  source.toList.zipIdx.foldl (fun acc (c, i) => if c == '\n' then acc.push (i + 1) else acc) #[0]

/-- The index of the last line start at or before an offset, searched between `lo` (whose start
is at or before it) and `hi`. -/
def lastLineAtMost (starts : Array Nat) (offset : Nat) (lo hi : Nat) : Nat :=
  if h : lo + 1 < hi then
    let mid := (lo + hi) / 2
    if starts[mid]?.getD 0 ≤ offset then lastLineAtMost starts offset mid hi
    else lastLineAtMost starts offset lo mid
  else lo
termination_by hi - lo

def Location.ofLineStarts (starts : Array Nat) (offset : Nat) : Location :=
  let k := lastLineAtMost starts offset 0 starts.size
  ⟨k + 1, offset - starts[k]?.getD 0 + 1⟩

end JsxVNode
