import JsxVNode.Json.Message
import JsxVNode.Tree.Basic
/-!
Markup trees as JSON. Sum types carry their variant in a `type` member (a literal carries its
payload in `value`); a location defaults to `0:0` and a fragment key to none; unknown members
are ignored. Decoding reports the first problem as the tree is walked: members are visited in
key order, and a missing member is reported after the present ones, in declaration order.
-/
namespace JsxVNode

namespace TreeJson

def oneOf (names : List String) : String :=
  match names with
  | [] => "no variants"
  | [a] => "`" ++ a ++ "`"
  | [a, b] => "`" ++ a ++ "` or `" ++ b ++ "`"
  | _ => "one of " ++ ", ".intercalate (names.map fun n => "`" ++ n ++ "`")

def missing (name : String) : String := "missing field `" ++ name ++ "`"

def invalidLength (n : Nat) (expected : String) : String :=
  "invalid length " ++ toString n ++ ", expected " ++ expected

def elements (n : Nat) : String := if n == 1 then "1 element" else toString n ++ " elements"

/-- The index of a variant named by a tag value. A name always names a variant. A tag read
from the members of a tagged value, which are held in a buffer, may also be a non-negative
integer, the variant's index; a tag read straight from the request (`direct`) may not. -/
def variantOf (direct : Bool) (tag : Json) (names : List String) : Except String Nat :=
  match tag with
  | .str s =>
    match names.idxOf? s with
    | some i => .ok i
    | none => .error ("unknown variant `" ++ s ++ "`, expected " ++ oneOf names)
  | .num (.int v) =>
    if !direct && 0 ≤ v then
      if v < names.length then .ok v.toNat
      else .error ("invalid value: integer `" ++ toString v ++
        "`, expected variant index 0 <= i < " ++ toString names.length)
    else .error (invalidType (Json.num (.int v)).describe "variant identifier")
  | j => .error (invalidType j.describe "variant identifier")

/-- How the members of a struct are given: by key, sorted, or by position. -/
inductive Members where
  | named (fields : List (String × Json))
  | positional (items : List Json)

/-- The tag and members of a value tagged by a `type` member: an object with a `type` key, or
an array whose first element is the tag. -/
def tagged (expected : String) (j : Json) : Except String (Json × Members) :=
  match j with
  | .obj fields =>
    let fields := Json.sortedFields fields
    match fields.find? (·.1 == "type") with
    | some (_, tag) => .ok (tag, .named (fields.filter (·.1 != "type")))
    | none => .error (missing "type")
  | .arr [] => .error (missing "type")
  | .arr (tag :: rest) => .ok (tag, .positional rest)
  | other => .error (invalidType other.describe expected)

def structMembers (expected : String) (j : Json) : Except String Members :=
  match j with
  | .obj fields => .ok (.named (Json.sortedFields fields))
  | .arr items => .ok (.positional items)
  | other => .error (invalidType other.describe expected)

/-- A decoded member of a struct. -/
inductive Member where
  | text (s : String)
  | flag (b : Bool)
  | number (n : Nat)
  | location (l : Location)
  | trees (ts : List Tree)
  | tree (t : Tree)
  | attributes (as : List Attribute)
  | value (v : Value)
  | key (v : Option Value)
  | name (n : AttrName)
  | parts (ps : List ExprPart)
  | scope (s : Scope)
  | literal (l : Literal)

/-- What a member that is left out stands for. -/
inductive Absence where
  | required
  | defaulted
  | optional
deriving DecidableEq

/-- How one member of a struct is read: its key, what its absence stands for, and its decoder. -/
structure MemberSpec where
  name : String
  absence : Absence
  decode : Json → Except String Member

/-- Reads the members of a struct, giving each in declaration order (none for one left out).
By key, the given members are read in key order and unknown keys are skipped; then a missing
member is reported, in declaration order. By position, the members are read in declaration
order; a missing one is reported by its index, and extra elements after all were read. -/
def readMembers (expected : String) (specs : List MemberSpec) :
    Members → Except String (List (Option Member))
  | .named fields => do
    let given ← fields.foldlM (fun acc (k, v) =>
      match specs.find? (·.name == k) with
      | some spec => do
        let m ← spec.decode v
        pure (acc ++ [(k, m)])
      | none => pure acc) []
    specs.mapM fun spec =>
      match given.find? (·.1 == spec.name) with
      | some (_, m) => pure (some m)
      | none => if spec.absence == .required then throw (missing spec.name) else pure none
  | .positional items => do
    let read ← specs.zipIdx.mapM fun (spec, i) =>
      match items[i]? with
      | some v => some <$> spec.decode v
      | none =>
        if spec.absence == .defaulted then pure none
        else throw (invalidLength i (expected ++ " with " ++ elements specs.length))
    if items.length > specs.length then
      throw (invalidLength items.length (elements specs.length ++ " in sequence"))
    pure read

def misread (expected : String) : String := "invalid type: " ++ expected

def stringOf (j : Json) : Except String String :=
  match j with
  | .str s => .ok s
  | other => .error (invalidType other.describe "a string")

def boolOf (j : Json) : Except String Bool :=
  match j with
  | .bool b => .ok b
  | other => .error (invalidType other.describe "a boolean")

def u32Of (j : Json) : Except String Nat :=
  match j with
  | .num (.int v) =>
    if 0 ≤ v && v < 0x100000000 then .ok v.toNat
    else .error ("invalid value: integer `" ++ toString v ++ "`, expected u32")
  | other => .error (invalidType other.describe "u32")

/-- A scope, named by a string, or by an object whose one key names it and whose value is
null. -/
def scopeOf (j : Json) : Except String Scope :=
  let byName (s : String) : Except String Scope :=
    if s == "module" then .ok .module
    else if s == "function" then .ok .function
    else .error ("unknown variant `" ++ s ++ "`, expected `module` or `function`")
  match j with
  | .str s => byName s
  | .obj [(k, v)] => do
    let scope ← byName k
    match v with
    | .null => pure scope
    | other => throw (invalidType other.describe "unit")
  | .obj _ => .error "invalid value: map, expected map with a single key"
  | other => .error (invalidType other.describe "string or map")

def locationOf (j : Json) : Except String Location := do
  let members ← structMembers "struct SourceLocation" j
  match ← readMembers "struct SourceLocation"
      [⟨"line", .required, fun v => .number <$> u32Of v⟩,
        ⟨"column", .required, fun v => .number <$> u32Of v⟩] members with
  | [some (.number line), some (.number column)] => pure ⟨line, column⟩
  | _ => throw (misread "struct SourceLocation")

def locationOr : Option Member → Location
  | some (.location l) => l
  | _ => ⟨0, 0⟩

def unitContent (variant : String) (j : Json) : Except String Unit :=
  match j with
  | .null => .ok ()
  | other => .error (invalidType other.describe ("unit variant Literal::" ++ variant))

def literalPayload (i : Nat) (v : Json) : Except String Literal :=
  match i with
  | 0 => .str <$> stringOf v
  | 1 => .num <$> stringOf v
  | 2 => .bool <$> boolOf v
  | 3 => do unitContent "Null" v; pure .null
  | _ => do unitContent "Undefined" v; pure .undefined

/-- A literal, adjacently tagged: `type` names the variant and `value` holds the payload of
`str`, `num` and `bool`; `null` and `undefined` take none, and one given must be null. As an
array, the tag and the payload come first and second. -/
def literalOf (direct : Bool) (j : Json) : Except String Literal := do
  let expected := "adjacently tagged enum Literal"
  let names := ["str", "num", "bool", "null", "undefined"]
  match j with
  | .obj fields =>
    let fields := Json.sortedFields fields
    match fields.find? (·.1 == "type") with
    | none => throw (missing "type")
    | some (_, tag) =>
      let i ← variantOf direct tag names
      match fields.find? (·.1 == "value") with
      | some (_, v) => literalPayload i v
      | none =>
        if i == 3 then pure .null
        else if i == 4 then pure .undefined
        else throw (missing "value")
  | .arr [] => throw (invalidLength 0 expected)
  | .arr [tag] => do
    let _ ← variantOf direct tag names
    throw (invalidLength 1 expected)
  | .arr (tag :: v :: rest) => do
    let i ← variantOf direct tag names
    let l ← literalPayload i v
    if rest.isEmpty then pure l
    else throw (invalidLength (rest.length + 2)
      (if direct then "fewer elements in array" else "2 elements in sequence"))
  | other => throw (invalidType other.describe expected)

def weight : Json → Nat
  | .arr items => items.attach.foldl (fun acc ⟨j, _⟩ => acc + weight j) 1
  | .obj fields => fields.attach.foldl (fun acc ⟨(_, j), _⟩ => acc + weight j) 1
  | _ => 1
termination_by j => sizeOf j
decreasing_by
  all_goals simp_wf
  · have := List.sizeOf_lt_of_mem (by assumption); omega
  · rename_i h
    have := List.sizeOf_lt_of_mem h
    simp at this
    omega

mutual
/-- A tree. `direct` says it is read straight from the request rather than from a tagged
value's members. -/
def treeOf (fuel : Nat) (direct : Bool) (j : Json) : Except String Tree :=
  match fuel with
  | 0 => .error "recursion limit exceeded"
  | f + 1 => do
    let (tag, members) ← tagged "internally tagged enum TreeNode" j
    match ← variantOf direct tag ["element", "text", "expression-slot", "fragment"] with
    | 0 =>
      match ← readMembers "struct ElementNode"
          [⟨"tag", .required, fun v => .text <$> stringOf v⟩,
            ⟨"isComponent", .required, fun v => .flag <$> boolOf v⟩,
            ⟨"attrs", .required, fun v => .attributes <$> attributesOf f v⟩,
            ⟨"children", .required, fun v => .trees <$> treesOf f v⟩,
            ⟨"location", .defaulted, fun v => .location <$> locationOf v⟩] members with
      | [some (.text tagName), some (.flag isComponent), some (.attributes attrs),
          some (.trees children), loc] =>
        pure (.element tagName isComponent attrs children (locationOr loc))
      | _ => throw (misread "struct ElementNode")
    | 1 =>
      match ← readMembers "struct variant TreeNode::Text"
          [⟨"value", .required, fun v => .text <$> stringOf v⟩] members with
      | [some (.text v)] => pure (.text v)
      | _ => throw (misread "struct variant TreeNode::Text")
    | 2 =>
      match ← readMembers "struct variant TreeNode::ExpressionSlot"
          [⟨"value", .required, fun v => .value <$> valueOf f false v⟩] members with
      | [some (.value v)] => pure (.slot v)
      | _ => throw (misread "struct variant TreeNode::ExpressionSlot")
    | _ =>
      match ← readMembers "struct FragmentNode"
          [⟨"key", .optional, fun v => match v with
              | .null => pure (.key none)
              | v => (fun x => .key (some x)) <$> valueOf f false v⟩,
            ⟨"children", .required, fun v => .trees <$> treesOf f v⟩,
            ⟨"location", .defaulted, fun v => .location <$> locationOf v⟩] members with
      | [key, some (.trees children), loc] =>
        let key := match key with
          | some (.key k) => k
          | _ => none
        pure (.fragment key children (locationOr loc))
      | _ => throw (misread "struct FragmentNode")

def treesOf (fuel : Nat) (j : Json) : Except String (List Tree) :=
  match fuel with
  | 0 => .error "recursion limit exceeded"
  | f + 1 =>
    match j with
    | .arr items => items.mapM (treeOf f false)
    | other => .error (invalidType other.describe "a sequence")

def valueOf (fuel : Nat) (direct : Bool) (j : Json) : Except String Value :=
  match fuel with
  | 0 => .error "recursion limit exceeded"
  | f + 1 => do
    let (tag, members) ← tagged "internally tagged enum Value" j
    match ← variantOf direct tag ["literal", "expr"] with
    | 0 =>
      match ← readMembers "struct variant Value::Literal"
          [⟨"literal", .required, fun v => .literal <$> literalOf false v⟩] members with
      | [some (.literal l)] => pure (.literal l)
      | _ => throw (misread "struct variant Value::Literal")
    | _ =>
      match ← readMembers "struct variant Value::Expr"
          [⟨"expr", .required, fun v => .parts <$> exprOf f v⟩] members with
      | [some (.parts parts)] => pure (.expr parts)
      | _ => throw (misread "struct variant Value::Expr")

def exprOf (fuel : Nat) (j : Json) : Except String (List ExprPart) :=
  match fuel with
  | 0 => .error "recursion limit exceeded"
  | f + 1 => do
    let members ← structMembers "struct Expr" j
    match ← readMembers "struct Expr"
        [⟨"parts", .required, fun v => .parts <$> partsOf f v⟩] members with
    | [some (.parts parts)] => pure parts
    | _ => throw (misread "struct Expr")

def partsOf (fuel : Nat) (j : Json) : Except String (List ExprPart) :=
  match fuel with
  | 0 => .error "recursion limit exceeded"
  | f + 1 =>
    match j with
    | .arr items => items.mapM (partOf f)
    | other => .error (invalidType other.describe "a sequence")

def partOf (fuel : Nat) (j : Json) : Except String ExprPart :=
  match fuel with
  | 0 => .error "recursion limit exceeded"
  | f + 1 => do
    let (tag, members) ← tagged "internally tagged enum ExprPart" j
    match ← variantOf false tag ["source", "tree"] with
    | 0 =>
      match ← readMembers "struct variant ExprPart::Source"
          [⟨"code", .required, fun v => .text <$> stringOf v⟩] members with
      | [some (.text code)] => pure (.source code)
      | _ => throw (misread "struct variant ExprPart::Source")
    | _ =>
      match ← readMembers "struct variant ExprPart::Tree"
          [⟨"node", .required, fun v => .tree <$> treeOf f false v⟩,
            ⟨"scope", .required, fun v => .scope <$> scopeOf v⟩] members with
      | [some (.tree node), some (.scope scope)] => pure (.tree node scope)
      | _ => throw (misread "struct variant ExprPart::Tree")

def attributesOf (fuel : Nat) (j : Json) : Except String (List Attribute) :=
  match fuel with
  | 0 => .error "recursion limit exceeded"
  | f + 1 =>
    match j with
    | .arr items => items.mapM (attributeOf f)
    | other => .error (invalidType other.describe "a sequence")

def attributeOf (fuel : Nat) (j : Json) : Except String Attribute :=
  match fuel with
  | 0 => .error "recursion limit exceeded"
  | f + 1 => do
    let (tag, members) ← tagged "internally tagged enum Attribute" j
    match ← variantOf false tag ["named", "spread"] with
    | 0 =>
      match ← readMembers "struct variant Attribute::Named"
          [⟨"name", .required, fun v => .name <$> attrNameOf v⟩,
            ⟨"value", .required, fun v => .value <$> valueOf f false v⟩,
            ⟨"location", .defaulted, fun v => .location <$> locationOf v⟩] members with
      | [some (.name name), some (.value value), loc] => pure (.named name value (locationOr loc))
      | _ => throw (misread "struct variant Attribute::Named")
    | _ =>
      match ← readMembers "struct variant Attribute::Spread"
          [⟨"argument", .required, fun v => .parts <$> exprOf f v⟩,
            ⟨"location", .defaulted, fun v => .location <$> locationOf v⟩] members with
      | [some (.parts argument), loc] => pure (.spread argument (locationOr loc))
      | _ => throw (misread "struct variant Attribute::Spread")

def attrNameOf (j : Json) : Except String AttrName := do
  let (tag, members) ← tagged "internally tagged enum AttrName" j
  match ← variantOf false tag ["plain", "namespaced"] with
  | 0 =>
    match ← readMembers "struct variant AttrName::Plain"
        [⟨"name", .required, fun v => .text <$> stringOf v⟩] members with
    | [some (.text name)] => pure (.plain name)
    | _ => throw (misread "struct variant AttrName::Plain")
  | _ =>
    match ← readMembers "struct variant AttrName::Namespaced"
        [⟨"namespace", .required, fun v => .text <$> stringOf v⟩,
          ⟨"name", .required, fun v => .text <$> stringOf v⟩] members with
    | [some (.text ns), some (.text name)] => pure (.namespaced ns name)
    | _ => throw (misread "struct variant AttrName::Namespaced")
end

end TreeJson

def Tree.ofJson (j : Json) : Except String Tree := TreeJson.treeOf (TreeJson.weight j + 1) true j

def Value.ofJson (j : Json) : Except String Value :=
  TreeJson.valueOf (TreeJson.weight j + 1) true j

def Literal.ofJson (j : Json) : Except String Literal := TreeJson.literalOf true j

def Location.toJson (l : Location) : Json := .obj [("line", Json.nat l.line), ("column", Json.nat l.column)]

def Literal.toJson : Literal → Json
  | .str s => .obj [("type", .str "str"), ("value", .str s)]
  | .num s => .obj [("type", .str "num"), ("value", .str s)]
  | .bool b => .obj [("type", .str "bool"), ("value", .bool b)]
  | .null => .obj [("type", .str "null")]
  | .undefined => .obj [("type", .str "undefined")]

def Scope.toJson : Scope → Json
  | .module => .str "module"
  | .function => .str "function"

def AttrName.toJson : AttrName → Json
  | .plain n => .obj [("type", .str "plain"), ("name", .str n)]
  | .namespaced ns n => .obj [("type", .str "namespaced"), ("namespace", .str ns), ("name", .str n)]

mutual
def Tree.toJson : Tree → Json
  | .element tag isComponent attrs children loc =>
    .obj [("type", .str "element"), ("tag", .str tag), ("isComponent", .bool isComponent),
      ("attrs", .arr (Attribute.listToJson attrs)), ("children", .arr (Tree.listToJson children)),
      ("location", loc.toJson)]
  | .text v => .obj [("type", .str "text"), ("value", .str v)]
  | .slot v => .obj [("type", .str "expression-slot"), ("value", v.toJson)]
  | .fragment key children loc =>
    .obj [("type", .str "fragment"), ("key", Value.optionToJson key),
      ("children", .arr (Tree.listToJson children)), ("location", loc.toJson)]

def Tree.listToJson : List Tree → List Json
  | [] => []
  | t :: rest => t.toJson :: Tree.listToJson rest

def Value.toJson : Value → Json
  | .literal l => .obj [("type", .str "literal"), ("literal", l.toJson)]
  | .expr parts => .obj [("type", .str "expr"), ("expr", ExprPart.exprToJson parts)]

def Value.optionToJson : Option Value → Json
  | some v => v.toJson
  | none => .null

def ExprPart.exprToJson (parts : List ExprPart) : Json := .obj [("parts", .arr (ExprPart.listToJson parts))]

def ExprPart.listToJson : List ExprPart → List Json
  | [] => []
  | .source code :: rest => .obj [("type", .str "source"), ("code", .str code)] :: ExprPart.listToJson rest
  | .tree node scope :: rest =>
    .obj [("type", .str "tree"), ("node", node.toJson), ("scope", scope.toJson)] :: ExprPart.listToJson rest

def Attribute.listToJson : List Attribute → List Json
  | [] => []
  | .named name value loc :: rest =>
    .obj [("type", .str "named"), ("name", name.toJson), ("value", value.toJson),
      ("location", loc.toJson)] :: Attribute.listToJson rest
  | .spread argument loc :: rest =>
    .obj [("type", .str "spread"), ("argument", ExprPart.exprToJson argument),
      ("location", loc.toJson)] :: Attribute.listToJson rest
end

end JsxVNode
