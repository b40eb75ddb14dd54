import JsxVNode.Node.Partition
import JsxVNode.Text.Lines
import JsxVNode.Text.Blank
/-!
Classifying a markup tree. Attributes are sorted (see `Partition`), children are cleaned up
(blank text, empty strings and empty expressions vanish; text is collapsed and its references
decoded), and the child flags are decided:

* a `$ChildFlag` expression decides them at run time;
* a `$Has…Children` directive fixes them, and with text flags a lone text child is passed as a
  plain string;
* otherwise no children give "none", any expression child leaves them to the runtime to
  normalise, several children that are all keyed or all unkeyed give "keyed" or "non-keyed",
  one child gives "single", and a mix of keyed and unkeyed children is normalised.

Elements and fragments whose subtree holds no component and no spread get a signature.
-/
namespace JsxVNode

def isEmptyCode (code : String) : Bool :=
  let t := Text.trimBlank code.toList
  t.isEmpty ||
    match t with
    | '[' :: rest => rest.getLast? == some ']' && (Text.trimBlank rest.dropLast).isEmpty
    | _ => false

def Term.isEmptyExpr : Term → Bool
  | .expr [.source code] => isEmptyCode code
  | _ => false

/-- How children are passed: child flags, whether the runtime normalises them, and whether a lone
text is passed as a string. -/
structure Layout where
  childFlags : ChildFlagValue
  normalize : Bool
  collapseText : Bool

def Layout.resolve (nodes : List Node) (d : Directives) : Layout :=
  match d.childFlag, d.explicit with
  | some value, _ => ⟨.dynamic value, false, false⟩
  | none, some flags =>
    let lone := match nodes with | [.text _] => true | _ => false
    ⟨.known flags, false, flags == ChildFlags.text && lone⟩
  | none, none =>
    if nodes.isEmpty then ⟨.known ChildFlags.none, false, false⟩
    else
      let keyed := (nodes.filter fun n => n.key?.isSome).length
      let decided :=
        if nodes.any Node.isSlot then none
        else if nodes.length > 1 && keyed == nodes.length then some ChildFlags.keyed
        else if nodes.length > 1 && keyed == 0 then some ChildFlags.nonKeyed
        else if nodes.length == 1 then some ChildFlags.single
        else none
      match decided with
      | some flags => ⟨.known flags, false, false⟩
      | none => ⟨.known ChildFlags.unknown, true, false⟩

/-- Children given by a `children` attribute when there are none in the markup: its tree, nothing
for `null` and `undefined`, a text for a string (even an empty one), else one slot. -/
def childrenOfProp (value : Term) : Except CompileError (List Node) :=
  match value.soleTree? with
  | some r => do let n ← r; pure [n]
  | none =>
    match value with
    | .literal .null | .literal .undefined => .ok []
    | .literal (.str s) => .ok [.text s]
    | _ => .ok [.slot value]

def textContent (raw : String) : String := Text.collapse (Text.decodeEntities raw)

def elementFlags (tag : String) (p : Partition) : Nat :=
  Flags.elementKind tag ||| (if p.directives.reCreate then Flags.reCreate else 0) |||
    (if p.contentEditable then Flags.contentEditable else 0)

def classifyElement (tag : String) (p : Partition) (nodes : List Node) : Node :=
  let layout := Layout.resolve nodes p.directives
  let flags := elementFlags tag p
  let signature :=
    if p.normalizeProps then none
    else (nodes.mapM Node.signature?).map fun sigs =>
      .element tag flags (p.className.map Term.shape) (p.fields.map Field.shape)
        (p.key.map Term.shape) (p.ref.map Term.shape) layout.childFlags.known? sigs
  .element tag flags p.className p.fields p.key p.ref nodes layout.childFlags layout.normalize
    layout.collapseText p.normalizeProps signature

def classifyComponent (tag : String) (p : Partition) (nodes : List Node) : Node :=
  let fields := if nodes.isEmpty then p.fields
    else p.fields.filter fun f => !(f.category == .prop && f.name == "children")
  .component tag (Flags.component ||| (if p.directives.reCreate then Flags.reCreate else 0))
    fields p.key p.ref p.hooks nodes p.normalizeProps

/-- Classifies a fragment. Without children no child flags are written, which the signature
records as "none". -/
def classifyFragment (key : Option Term) (d : Directives) (nodes : List Node) : Node :=
  let layout := Layout.resolve nodes d
  let signature := (nodes.mapM Node.signature?).map fun sigs =>
    .fragment (key.map Term.shape)
      (if sigs.isEmpty then some ChildFlags.none else layout.childFlags.known?) sigs
  .fragment key nodes layout.childFlags layout.normalize layout.collapseText signature

mutual
def classify : Tree → Except CompileError Node
  | .element tag isComponent attrs children loc =>
    let attrs := attrsOf attrs
    if isComponent && isFragmentTag tag then do
      let (key, d) := fragmentAttrs attrs
      let nodes ← classifyChildren children
      pure (classifyFragment key d nodes)
    else if isComponent then do
      let p ← Partition.ofAttrs tag true loc attrs
      let nodes ← classifyChildren children
      pure (classifyComponent tag p nodes)
    else do
      let p ← Partition.ofAttrs tag false loc attrs
      let nodes ← classifyChildren children
      let nodes ← if nodes.isEmpty then
          match p.childrenProp with
          | some v => childrenOfProp v
          | none => pure []
        else pure nodes
      pure (classifyElement tag p nodes)
  | .fragment key children _ => do
    let nodes ← classifyChildren children
    pure (classifyFragment (termOfOption key) {} nodes)
  | .text value =>
    let t := textContent value
    .ok (if t.isEmpty then .slot (.literal .null) else .text t)
  | .slot value => .ok (.slot (termOf value))

def classifyChildren : List Tree → Except CompileError (List Node)
  | [] => .ok []
  | .text value :: rest => do
    let t := textContent value
    let more ← classifyChildren rest
    pure (if t.isEmpty then more else .text t :: more)
  | .slot value :: rest => do
    let term := termOf value
    let here ← match term.soleTree? with
      | some r => do let n ← r; pure [n]
      | none =>
        match term with
        | .literal (.str s) => pure (if s.isEmpty then [] else [Node.text s])
        | _ => pure (if term.isEmptyExpr then [] else [Node.slot term])
    let more ← classifyChildren rest
    pure (here ++ more)
  | (child@(.element ..)) :: rest | (child@(.fragment ..)) :: rest => do
    let n ← classify child
    let more ← classifyChildren rest
    pure (n :: more)

def termOf : Value → Term
  | .literal l => .literal l
  | .expr parts => .expr (piecesOf parts)

def termOfOption : Option Value → Option Term
  | some v => some (termOf v)
  | none => none

def piecesOf : List ExprPart → List Piece
  | [] => []
  | .source code :: rest => .source code :: piecesOf rest
  | .tree node scope :: rest => .tree (classify node) scope :: piecesOf rest

def attrsOf : List Attribute → List Attr
  | [] => []
  | .named name value loc :: rest => .named name (termOf value) loc :: attrsOf rest
  | .spread argument loc :: rest => .spread (piecesOf argument) loc :: attrsOf rest
end

end JsxVNode
