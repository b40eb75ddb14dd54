import JsxVNode.Node.Basic
import JsxVNode.Attribute.Name
import JsxVNode.Text.Alphabetic
/-!
Sorting an element's attributes into the positions of its construction call: class name, key,
ref, lifecycle hooks, child directives, the `children` attribute of a plain element, and the
ordered props object. Names are checked first: an attribute name must be an identifier or a
`namespace:name` pair, and a retired name fails with the name that replaced it. A component that
has both a `ref` and separate lifecycle hooks is refused.
-/
namespace JsxVNode

/-- An attribute whose value is a term. -/
inductive Attr where
  | named (name : AttrName) (value : Term) (loc : Location)
  | spread (argument : List Piece) (loc : Location)

/-- The `$`-directives that steer how children are passed. -/
structure Directives where
  explicit : Option Nat := none
  childFlag : Option Term := none
  reCreate : Bool := false

/-- An element's attributes, sorted. -/
structure Partition where
  className : Option Term := none
  key : Option Term := none
  ref : Option Term := none
  hooks : List Field := []
  fields : List Field := []
  childrenProp : Option Term := none
  directives : Directives := {}
  normalizeProps : Bool := false
  contentEditable : Bool := false

def isNamePart (s : String) : Bool :=
  match s.toList with
  | c :: rest =>
    (Text.isAlphabetic c || c == '_' || c == '$') &&
      rest.all fun c => Text.isAlphanumeric c || c == '_' || c == '$' || c == '-'
  | [] => false

def AttrName.resolve (name : AttrName) (loc : Location) : Except CompileError String :=
  let (flat, valid) := match name with
    | .plain n => (n, isNamePart n)
    | .namespaced ns n => (ns ++ ":" ++ n, isNamePart ns && isNamePart n)
  if valid then .ok flat else .error (.found (.malformedName flat) loc)

def checkRetired (name : String) (loc : Location) : Except CompileError Unit :=
  match retiredNames.lookup name with
  | some replacement => .error (.found (.deprecatedName name replacement) loc)
  | none => .ok ()

def Directives.route (d : Directives) (name : String) (value : Term) : Option Directives :=
  match ChildFlags.ofDirective name with
  | some flags => some { d with explicit := some flags }
  | none =>
    if name == "$ChildFlag" then some { d with childFlag := some value }
    else if name == "$ReCreate" then some { d with reCreate := true }
    else none

def equalsIgnoringCase (a b : String) : Bool :=
  a.length == b.length && (a.toList.zip b.toList).all fun (x, y) => x.toLower == y.toLower

def Partition.addNamed (p : Partition) (isComponent : Bool) (name : String) (value : Term) :
    Partition :=
  if name == "key" then { p with key := some value }
  else if name == "ref" then { p with ref := some value }
  else if name == "children" && !isComponent then { p with childrenProp := some value }
  else if isComponent then
    if Attribute.isHookName name then { p with hooks := p.hooks ++ [.mk name .hook value] }
    else { p with fields := p.fields ++ [.mk name .prop value] }
  else if name == "className" || name == "class" then { p with className := some value }
  else if name == "style" then { p with fields := p.fields ++ [.mk name .style value] }
  else if Attribute.isEventName name then
    { p with fields := p.fields ++ [.mk (Attribute.eventName name) .event value] }
  else
    let p := if equalsIgnoringCase name "contentEditable" then { p with contentEditable := true }
      else p
    { p with fields := p.fields ++ [.mk (Attribute.domName name) .prop value] }

def Partition.add (isComponent : Bool) (p : Partition) : Attr → Except CompileError Partition
  | .spread argument _ =>
    .ok { p with normalizeProps := true, fields := p.fields ++ [.mk "" .spread (.expr argument)] }
  | .named rawName value loc => do
    let name ← rawName.resolve loc
    checkRetired name loc
    match (if name.startsWith "$" then p.directives.route name value else none) with
    | some d => pure { p with directives := d }
    | none => pure (p.addNamed isComponent name value)

def Partition.ofAttrs (tag : String) (isComponent : Bool) (loc : Location) (attrs : List Attr) :
    Except CompileError Partition := do
  let p ← attrs.foldlM (Partition.add isComponent) {}
  if isComponent && p.ref.isSome && !p.hooks.isEmpty then
    throw (.found (.hooksWithRef tag (p.hooks.map Field.name)) loc)
  pure p

/-- A named fragment keeps its `key` and its child directives other than `$ReCreate`; every other
attribute is ignored, unchecked. -/
def fragmentAttrs (attrs : List Attr) : Option Term × Directives :=
  attrs.foldl (fun (key, d) attr =>
    match attr with
    | .named (.plain name) value _ =>
      if name == "key" then (some value, d)
      else if name.startsWith "$" && name != "$ReCreate" then
        (key, (d.route name value).getD d)
      else (key, d)
    | _ => (key, d)) (none, {})

end JsxVNode
