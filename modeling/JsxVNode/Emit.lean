import JsxVNode.Node.Classify
import JsxVNode.Context
/-!
Emitting construction calls for classified nodes. The positional layouts are

* element: `createVNode(flags, "tag", className, children, childFlags, props, key, ref)`
* component: `createComponentVNode(flags, Type, props, key, ref)`
* fragment: `createFragment(children, childFlags, key)`
* text: `createTextVNode("value")`

and arguments after the last one present are dropped unless every argument is asked for; absent
arguments before it are written as the runtime's defaults.

Inside a function, with static optimisation on, a static element or fragment is built once into
a module-level slot (`_bp0 || (_bp0 = …)`), and a subtree whose only run-time parts are values
becomes a module-level template called with those values in the order the inline code would
evaluate them. Every site of the same signature shares one blueprint.
-/
namespace JsxVNode

/-- Where a node is emitted relative to blueprints: at a site (a tree's root or a component's
child), inside a template body, or inside a static skeleton, where nothing is cached again. -/
inductive Nesting where
  | site
  | template
  | skeleton
deriving DecidableEq, Repr

def elementDefaults : List String := ["", "", "null", "null", "1", "null", "null", "null"]

def componentDefaults : List String := ["", "", "null", "null", "null"]

def fragmentDefaults : List String := ["null", "1", "null"]

def writtenCount {α : Type} (args : List (Option α)) (defineAll : Bool) : Nat :=
  if defineAll then args.length
  else (args.zipIdx.filterMap fun (a, i) => a.map fun _ => i + 1).foldl max 0

def finishCall (callee : Code) (args : List (Option Code)) (defaults : List String)
    (defineAll : Bool) : Code :=
  let written := (args.take (writtenCount args defineAll)).zipIdx.map fun (a, i) =>
    a.getD (.text (defaults.getD i ""))
  .call callee written

def Code.sole : List Code → Code
  | [c] => c
  | codes => .array codes

def shouldCache (options : Options) (scope : Scope) : Bool :=
  options.optimizeStaticVNodes && scope == .function

def Node.hoistSignature? : Node → Option Signature
  | .element _ _ _ _ _ _ _ _ _ _ _ s => s
  | .fragment _ _ _ _ _ s => s
  | _ => none

namespace Compile

/-- The read-or-build expression of a static blueprint; the skeleton is built only the first time
the signature is met. -/
def cachedSite (sig : Signature) (build : Compile Code) : Compile Code := do
  let (id, skeleton) ← match ← lookup sig with
    | some b => pure (b.id, b.skeleton)
    | none => do
      let skeleton ← build
      let id ← insert sig skeleton 0
      pure (id, skeleton)
  pure (.cached id skeleton)

/-- The call of a template. The body is built at every site, collecting this site's arguments;
it is kept the first time the signature is met. -/
def templateSite (sig : Signature) (build : Compile Code) : Compile Code := do
  let outer ← beginParams
  let built ← attempt build
  let args ← endParams outer
  let body ← ofExcept built
  let id ← match ← lookup sig with
    | some b => pure b.id
    | none => insert sig body args.length
  pure (.template id args)

/-- Emits a node at a nesting, through a blueprint when one applies. `direct` emits the node
itself at a given nesting. -/
def hoisted (scope : Scope) (nesting : Nesting) (n : Node) (direct : Nesting → Compile Code) :
    Compile Code := do
  let options ← options
  match n.hoistSignature? with
  | some sig =>
    if nesting != .skeleton && shouldCache options scope then
      if sig.isStatic then cachedSite sig (direct .skeleton)
      else if nesting == .site && sig.slotCount > 0 then templateSite sig (direct .template)
      else direct nesting
    else direct nesting
  | none => direct nesting

def rooted (scope : Scope) (n : Node) (direct : Nesting → Compile Code) : Compile Code := do
  let options ← options
  let cached := n.isStatic && n.hoistSignature?.isSome && shouldCache options scope
  let code ← hoisted scope .site n direct
  pure (if cached then .paren code else code)

/-- Runs a computation with template-argument collection suspended, restoring it afterwards
whether or not the computation fails. -/
def suspended {α : Type} (x : Compile α) : Compile α := do
  let saved ← suspendParams
  let r ← attempt x
  resumeParams saved
  ofExcept r

/-- The children argument from the emitted children: none when there are none; a lone text
with text flags is a plain string and emits nothing; a lone slot, and a lone node unless the
flags ask for several, stand bare; else an array. -/
def childrenArg (nodes : List Node) (cf : ChildFlagValue) (collapse : Bool)
    (items : Compile (List Code)) : Compile (Option Code) :=
  match nodes with
  | [] => pure none
  | [.text t] =>
    if collapse then pure (some (.text (Text.quote t))) else do
      let codes ← items
      pure (some (if wantsArray cf then .array codes else Code.sole codes))
  | [n] => do
    let codes ← items
    pure (some (if n.isSlot || !wantsArray cf then Code.sole codes else .array codes))
  | _ => do
    let codes ← items
    pure (some (.array codes))
where
  wantsArray : ChildFlagValue → Bool
    | .known f => f &&& ChildFlags.multiple != 0
    | .dynamic _ => false

def propsObject (entries : List Code) (extra : List (String × Code)) : Option Code :=
  if entries.isEmpty && extra.isEmpty then none
  else some (.object (entries ++ extra.map fun (k, v) => .entry k v))

def wrapIf (cond : Bool) (h : Helper) (call : Code) : Compile Code :=
  if cond then do
    let callee ← useHelper h
    pure (.call callee [call])
  else pure call

mutual
def emitDirect (scope : Scope) (nesting : Nesting) : Node → Compile Code
  | .element tag flags cls fields key ref children cf normC collapse normP _ => do
    let callee ← useHelper .createVNode
    let clsArg ← emitOptional cls
    let chArg ← if normC then pure none
      else childrenArg children cf collapse (emitNodes scope nesting children)
    let cfArg ← if normC then pure none else emitChildFlags cf
    let props := propsObject (← emitFieldEntries fields) []
    let keyArg ← emitOptional key
    let refArg ← emitOptional ref
    let defineAll := (← options).defineAllArguments
    let call := finishCall callee [some (.text (toString flags)), some (.text (Text.quote tag)),
      clsArg, chArg, cfArg, props, keyArg, refArg] elementDefaults defineAll
    let call ← if normC then do
        let items ← emitNodes scope nesting children
        let list := if children.length == 1 then Code.sole items else .array items
        let nc ← useHelper .normalizeChildren
        pure (.call nc [call, list])
      else pure call
    wrapIf normP .normalizeProps call
  | .component tag flags fields key ref hooks children normP => do
    let callee ← useHelper .createComponentVNode
    let items ← emitComponentChildren scope children
    let extra := match items with
      | [] => []
      | [one] => [("children", one)]
      | _ => [("children", .array items)]
    let props := propsObject (← emitFieldEntries fields) extra
    let keyArg ← emitOptional key
    let refArg ← if hooks.isEmpty then emitOptional ref
      else do
        let entries ← emitFieldEntries hooks
        pure (propsObject entries [])
    let defineAll := (← options).defineAllArguments
    let call := finishCall callee [some (.text (toString flags)), some (.text tag), props, keyArg,
      refArg] componentDefaults defineAll
    wrapIf normP .normalizeProps call
  | .fragment key children cf _ collapse _ => do
    let callee ← useHelper .createFragment
    let chArg ← childrenArg children cf collapse (emitNodes scope nesting children)
    let cfArg ← if chArg.isNone then pure none else emitChildFlags cf
    let keyArg ← emitOptional key
    let defineAll := (← options).defineAllArguments
    pure (finishCall callee [chArg, cfArg, keyArg] fragmentDefaults defineAll)
  | .text value => do
    let callee ← useHelper .createTextVNode
    pure (.call callee [.text (Text.quote value)])
  | .slot value => emitParam value

def emitNodes (scope : Scope) (nesting : Nesting) : List Node → Compile (List Code)
  | [] => pure []
  | n :: rest => do
    let code ← hoisted scope nesting n fun nest => emitDirect scope nest n
    let more ← emitNodes scope nesting rest
    pure (code :: more)

def emitComponentChildren (scope : Scope) : List Node → Compile (List Code)
  | [] => pure []
  | n :: rest => do
    let code ← match n with
      | .text t => pure (.text (Text.quote t))
      | _ => hoisted scope .site n fun nest => emitDirect scope nest n
    let more ← emitComponentChildren scope rest
    pure (code :: more)

def emitChildFlags : ChildFlagValue → Compile (Option Code)
  | .known n => pure (if n == ChildFlags.none then none else some (.text (toString n)))
  | .dynamic value => do
    let code ← emitParam value
    pure (some code)

def emitFieldEntries : List Field → Compile (List Code)
  | [] => pure []
  | .mk name category value :: rest => do
    let code ← emitValue value
    let entry := if category == .spread then .spread code else .entry (Text.quote name) code
    let more ← emitFieldEntries rest
    pure (entry :: more)

def emitOptional : Option Term → Compile (Option Code)
  | some v => if v.isNullish then pure none else do
    let code ← emitValue v
    pure (some code)
  | none => pure none

/-- A value: a literal in place; an expression compiled on its own, then bound as a template
argument when a template is built. -/
def emitValue : Term → Compile Code
  | .literal l => pure (.text l.render)
  | .expr pieces => do
    let parts ← suspended (emitPieces pieces)
    bindParam (.expr parts)

/-- Like a value, but a literal is a template argument too: the signature records only a
placeholder there. -/
def emitParam : Term → Compile Code
  | .literal l => bindParam (.text l.render)
  | .expr pieces => do
    let parts ← suspended (emitPieces pieces)
    bindParam (.expr parts)

def emitPieces : List Piece → Compile (List Code)
  | [] => pure []
  | .source code :: rest => do
    let more ← emitPieces rest
    pure (.source code :: more)
  | .tree (.error e) _ :: _ => throw e
  | .tree (.ok n) scope :: rest => do
    let code ← rooted scope n fun nest => emitDirect scope nest n
    let more ← emitPieces rest
    pure (code :: more)
end

end Compile

def Compile.node (scope : Scope) (n : Node) : Compile Code :=
  Compile.rooted scope n fun nest => Compile.emitDirect scope nest n

def Compile.tree (t : Tree) (scope : Scope) : Compile Code := do
  let n ← Compile.ofExcept (classify t)
  Compile.node scope n

/-- Compiles trees one after another on one compilation state, each from the state the one before
left, whether it succeeded or failed; gives the outcome of each in order. -/
def Compile.steps : List (Tree × Scope) → Compile (List (Except CompileError Code))
  | [] => pure []
  | (t, scope) :: rest => do
    let outcome ← Compile.attempt (Compile.tree t scope)
    let more ← Compile.steps rest
    pure (outcome :: more)

end JsxVNode
