/-!
Compile options and the runtime helpers that emitted code calls. Each helper has an export name;
a pragma option replaces the callee of its helper. A helper is declared by the compiler (imported
from the runtime module, or read from the global namespace) only when its callee is its export
name.
-/
namespace JsxVNode

/-- The runtime helpers, in the order in which they are declared. -/
inductive Helper where
  | createVNode
  | createComponentVNode
  | createFragment
  | createTextVNode
  | normalizeProps
  | normalizeChildren
deriving DecidableEq, Repr

namespace Helper

def all : List Helper :=
  [createVNode, createComponentVNode, createFragment, createTextVNode, normalizeProps,
    normalizeChildren]

def exportName : Helper → String
  | createVNode => "createVNode"
  | createComponentVNode => "createComponentVNode"
  | createFragment => "createFragment"
  | createTextVNode => "createTextVNode"
  | normalizeProps => "normalizeProps"
  | normalizeChildren => "normalizeChildren"

end Helper

/-- Where helpers come from: the default runtime module (`true`), global aliases (`false`), or
a named module. -/
inductive Imports where
  | enabled (on : Bool)
  | module (name : String)
deriving DecidableEq, Repr

/-- Options of a compilation. -/
structure Options where
  pragma : Option String := none
  pragmaCreateComponentVNode : Option String := none
  pragmaFragment : Option String := none
  pragmaTextVNode : Option String := none
  pragmaNormalizeProps : Option String := none
  imports : Imports := .enabled true
  defineAllArguments : Bool := false
  optimizeStaticVNodes : Bool := false
deriving DecidableEq, Repr

instance : Inhabited Options := ⟨{}⟩

namespace Options

def pragmaOf (o : Options) : Helper → Option String
  | .createVNode => o.pragma
  | .createComponentVNode => o.pragmaCreateComponentVNode
  | .createFragment => o.pragmaFragment
  | .createTextVNode => o.pragmaTextVNode
  | .normalizeProps => o.pragmaNormalizeProps
  | .normalizeChildren => none

def callee (o : Options) (h : Helper) : String := (o.pragmaOf h).getD h.exportName

def declares (o : Options) (h : Helper) : Bool := o.callee h == h.exportName

def importSource (o : Options) : Option String :=
  match o.imports with
  | .enabled true => some "inferno"
  | .enabled false => none
  | .module m => some m

def globalNamespace : String := "Inferno"

end Options

end JsxVNode
