import JsxVNode.Signature
import JsxVNode.Code
import JsxVNode.Error
/-!
The state of one file's compilation: its options, the blueprints allocated so far, the helpers
used, the names the file already binds, and the arguments of the template being built, if any.
Compiling runs in `Compile`, a state monad whose errors keep the state reached when they were
raised: whatever a failed step recorded before its error stays.

At the end, `declarations` gives the lines that go before the code: the helper imports or
aliases, one `var` line naming the static blueprints, and one function per template.
-/
namespace JsxVNode

/-- A blueprint: a signature with its id, its construction code, and the number of values a
call passes (zero for a static blueprint). -/
structure Blueprint where
  signature : Signature
  id : Nat
  skeleton : Code
  slotCount : Nat

/-- The state of one file's compilation. -/
structure Context where
  options : Options
  blueprints : List Blueprint := []
  used : List Helper := []
  bound : List String := []
  params : Option (List Code) := none

abbrev Compile := EStateM CompileError Context

namespace Context

def ofOptions (options : Options) : Context := { options }

def bind (ctx : Context) (names : List String) : Context := { ctx with bound := ctx.bound ++ names }

def lookup (ctx : Context) (sig : Signature) : Option Blueprint :=
  ctx.blueprints.find? (·.signature = sig)

end Context

namespace Compile

def useHelper (h : Helper) : Compile Code :=
  modifyGet fun ctx =>
    (.helper h, if ctx.used.contains h then ctx else { ctx with used := ctx.used ++ [h] })

def options : Compile Options := do return (← get).options

def beginParams : Compile (Option (List Code)) :=
  modifyGet fun ctx => (ctx.params, { ctx with params := some [] })

def endParams (outer : Option (List Code)) : Compile (List Code) :=
  modifyGet fun ctx => (ctx.params.getD [], { ctx with params := outer })

def suspendParams : Compile (Option (List Code)) :=
  modifyGet fun ctx => (ctx.params, { ctx with params := none })

def resumeParams (saved : Option (List Code)) : Compile Unit :=
  modify fun ctx => { ctx with params := saved }

/-- While a template is built, records code as the next argument and gives the parameter that
stands for it; otherwise gives the code itself. -/
def bindParam (code : Code) : Compile Code :=
  modifyGet fun ctx =>
    match ctx.params with
    | some ps => (.param ps.length, { ctx with params := some (ps ++ [code]) })
    | none => (code, ctx)

def lookup (sig : Signature) : Compile (Option Blueprint) := do return (← get).lookup sig

def insert (sig : Signature) (skeleton : Code) (slotCount : Nat) : Compile Nat :=
  modifyGet fun ctx =>
    match ctx.lookup sig with
    | some b => (b.id, ctx)
    | none =>
      let id := ctx.blueprints.length
      (id, { ctx with blueprints := ctx.blueprints ++ [⟨sig, id, skeleton, slotCount⟩] })

def attempt {α : Type} (x : Compile α) : Compile (Except CompileError α) :=
  tryCatch (Except.ok <$> x) fun e => pure (.error e)

def ofExcept {α : Type} : Except CompileError α → Compile α
  | .ok a => pure a
  | .error e => throw e

end Compile

/-- The declarations a file's compilation needs. -/
structure Declarations where
  helpers : Option String
  slots : Option String
  templates : Option String
  blueprints : List Blueprint
  usedHelpers : List String

def Declarations.preamble (d : Declarations) : String :=
  "\n".intercalate ([d.helpers, d.slots, d.templates].filterMap id)

def Context.declarations (ctx : Context) : Declarations :=
  let used := Helper.all.filter ctx.used.contains
  let declared := used.filter fun h => ctx.options.declares h && !ctx.bound.contains h.exportName
  let helpers :=
    if declared.isEmpty then none
    else some <| match ctx.options.importSource with
      | some m => "import \x7b " ++ ", ".intercalate (declared.map Helper.exportName) ++ " \x7d from " ++
          Text.quote m ++ ";"
      | none => "var " ++ ", ".intercalate (declared.map fun h =>
          h.exportName ++ " = " ++ Options.globalNamespace ++ "." ++ h.exportName) ++ ";"
  let statics := ctx.blueprints.filter (·.slotCount == 0)
  let templates := ctx.blueprints.filter (·.slotCount != 0)
  let slots := if statics.isEmpty then none
    else some ("var " ++ ", ".intercalate (statics.map (slotName ·.id)) ++ ";")
  let templateLines := if templates.isEmpty then none
    else some ("\n".intercalate (templates.map fun b =>
      "function " ++ templateName b.id ++ "(" ++
        ", ".intercalate ((List.range b.slotCount).map paramName) ++ ") \x7b return " ++
        b.skeleton.render ctx.options ++ "; \x7d"))
  ⟨helpers, slots, templateLines, ctx.blueprints, used.map ctx.options.callee⟩

end JsxVNode
