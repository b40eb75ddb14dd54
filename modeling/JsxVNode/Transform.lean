import JsxVNode.Source.Parse
import JsxVNode.Emit
/-!
Compiling a whole source file: every outermost piece of markup is compiled in source order with
one compilation state and spliced back in place of its text; the declarations the compiled code
needs are inserted once, after the directive prologue. A file without markup is returned as it is.
-/
namespace JsxVNode

/-- The result of compiling a source file. -/
structure TransformOutput where
  code : String
  sites : Nat
  blueprints : List Blueprint
  helpers : List String

/-- The result of compiling one tree on its own. -/
structure TreeOutput where
  expression : String
  preamble : String

def insertPreamble (code : String) (preamble : String) (offset : Nat) : String :=
  if preamble.isEmpty then code
  else if offset == 0 then preamble ++ "\n" ++ code
  else
    let chars := code.toList
    String.ofList (chars.take offset) ++ "\n" ++ preamble ++ String.ofList (chars.drop offset)

/-- Compiles the sites in order, each preceded by the source text between it and the previous
one: the compiled text up to the end of the last site. -/
def Compile.sites (src : Source.Src) : Nat → List Source.Site → Compile String
  | _, [] => pure ""
  | cursor, s :: rest => do
    let code ← Compile.tree s.tree s.scope
    let options ← Compile.options
    let more ← Compile.sites src s.stop rest
    return src.slice cursor s.start ++ code.render options ++ more

def transform (source : String) (file : String) (options : Options) :
    Except CompileError TransformOutput := do
  let parsed ← Source.parse source file
  if parsed.sites.isEmpty then
    return { code := source, sites := 0, blueprints := [], helpers := [] }
  let src : Source.Src := source.toList.toArray
  let last := (parsed.sites.getLast?.map (·.stop)).getD 0
  let ctx := (Context.ofOptions options).bind parsed.imports
  match (Compile.sites src 0 parsed.sites).run ctx with
  | .error e _ => throw (e.inFile file)
  | .ok code ctx =>
    let decls := ctx.declarations
    let code := code ++ src.slice last src.size
    return { code := insertPreamble code decls.preamble parsed.declarationOffset
             sites := parsed.sites.length, blueprints := decls.blueprints
             helpers := decls.usedHelpers }

def compileStandalone (t : Tree) (scope : Scope) (options : Options) :
    Except CompileError TreeOutput :=
  match (Compile.tree t scope).run (Context.ofOptions options) with
  | .error e _ => .error e
  | .ok code ctx => .ok { expression := code.render options, preamble := ctx.declarations.preamble }

end JsxVNode
