import JsxVNode.Attribute.Name
import JsxVNode.Cache.Entry
import JsxVNode.Cache.Sha256
import JsxVNode.Cli.Arguments
import JsxVNode.Cli.Run
import JsxVNode.Cli.Sources
import JsxVNode.Code
import JsxVNode.Context
import JsxVNode.Emit
import JsxVNode.Error
import JsxVNode.Files.Memory
import JsxVNode.Files.Path
import JsxVNode.Files.System
import JsxVNode.Flags
import JsxVNode.Json.Basic
import JsxVNode.Json.Binary64
import JsxVNode.Json.Message
import JsxVNode.Json.Options
import JsxVNode.Json.Read
import JsxVNode.Json.Tree
import JsxVNode.Json.Write
import JsxVNode.Main
import JsxVNode.Node.Basic
import JsxVNode.Node.Classify
import JsxVNode.Node.Partition
import JsxVNode.Options
import JsxVNode.Signature
import JsxVNode.Source.Lexer
import JsxVNode.Source.Parse
import JsxVNode.Source.Parser.Cursor
import JsxVNode.Source.Parser.Grammar
import JsxVNode.Source.Parser.Markup
import JsxVNode.Source.Parser.Modifier
import JsxVNode.Source.Parser.Type
import JsxVNode.Source.Token
import JsxVNode.Text.Alphabetic
import JsxVNode.Text.Blank
import JsxVNode.Text.Entity
import JsxVNode.Text.Identifier
import JsxVNode.Text.Lines
import JsxVNode.Text.Printable
import JsxVNode.Text.Quoted
import JsxVNode.Text.Uppercase
import JsxVNode.Transform
import JsxVNode.Tree.Basic
import JsxVNode.Tree.Literal
import JsxVNode.Proofs.Frame
import JsxVNode.Proofs.WellFormed
import JsxVNode.Proofs.Substitution
import JsxVNode.Proofs.Template
import JsxVNode.Proofs.Skeleton
import JsxVNode.Proofs.Collection
import JsxVNode.Proofs.Reuse
import JsxVNode.Proofs.Declarations
import JsxVNode.Proofs.Expressions
import JsxVNode.Proofs.Replay
import JsxVNode.Proofs.Splicing
import JsxVNode.Proofs.Validation
import JsxVNode.Proofs.Renaming
import JsxVNode.Proofs.Lockstep
import JsxVNode.Proofs.Reordering
import JsxVNode.Proofs.Constant
import JsxVNode.Proofs.Elision
import JsxVNode.Proofs.ChildFlags
import JsxVNode.Proofs.Hoisting
import JsxVNode.Proofs.ChildKeys
import JsxVNode.Proofs.Collapse
import JsxVNode.Proofs.LiteralReading
import JsxVNode.Proofs.SourceParts
import JsxVNode.Proofs.LiteralSyntax
import JsxVNode.Proofs.EscapeGrammar
import JsxVNode.Proofs.CacheKey
import JsxVNode.Proofs.AttributeNames
import JsxVNode.Proofs.PathComponents
import JsxVNode.Proofs.OutputPaths
