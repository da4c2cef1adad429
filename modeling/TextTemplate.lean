import TextTemplate.Builtin
import TextTemplate.CommandLine
import TextTemplate.CommandLine.Options
import TextTemplate.Config
import TextTemplate.Data.Table
import TextTemplate.Decimal.Shortest
import TextTemplate.Decimal.Text
import TextTemplate.Delimiters
import TextTemplate.Diagnostic
import TextTemplate.Element
import TextTemplate.Element.Layout
import TextTemplate.Element.Scan
import TextTemplate.Engine
import TextTemplate.Evaluate
import TextTemplate.Expression
import TextTemplate.Expression.Parser
import TextTemplate.Handler
import TextTemplate.Handler.Definition
import TextTemplate.Main
import TextTemplate.Node
import TextTemplate.Node.Build
import TextTemplate.Node.Outline
import TextTemplate.Numeral
import TextTemplate.Problem
import TextTemplate.Proofs.Data.Table
import TextTemplate.Proofs.Element.Cut
import TextTemplate.Proofs.Element.Literal
import TextTemplate.Proofs.Element.Segmentation
import TextTemplate.Proofs.Expression.Operand
import TextTemplate.Proofs.Registry.ChildOwnership
import TextTemplate.Proofs.Render.Plain
import TextTemplate.Proofs.Text.Escape
import TextTemplate.Proofs.Text.Guard
import TextTemplate.Proofs.Text.Search
import TextTemplate.Registry
import TextTemplate.Render
import TextTemplate.Resource.Cache
import TextTemplate.Resource.FileSystem
import TextTemplate.Resource.Loader
import TextTemplate.Session
import TextTemplate.Store
import TextTemplate.Text.Case
import TextTemplate.Text.CaseTable
import TextTemplate.Text.Classes
import TextTemplate.Text.Printable
import TextTemplate.Text.PrintableTable
import TextTemplate.Text.Quoted
import TextTemplate.Text.Search
import TextTemplate.Token
import TextTemplate.Toml
import TextTemplate.Toml.Key
import TextTemplate.Toml.Layout
import TextTemplate.Toml.Moment
import TextTemplate.Toml.Quoted
import TextTemplate.Toml.Reader
import TextTemplate.Toml.Scalar
import TextTemplate.Value
import TextTemplate.Value.Json
import TextTemplate.Value.Path
import TextTemplate.Proofs.Registry.Lookup
import TextTemplate.Proofs.Registry.Autoload
import TextTemplate.Proofs.Registry.LiveBinding
import TextTemplate.Proofs.Registry.CurrentHandler
import TextTemplate.Proofs.Node.Forest
import TextTemplate.Proofs.Engine.Cache
import TextTemplate.Proofs.Engine.Standard
import TextTemplate.Proofs.Expression.Balance
import TextTemplate.Proofs.Expression.Fault
import TextTemplate.Proofs.Expression.Firm
import TextTemplate.Proofs.Expression.Grammar
import TextTemplate.Proofs.Expression.Lexing
import TextTemplate.Proofs.Expression.Cursor
import TextTemplate.Proofs.Expression.Numeral
import TextTemplate.Proofs.Expression.Part
import TextTemplate.Proofs.Expression.Phrase
import TextTemplate.Proofs.Expression.QuotedText
import TextTemplate.Proofs.Expression.Reading
import TextTemplate.Proofs.Expression.Spelling
import TextTemplate.Proofs.Expression.TagGrammar
import TextTemplate.Proofs.Node.Nesting
import TextTemplate.Proofs.Render.Isolation
import TextTemplate.Proofs.Render.Relation
import TextTemplate.Proofs.Render.Namespace
import TextTemplate.Proofs.Resource.SharedCache
import TextTemplate.Proofs.Render.Depth
import TextTemplate.Proofs.Render.SelfInclude
import TextTemplate.Proofs.Render.Inline
import TextTemplate.Proofs.Evaluate.Invariant
import TextTemplate.Proofs.Evaluate.Operator
import TextTemplate.Proofs.Evaluate.Lookup
import TextTemplate.Proofs.Render.NestedSpace
import TextTemplate.Proofs.Element.Placement
import TextTemplate.Proofs.Element.Recognition
import TextTemplate.Proofs.Evaluate.Recording
import TextTemplate.Proofs.Render.Repeatable
import TextTemplate.Proofs.CommandLine.Binding
import TextTemplate.Proofs.CommandLine.TemplatePath
import TextTemplate.Proofs.Resource.Confinement
import TextTemplate.Proofs.Render.Confinement
import TextTemplate.Proofs.Value.Equality
import TextTemplate.Proofs.Value.Path
