import QueryModel.Binary64.Basic
import QueryModel.Binary64.Decimal
import QueryModel.Binary64.Layout
import QueryModel.Binary64.Rounding
import QueryModel.Binary64.Scaling
import QueryModel.Binary64.Shortest
import QueryModel.Catalog.Entity
import QueryModel.Catalog.Operator
import QueryModel.Catalog.ScalarType
import QueryModel.Command.Basic
import QueryModel.Command.Line
import QueryModel.Command.Run
import QueryModel.Configuration.Basic
import QueryModel.Configuration.Directory
import QueryModel.Configuration.Reading
import QueryModel.Configuration.Schema
import QueryModel.Configuration.Writing
import QueryModel.Embeddable.Property
import QueryModel.Embeddable.Registry
import QueryModel.Embeddable.Samples
import QueryModel.Json.Basic
import QueryModel.Json.Document
import QueryModel.Json.Lexeme
import QueryModel.Json.Lexer
import QueryModel.Json.Number
import QueryModel.Json.Printer
import QueryModel.Json.Record
import QueryModel.Json.Schema
import QueryModel.Json.Value
import QueryModel.Main
import QueryModel.Planning.Analysis
import QueryModel.Planning.Error
import QueryModel.Planning.Literal
import QueryModel.Planning.Plan
import QueryModel.Planning.Restriction
import QueryModel.Proofs.Binary64.ReadBack
import QueryModel.Proofs.Binary64.Whole
import QueryModel.Proofs.Configuration.Defects
import QueryModel.Proofs.Configuration.Saved
import QueryModel.Proofs.Configuration.Written
import QueryModel.Proofs.Json.Lexing
import QueryModel.Proofs.Json.Numbers
import QueryModel.Proofs.Json.Records
import QueryModel.Proofs.Json.Spelling
import QueryModel.Proofs.Json.Tree
import QueryModel.Proofs.Json.Within
import QueryModel.Proofs.Outcome
import QueryModel.Proofs.Planning.Acceptance
import QueryModel.Proofs.Planning.Analysis
import QueryModel.Proofs.Planning.CacheKey
import QueryModel.Proofs.Planning.Determined
import QueryModel.Proofs.Planning.Failure
import QueryModel.Proofs.Planning.Injection
import QueryModel.Proofs.Planning.Literal
import QueryModel.Proofs.Planning.Meaning
import QueryModel.Proofs.Planning.Names
import QueryModel.Proofs.Planning.Parameters
import QueryModel.Proofs.Planning.Passes
import QueryModel.Proofs.Planning.Planned
import QueryModel.Proofs.Planning.Reanalysis
import QueryModel.Proofs.Planning.Redaction
import QueryModel.Proofs.Planning.Rejection
import QueryModel.Proofs.Planning.Repeated
import QueryModel.Proofs.Planning.Restriction
import QueryModel.Proofs.Planning.Typing
import QueryModel.Proofs.Planning.Unambiguous
import QueryModel.Proofs.Planning.WellFormed
import QueryModel.Proofs.Planning.WholeNumbers
import QueryModel.Proofs.Query.Alike
import QueryModel.Proofs.Query.Anonymous
import QueryModel.Proofs.Query.Building
import QueryModel.Proofs.Query.Complement
import QueryModel.Proofs.Query.Completion
import QueryModel.Proofs.Query.ContextLife
import QueryModel.Proofs.Query.Copy
import QueryModel.Proofs.Query.CopyStore
import QueryModel.Proofs.Query.Copying
import QueryModel.Proofs.Query.Dependence
import QueryModel.Proofs.Query.DerivedForms
import QueryModel.Proofs.Query.Distributed
import QueryModel.Proofs.Query.Extension
import QueryModel.Proofs.Query.IgnoredCase
import QueryModel.Proofs.Query.Leaves
import QueryModel.Proofs.Query.Memo
import QueryModel.Proofs.Query.Negation
import QueryModel.Proofs.Query.NormalForm
import QueryModel.Proofs.Query.Parameters
import QueryModel.Proofs.Query.Patterns
import QueryModel.Proofs.Query.Placed
import QueryModel.Proofs.Query.Positions
import QueryModel.Proofs.Query.PushMemory
import QueryModel.Proofs.Query.Redaction
import QueryModel.Proofs.Query.Scalars
import QueryModel.Proofs.Query.Sharing
import QueryModel.Proofs.Query.Statements
import QueryModel.Proofs.Query.Store
import QueryModel.Proofs.Query.Success
import QueryModel.Proofs.Query.Tokens
import QueryModel.Proofs.Query.Unambiguous
import QueryModel.Proofs.Query.WellShaped
import QueryModel.Proofs.Request.Parts
import QueryModel.Proofs.Request.Written
import QueryModel.Proofs.Session.History
import QueryModel.Proofs.Session.Reachable
import QueryModel.Proofs.SortedMap
import QueryModel.Proofs.Sql.Composition
import QueryModel.Proofs.Sql.Literals
import QueryModel.Proofs.Sql.Names
import QueryModel.Proofs.Sql.Placeholders
import QueryModel.Proofs.Sql.Redaction
import QueryModel.Proofs.Sql.Regrouped
import QueryModel.Proofs.Sql.Spelling
import QueryModel.Proofs.Sql.Truth
import QueryModel.Proofs.Sql.Unambiguous
import QueryModel.Proofs.Storage.Joined
import QueryModel.Proofs.Storage.Lasting
import QueryModel.Proofs.Text.Delimited
import QueryModel.Proofs.Text.SelfDelimiting
import QueryModel.Query.Building
import QueryModel.Query.Copy
import QueryModel.Query.Evaluation
import QueryModel.Query.Hql
import QueryModel.Query.Negation
import QueryModel.Query.Node
import QueryModel.Query.Outline
import QueryModel.Query.Parameters
import QueryModel.Query.Value
import QueryModel.Request.Basic
import QueryModel.Request.Reading
import QueryModel.Request.Schema
import QueryModel.Request.Writing
import QueryModel.Session.Basic
import QueryModel.Session.Run
import QueryModel.SortedMap
import QueryModel.Sql.Buffer
import QueryModel.Sql.Expression
import QueryModel.Sql.Layout
import QueryModel.Sql.Printer
import QueryModel.Storage.Basic
import QueryModel.Storage.FileTree
import QueryModel.Storage.Path
import QueryModel.Text.Escaped
import QueryModel.Text.Numeral
import QueryModel.Text.Quoted
import QueryModel.Truth
import QueryModel.Unicode.Blank
import QueryModel.Unicode.CaseTable
import QueryModel.Unicode.Lowercase
import QueryModel.Unicode.Printable
import QueryModel.Unicode.PrintableTable
import QueryModel.Unicode.Range
