import SqlLoom.Binary64
import SqlLoom.Binary64.Reader
import SqlLoom.Binding
import SqlLoom.Calendar
import SqlLoom.Columns
import SqlLoom.CommandLine
import SqlLoom.CommandLine.Help
import SqlLoom.CommandLine.Run
import SqlLoom.Compose
import SqlLoom.Condition
import SqlLoom.Config
import SqlLoom.Decimal
import SqlLoom.Error
import SqlLoom.Fixture
import SqlLoom.Fixture.File
import SqlLoom.Grammar
import SqlLoom.Grammar.Denote
import SqlLoom.Grammar.Dialect
import SqlLoom.Grammar.Keyword
import SqlLoom.Grammar.Lexer
import SqlLoom.Grammar.Outline
import SqlLoom.Grammar.Parser
import SqlLoom.Grammar.Parser.Alterations
import SqlLoom.Grammar.Parser.Calls
import SqlLoom.Grammar.Parser.Changes
import SqlLoom.Grammar.Parser.Columns
import SqlLoom.Grammar.Parser.Constructs
import SqlLoom.Grammar.Parser.Copies
import SqlLoom.Grammar.Parser.Definitions
import SqlLoom.Grammar.Parser.Exprs
import SqlLoom.Grammar.Parser.Objects
import SqlLoom.Grammar.Parser.Operands
import SqlLoom.Grammar.Parser.Queries
import SqlLoom.Grammar.Parser.Routines
import SqlLoom.Grammar.Parser.Rules
import SqlLoom.Grammar.Parser.Sessions
import SqlLoom.Grammar.Parser.Statements
import SqlLoom.Grammar.Parser.Tables
import SqlLoom.Grammar.Parser.Types
import SqlLoom.Grammar.Parser.Upkeep
import SqlLoom.Grammar.Printer
import SqlLoom.Grammar.Token
import SqlLoom.Grammar.Tree
import SqlLoom.Injection
import SqlLoom.Json
import SqlLoom.Json.Reader
import SqlLoom.Json.Shape
import SqlLoom.Json.Writer
import SqlLoom.Layout
import SqlLoom.Main
import SqlLoom.Nesting
import SqlLoom.Normalize
import SqlLoom.Pass
import SqlLoom.Preset
import SqlLoom.Projection
import SqlLoom.Projection.Reader
import SqlLoom.Proofs.Binding
import SqlLoom.Proofs.Fixture.Injection
import SqlLoom.Proofs.Layout.Parameters
import SqlLoom.Proofs.Layout.Reflow
import SqlLoom.Proofs.Normalize
import SqlLoom.Proofs.Projection.Objects
import SqlLoom.Proofs.Query.Reading
import SqlLoom.Proofs.Report.Keys
import SqlLoom.Proofs.Report.LexicalScope
import SqlLoom.Proofs.Report.Merging
import SqlLoom.Proofs.Statement.SetParameter
import SqlLoom.Proofs.Walk.Balance
import SqlLoom.Proofs.Walk.Entries
import SqlLoom.Render
import SqlLoom.Report.CommonTables
import SqlLoom.Report.Outputs
import SqlLoom.Report.Parameters
import SqlLoom.Report.Producers
import SqlLoom.Report.Schema
import SqlLoom.Report.SelectValues
import SqlLoom.Report.Selectable
import SqlLoom.Report.Tables
import SqlLoom.Scalar
import SqlLoom.Scope
import SqlLoom.Statement
import SqlLoom.Statement.Document
import SqlLoom.Statement.Edit
import SqlLoom.Statement.Equality
import SqlLoom.Statement.Exprs
import SqlLoom.Statement.Hoist
import SqlLoom.Statement.Outline
import SqlLoom.Statement.Sources
import SqlLoom.Text
import SqlLoom.Text.Alphabetic
import SqlLoom.Text.Blank
import SqlLoom.Text.Numeric
import SqlLoom.Text.Printable
import SqlLoom.Toml
import SqlLoom.Walk
import SqlLoom.Writing
import SqlLoom.Proofs.Operators.Spelling
import SqlLoom.Proofs.Operators.Dashes
import SqlLoom.Proofs.Operators.Formula
import SqlLoom.Proofs.Report.Columns
import SqlLoom.Proofs.Report.Omissions
import SqlLoom.Proofs.Injection.Meaning
import SqlLoom.Proofs.Report.ColumnGroups
import SqlLoom.Proofs.Report.Selectable
import SqlLoom.Proofs.Injection.Composition
import SqlLoom.Proofs.Injection.Nulls
import SqlLoom.Proofs.Injection.Names
import SqlLoom.Proofs.Projection.Parents
import SqlLoom.Proofs.Fixture.Clash
import SqlLoom.Proofs.Report.Dependencies
import SqlLoom.Proofs.Report.Materialization
import SqlLoom.Proofs.Statement.WithClause
import SqlLoom.Proofs.Report.Branches
import SqlLoom.Proofs.Report.Producers
import SqlLoom.Proofs.Report.LeftBranch
import SqlLoom.Proofs.Report.Repeats
import SqlLoom.Proofs.Nesting
import SqlLoom.Proofs.Fixture.File
import SqlLoom.Proofs.Quotation
import SqlLoom.Proofs.Grammar.TextOrder
import SqlLoom.Proofs.Grammar.DottedNames
import SqlLoom.Proofs.Grammar.FromClause
