import ErrorTemplates.CommandLine.Extract
import ErrorTemplates.CommandLine.Failure
import ErrorTemplates.CommandLine.Init
import ErrorTemplates.CommandLine.Parameter
import ErrorTemplates.CommandLine.Refusal
import ErrorTemplates.CommandLine.Request
import ErrorTemplates.CommandLine.Run
import ErrorTemplates.Config.Basic
import ErrorTemplates.Config.Discovery
import ErrorTemplates.Config.Read
import ErrorTemplates.Decimal.Magnitude
import ErrorTemplates.Decimal.Shortest
import ErrorTemplates.Diagnostic.Elapsed
import ErrorTemplates.Diagnostic.Issue
import ErrorTemplates.Diagnostic.Padding
import ErrorTemplates.Diagnostic.Report
import ErrorTemplates.Diagnostic.Styled
import ErrorTemplates.Diagnostic.Summary
import ErrorTemplates.Extraction.Call
import ErrorTemplates.Extraction.Constant
import ErrorTemplates.Extraction.Definition
import ErrorTemplates.Extraction.Progress
import ErrorTemplates.Extraction.Run
import ErrorTemplates.Extraction.Survey
import ErrorTemplates.Extraction.Table
import ErrorTemplates.Extraction.TableText
import ErrorTemplates.Extraction.Visit
import ErrorTemplates.Files.Host
import ErrorTemplates.Files.OsError
import ErrorTemplates.Files.Path
import ErrorTemplates.Files.Tree
import ErrorTemplates.Json.Fault
import ErrorTemplates.Json.Reader
import ErrorTemplates.Json.Text
import ErrorTemplates.Json.Value
import ErrorTemplates.Main
import ErrorTemplates.Program.Comments
import ErrorTemplates.Program.Language
import ErrorTemplates.Program.Node
import ErrorTemplates.Program.Parse
import ErrorTemplates.Program.Parse.Binding
import ErrorTemplates.Program.Parse.Expression
import ErrorTemplates.Program.Parse.Function
import ErrorTemplates.Program.Parse.Item
import ErrorTemplates.Program.Parse.Pattern
import ErrorTemplates.Program.Parse.Primary
import ErrorTemplates.Program.Parse.State
import ErrorTemplates.Program.Parse.Statement
import ErrorTemplates.Program.Print
import ErrorTemplates.Program.Print.Layout
import ErrorTemplates.Program.Print.Writer
import ErrorTemplates.Program.Shape
import ErrorTemplates.Program.Source
import ErrorTemplates.Program.Span
import ErrorTemplates.Program.SyntaxError
import ErrorTemplates.Program.Token
import ErrorTemplates.Program.Token.Escape
import ErrorTemplates.Program.Token.Gap
import ErrorTemplates.Program.Token.Literal
import ErrorTemplates.Program.Token.Scan
import ErrorTemplates.Proofs.CommandLine.Delivered
import ErrorTemplates.Proofs.CommandLine.Disregarded
import ErrorTemplates.Proofs.CommandLine.Keeping
import ErrorTemplates.Proofs.CommandLine.Loading
import ErrorTemplates.Proofs.CommandLine.Overrides
import ErrorTemplates.Proofs.CommandLine.Perform
import ErrorTemplates.Proofs.CommandLine.Rejected
import ErrorTemplates.Proofs.CommandLine.Reporting
import ErrorTemplates.Proofs.CommandLine.Stages
import ErrorTemplates.Proofs.CommandLine.Written
import ErrorTemplates.Proofs.Config.Discovery
import ErrorTemplates.Proofs.Config.Reading
import ErrorTemplates.Proofs.Diagnostic.Caret
import ErrorTemplates.Proofs.Diagnostic.Escapes
import ErrorTemplates.Proofs.Diagnostic.Layout
import ErrorTemplates.Proofs.Diagnostic.LocationOrder
import ErrorTemplates.Proofs.Diagnostic.Padding
import ErrorTemplates.Proofs.Extraction.Abort
import ErrorTemplates.Proofs.Extraction.Account
import ErrorTemplates.Proofs.Extraction.Alike
import ErrorTemplates.Proofs.Extraction.Arguments
import ErrorTemplates.Proofs.Extraction.Callees
import ErrorTemplates.Proofs.Extraction.Counters
import ErrorTemplates.Proofs.Extraction.Declarations
import ErrorTemplates.Proofs.Extraction.Encoding
import ErrorTemplates.Proofs.Extraction.ErrorCalls
import ErrorTemplates.Proofs.Extraction.Event
import ErrorTemplates.Proofs.Extraction.Folding
import ErrorTemplates.Proofs.Extraction.Following
import ErrorTemplates.Proofs.Extraction.Forms
import ErrorTemplates.Proofs.Extraction.InText
import ErrorTemplates.Proofs.Extraction.Insertion
import ErrorTemplates.Proofs.Extraction.Interchange
import ErrorTemplates.Proofs.Extraction.KeptDeclarations
import ErrorTemplates.Proofs.Extraction.Locating
import ErrorTemplates.Proofs.Extraction.Outcome
import ErrorTemplates.Proofs.Extraction.Outline
import ErrorTemplates.Proofs.Extraction.Parentheses
import ErrorTemplates.Proofs.Extraction.ProgramEvents
import ErrorTemplates.Proofs.Extraction.Recognition
import ErrorTemplates.Proofs.Extraction.Recording
import ErrorTemplates.Proofs.Extraction.Removal
import ErrorTemplates.Proofs.Extraction.Reordering
import ErrorTemplates.Proofs.Extraction.Reparenthesizing
import ErrorTemplates.Proofs.Extraction.Repeating
import ErrorTemplates.Proofs.Extraction.Rerun
import ErrorTemplates.Proofs.Extraction.Settled
import ErrorTemplates.Proofs.Extraction.Shift
import ErrorTemplates.Proofs.Extraction.SourceOrder
import ErrorTemplates.Proofs.Extraction.Stripping
import ErrorTemplates.Proofs.Extraction.Substitution
import ErrorTemplates.Proofs.Extraction.Taking
import ErrorTemplates.Proofs.Extraction.TextOrder
import ErrorTemplates.Proofs.Extraction.Thrown
import ErrorTemplates.Proofs.Extraction.Trace
import ErrorTemplates.Proofs.Extraction.Wrapped
import ErrorTemplates.Proofs.Extraction.Writing
import ErrorTemplates.Proofs.Files.Ancestors
import ErrorTemplates.Proofs.Files.Catalog
import ErrorTemplates.Proofs.Files.Faithful
import ErrorTemplates.Proofs.Files.Overlooked
import ErrorTemplates.Proofs.Files.Parent
import ErrorTemplates.Proofs.Files.Places
import ErrorTemplates.Proofs.Files.Semantics
import ErrorTemplates.Proofs.Json.Compact
import ErrorTemplates.Proofs.Json.Grammar
import ErrorTemplates.Proofs.Json.Kinds
import ErrorTemplates.Proofs.Json.Passing
import ErrorTemplates.Proofs.Json.Pretty
import ErrorTemplates.Proofs.Json.Reading
import ErrorTemplates.Proofs.Parse.Belonging
import ErrorTemplates.Proofs.Parse.BelongingExpressions
import ErrorTemplates.Proofs.Parse.BelongingPrograms
import ErrorTemplates.Proofs.Parse.Bindings
import ErrorTemplates.Proofs.Parse.Blanks
import ErrorTemplates.Proofs.Parse.Expressions
import ErrorTemplates.Proofs.Parse.Fragments
import ErrorTemplates.Proofs.Parse.Functions
import ErrorTemplates.Proofs.Parse.Operands
import ErrorTemplates.Proofs.Parse.Primitives
import ErrorTemplates.Proofs.Parse.Programs
import ErrorTemplates.Proofs.Parse.Reached
import ErrorTemplates.Proofs.Parse.Statements
import ErrorTemplates.Proofs.Text.ByteOrder
import ErrorTemplates.Proofs.Text.Lines
import ErrorTemplates.Proofs.Text.Positions
import ErrorTemplates.Proofs.Text.Widths
import ErrorTemplates.Proofs.Tree.Address
import ErrorTemplates.Proofs.Tree.Change
import ErrorTemplates.Proofs.Tree.Positions
import ErrorTemplates.Proofs.Tree.TextOrder
import ErrorTemplates.Text.Alphabetic
import ErrorTemplates.Text.Bytes
import ErrorTemplates.Text.CodeRange
import ErrorTemplates.Text.DisplayWidth
import ErrorTemplates.Text.Identifier
import ErrorTemplates.Text.Location
import ErrorTemplates.Text.Measure
import ErrorTemplates.Text.Numeric
import ErrorTemplates.Text.Quoted
import ErrorTemplates.Text.Similarity
import ErrorTemplates.Text.WordPart
import ErrorTemplates.Text.WordStart
