import TreeLint.CommandLine.Arguments
import TreeLint.CommandLine.Files
import TreeLint.CommandLine.Listing
import TreeLint.CommandLine.Run
import TreeLint.Config.Basic
import TreeLint.Config.Document
import TreeLint.Config.Load
import TreeLint.Config.Merge
import TreeLint.Config.Query
import TreeLint.Config.Rendering
import TreeLint.Config.Setting
import TreeLint.Config.Settings
import TreeLint.Credential.Message
import TreeLint.Credential.Placeholder
import TreeLint.Credential.UserInfo
import TreeLint.Credential.WordSet
import TreeLint.Decimal.Layout
import TreeLint.Decimal.Nearest
import TreeLint.Decimal.Places
import TreeLint.Decimal.Shortest
import TreeLint.Distinct
import TreeLint.Engine
import TreeLint.Engine.Session
import TreeLint.Glob.Match
import TreeLint.Glob.Pattern
import TreeLint.Grammar.Assignment
import TreeLint.Grammar.Basic
import TreeLint.Grammar.Csharp
import TreeLint.Grammar.Expression
import TreeLint.Grammar.Name
import TreeLint.Grammar.VisualBasic
import TreeLint.Json.Number
import TreeLint.Json.Printer
import TreeLint.Json.Reader
import TreeLint.Json.Record
import TreeLint.Json.Token
import TreeLint.Json.Value
import TreeLint.Main
import TreeLint.Output.Format
import TreeLint.Output.Formatter
import TreeLint.Output.Json
import TreeLint.Output.Sarif
import TreeLint.Output.Style
import TreeLint.Output.Text
import TreeLint.Output.Timing
import TreeLint.Path.Component
import TreeLint.Path.Expansion
import TreeLint.Path.FileTree
import TreeLint.Path.Wildcard
import TreeLint.Report.Diagnostic
import TreeLint.Report.Duration
import TreeLint.Report.Severity
import TreeLint.Report.Summary
import TreeLint.Rule.Catalogue
import TreeLint.Rule.Condition
import TreeLint.Rule.Descriptor
import TreeLint.Rule.EmptyMethod
import TreeLint.Rule.GenericParameters
import TreeLint.Rule.HardcodedCredentials
import TreeLint.Rule.LoopCounter
import TreeLint.Rule.Registry
import TreeLint.Rule.SystemClock
import TreeLint.Source.Builder
import TreeLint.Source.Call
import TreeLint.Source.Document
import TreeLint.Source.Language
import TreeLint.Source.Unit
import TreeLint.Symbols.Constant
import TreeLint.Symbols.Symbol
import TreeLint.Syntax.Arena
import TreeLint.Syntax.Node
import TreeLint.Syntax.Span
import TreeLint.Syntax.Tree
import TreeLint.Syntax.Trivia
import TreeLint.Text.Blank
import TreeLint.Text.CamelCase
import TreeLint.Text.Folding
import TreeLint.Text.Hex
import TreeLint.Text.Letter
import TreeLint.Text.Lowercase
import TreeLint.Text.Piece
import TreeLint.Text.Quoted
import TreeLint.Text.Run
import TreeLint.Text.WordChar
import TreeLint.Watch
import TreeLint.Yaml.Cursor
import TreeLint.Yaml.Node
import TreeLint.Yaml.Plain
import TreeLint.Yaml.Printer
import TreeLint.Yaml.Scalar
import TreeLint.Yaml.Token
import TreeLint.Proofs.Report.Order
import TreeLint.Proofs.Report.Merging
import TreeLint.Proofs.Engine.Appending
import TreeLint.Proofs.Engine.Counting
import TreeLint.Proofs.Engine.Filtering
import TreeLint.Proofs.Engine.Session
import TreeLint.Proofs.Syntax.Nesting
import TreeLint.Proofs.Syntax.Tables
import TreeLint.Proofs.Source.Building
import TreeLint.Proofs.Source.Loading
import TreeLint.Proofs.Rule.Scan
import TreeLint.Proofs.Source.Calling
import TreeLint.Proofs.Source.Outcome
import TreeLint.Proofs.Source.Drafting
import TreeLint.Proofs.Source.Numbering
import TreeLint.Proofs.Joining
import TreeLint.Proofs.Config.Merging
import TreeLint.Proofs.Config.Loading
import TreeLint.Proofs.Config.Layering
import TreeLint.Proofs.Path.Following
import TreeLint.Proofs.Config.Chains
import TreeLint.Proofs.Config.Overriding
import TreeLint.Proofs.Config.Parameters
import TreeLint.Proofs.Config.Words
import TreeLint.Proofs.Engine.Spelling
import TreeLint.Proofs.Report.Rearranging
import TreeLint.Proofs.Engine.Arranging
import TreeLint.Proofs.CommandLine.Flags
import TreeLint.Proofs.CommandLine.Reporting
import TreeLint.Proofs.Grammar.Mapping
import TreeLint.Proofs.Rule.Retelling
import TreeLint.Proofs.Syntax.Mapping
import TreeLint.Proofs.Grammar.Targets
import TreeLint.Proofs.Rule.Message
import TreeLint.Proofs.Rule.LoopCounter
import TreeLint.Proofs.Engine.Retelling
import TreeLint.Proofs.Engine.Renaming
import TreeLint.Proofs.Json.Spelling
import TreeLint.Proofs.Json.RoundTrip
import TreeLint.Proofs.Output.Grouping
import TreeLint.Proofs.Output.Agreement
import TreeLint.Proofs.Text.Searching
import TreeLint.Proofs.Text.Casing
import TreeLint.Proofs.Credential.Address
import TreeLint.Proofs.Credential.Pair
import TreeLint.Proofs.Credential.Reporting
import TreeLint.Proofs.Output.Regions
import TreeLint.Proofs.Text.Quoting
import TreeLint.Proofs.Credential.Alternatives
import TreeLint.Proofs.Syntax.Wrapping
import TreeLint.Proofs.Grammar.Unfolding
import TreeLint.Proofs.Grammar.Wrapping
import TreeLint.Proofs.Rule.Wording
import TreeLint.Proofs.Rule.CounterParentheses
import TreeLint.Proofs.Rule.CredentialParentheses
import TreeLint.Proofs.Selection
import TreeLint.Proofs.Text.Splitting
import TreeLint.Proofs.Grammar.Climbing
import TreeLint.Proofs.Rule.Access
import TreeLint.Proofs.Rule.ConstantPasswords
import TreeLint.Proofs.Rule.Positions
import TreeLint.Proofs.Syntax.Covering
import TreeLint.Proofs.Source.DocumentSpans
import TreeLint.Proofs.Source.Spanning
import TreeLint.Proofs.Source.Frontier
import TreeLint.Proofs.Source.Layout
import TreeLint.Proofs.Source.Attaching
import TreeLint.Proofs.Engine.HostFlags
import TreeLint.Proofs.Credential.WordList
import TreeLint.Proofs.Rule.Template
import TreeLint.Proofs.Rule.GenericParameters
import TreeLint.Proofs.Engine.SecondVisit
import TreeLint.Proofs.Rule.Recasing
import TreeLint.Proofs.Engine.Recasing
import TreeLint.Proofs.Grammar.Leaves
import TreeLint.Proofs.Syntax.Tokens
import TreeLint.Proofs.Grammar.Resolving
