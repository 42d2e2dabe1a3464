import DiagnosticReport.Checker
import DiagnosticReport.CommandLine
import DiagnosticReport.Compiler
import DiagnosticReport.Config
import DiagnosticReport.Console
import DiagnosticReport.Decimal
import DiagnosticReport.FileTree
import DiagnosticReport.Filter
import DiagnosticReport.Frame
import DiagnosticReport.Frame.Checked
import DiagnosticReport.Json.Field
import DiagnosticReport.Json.Read
import DiagnosticReport.Json.Value
import DiagnosticReport.Json.Write
import DiagnosticReport.LanguageServer
import DiagnosticReport.Level
import DiagnosticReport.Linter
import DiagnosticReport.Location
import DiagnosticReport.Main
import DiagnosticReport.Overlay
import DiagnosticReport.Path
import DiagnosticReport.Record
import DiagnosticReport.Report
import DiagnosticReport.Summary
import DiagnosticReport.Terminal
import DiagnosticReport.Text.Blank
import DiagnosticReport.Text.CharacterSet
import DiagnosticReport.Text.DecimalDigit
import DiagnosticReport.Text.Escape
import DiagnosticReport.Text.Line
import DiagnosticReport.Text.Style
import DiagnosticReport.Text.Utf8
import DiagnosticReport.Toml.Document
import DiagnosticReport.Toml.Read
import DiagnosticReport.Toml.Scalar
import DiagnosticReport.Toml.Value
import DiagnosticReport.Toml.Write
import DiagnosticReport.Uri.Address
import DiagnosticReport.Uri.Host
import DiagnosticReport.Uri.Name.CharacterTable
import DiagnosticReport.Uri.Name.Composition
import DiagnosticReport.Uri.Name.CompositionTable
import DiagnosticReport.Uri.Name.Direction
import DiagnosticReport.Uri.Name.Joiner
import DiagnosticReport.Uri.Name.Label
import DiagnosticReport.Uri.Name.Punycode
import DiagnosticReport.Uri.Name.Spelling
import DiagnosticReport.Uri.Name.SpellingTable
import DiagnosticReport.Uri.Percent
import DiagnosticReport.Uri.Resolve
import DiagnosticReport.Proofs.Text.EscapeSeparation
import DiagnosticReport.Proofs.Frame.PlainFrame
import DiagnosticReport.Proofs.Location
import DiagnosticReport.Proofs.Frame.Shown
import DiagnosticReport.Proofs.Frame.Checked
import DiagnosticReport.Proofs.Text.Span
import DiagnosticReport.Proofs.Compiler.Pointing
import DiagnosticReport.Proofs.Report.Merge
import DiagnosticReport.Proofs.Report.Plan
import DiagnosticReport.Proofs.Report.Schedule
import DiagnosticReport.Proofs.Report.Interleaving
import DiagnosticReport.Proofs.Text.LineEnding
import DiagnosticReport.Proofs.Compiler.LineEnding
import DiagnosticReport.Proofs.Decimal
import DiagnosticReport.Proofs.Summary
import DiagnosticReport.Proofs.Terminal
import DiagnosticReport.Proofs.Report.Counting
import DiagnosticReport.Proofs.Report.Projection
import DiagnosticReport.Proofs.Json.NumberText
import DiagnosticReport.Proofs.Json.StringText
import DiagnosticReport.Proofs.Json.Spelling
import DiagnosticReport.Proofs.Json.Plain
import DiagnosticReport.Proofs.Json.Field
import DiagnosticReport.Proofs.Json.Readable
import DiagnosticReport.Proofs.Faithful
import DiagnosticReport.Proofs.Compiler.Nesting
import DiagnosticReport.Proofs.Document
import DiagnosticReport.Proofs.Text.Utf8
import DiagnosticReport.Proofs.Text.EscapeResidue
import DiagnosticReport.Proofs.FileTree
import DiagnosticReport.Proofs.Config
import DiagnosticReport.Proofs.Overlay
import DiagnosticReport.Proofs.Console
import DiagnosticReport.Proofs.Json.OneLine
import DiagnosticReport.Proofs.Toml.StringText
import DiagnosticReport.Proofs.Toml.Line
import DiagnosticReport.Proofs.Filter
import DiagnosticReport.Proofs.Report.Intake
import DiagnosticReport.Proofs.Console.Session
import DiagnosticReport.Proofs.Frame.Rows
import DiagnosticReport.Proofs.Frame.Window
import DiagnosticReport.Proofs.Frame.Carets
import DiagnosticReport.Proofs.Text.OffsetOrder
import DiagnosticReport.Proofs.Frame.Underline
import DiagnosticReport.Proofs.Compiler.Placement
import DiagnosticReport.Proofs.Compiler.SeveralLines
import DiagnosticReport.Proofs.Compiler.Explanation
import DiagnosticReport.Proofs.Report.Notifications
import DiagnosticReport.Proofs.Text.Parts
import DiagnosticReport.Proofs.Text.Pattern
import DiagnosticReport.Proofs.Text.EscapePattern
import DiagnosticReport.Proofs.Text.Style
import DiagnosticReport.Proofs.Colors
import DiagnosticReport.Proofs.Path
import DiagnosticReport.Proofs.Config.Search
import DiagnosticReport.Proofs.Linter
import DiagnosticReport.Proofs.Text.EscapeRows
import DiagnosticReport.Proofs.Text.Trim
import DiagnosticReport.Proofs.Filter.Laws
import DiagnosticReport.Proofs.Config.Install
import DiagnosticReport.Proofs.Uri.Percent
import DiagnosticReport.Proofs.Uri.Document
