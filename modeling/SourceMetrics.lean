import SourceMetrics.Analyzer.Basic
import SourceMetrics.Analyzer.Batch
import SourceMetrics.Analyzer.File
import SourceMetrics.CommandLine.Help
import SourceMetrics.CommandLine.MediaType
import SourceMetrics.CommandLine.Request
import SourceMetrics.CommandLine.Run
import SourceMetrics.CommandLine.Summary
import SourceMetrics.CommandLine.Word
import SourceMetrics.Construct.Basic
import SourceMetrics.Construct.Scan
import SourceMetrics.Construct.Ternary
import SourceMetrics.Construct.Token
import SourceMetrics.Detection.Detector
import SourceMetrics.Detection.Profile
import SourceMetrics.Discovery.Filter
import SourceMetrics.Discovery.Folder
import SourceMetrics.Discovery.Walk
import SourceMetrics.Disk.Basic
import SourceMetrics.Disk.Memory
import SourceMetrics.Disk.Volume
import SourceMetrics.Entity.Basic
import SourceMetrics.Entity.Report
import SourceMetrics.Entity.Span
import SourceMetrics.FileResult.Basic
import SourceMetrics.FileResult.Recommendation
import SourceMetrics.FileResult.Report
import SourceMetrics.Ignore.Glob
import SourceMetrics.Ignore.Rule
import SourceMetrics.Json.Basic
import SourceMetrics.Json.Parser
import SourceMetrics.Language.CSharp
import SourceMetrics.Language.Cpp
import SourceMetrics.Language.Java
import SourceMetrics.Language.JavaScript
import SourceMetrics.Main
import SourceMetrics.Masking
import SourceMetrics.Number.Binary
import SourceMetrics.Number.Decimal
import SourceMetrics.Number.Total
import SourceMetrics.Outline.Block
import SourceMetrics.Outline.Dialect
import SourceMetrics.Outline.Parameters
import SourceMetrics.Outline.Scan
import SourceMetrics.Path
import SourceMetrics.Pattern
import SourceMetrics.Pattern.Reader
import SourceMetrics.Proofs.Analyzer.Cache
import SourceMetrics.Proofs.Analyzer.Cancellation
import SourceMetrics.Proofs.Analyzer.Language
import SourceMetrics.Proofs.Analyzer.Schedule
import SourceMetrics.Proofs.Construct.Below
import SourceMetrics.Proofs.Construct.BraceStyle
import SourceMetrics.Proofs.Construct.Braces
import SourceMetrics.Proofs.Construct.Candidate
import SourceMetrics.Proofs.Construct.Colon
import SourceMetrics.Proofs.Construct.Conditional
import SourceMetrics.Proofs.Construct.DoWhile
import SourceMetrics.Proofs.Construct.Indentation
import SourceMetrics.Proofs.Construct.Scan
import SourceMetrics.Proofs.Construct.Search
import SourceMetrics.Proofs.Construct.Ternary
import SourceMetrics.Proofs.Construct.Token
import SourceMetrics.Proofs.Construct.Visit
import SourceMetrics.Proofs.Construct.Wrapping
import SourceMetrics.Proofs.Detection.History
import SourceMetrics.Proofs.Detection.Removal
import SourceMetrics.Proofs.Discovery.Inclusion
import SourceMetrics.Proofs.Discovery.Supported
import SourceMetrics.Proofs.Discovery.Walk
import SourceMetrics.Proofs.Disk.Nesting
import SourceMetrics.Proofs.Disk.Volume
import SourceMetrics.Proofs.Masking
import SourceMetrics.Proofs.Masking.Contents
import SourceMetrics.Proofs.Masking.Idempotence
import SourceMetrics.Proofs.Masking.LineEndings
import SourceMetrics.Proofs.Masking.Lines
import SourceMetrics.Proofs.Masking.Literal
import SourceMetrics.Proofs.Masking.Pieces
import SourceMetrics.Proofs.Masking.Rounds
import SourceMetrics.Proofs.Outline.Accounting
import SourceMetrics.Proofs.Outline.Block
import SourceMetrics.Proofs.Outline.Cognitive
import SourceMetrics.Proofs.Outline.Fields
import SourceMetrics.Proofs.Outline.Forest
import SourceMetrics.Proofs.Outline.Found
import SourceMetrics.Proofs.Outline.Lookup
import SourceMetrics.Proofs.Outline.Matching
import SourceMetrics.Proofs.Outline.Parameters
import SourceMetrics.Proofs.Outline.Span
import SourceMetrics.Proofs.Outline.Statement
import SourceMetrics.Proofs.Outline.Unclosed
import SourceMetrics.Proofs.Outline.WellFormed
import SourceMetrics.Proofs.Pattern
import SourceMetrics.Proofs.Pattern.Reach
import SourceMetrics.Proofs.Registry.History
import SourceMetrics.Proofs.Registry.Lookup
import SourceMetrics.Proofs.Score.Append
import SourceMetrics.Proofs.Score.Cyclomatic
import SourceMetrics.Proofs.Score.Depth
import SourceMetrics.Proofs.Score.Lines
import SourceMetrics.Proofs.Score.Nesting
import SourceMetrics.Proofs.Settings.Options
import SourceMetrics.Proofs.Table
import SourceMetrics.Proofs.Tally.Grouping
import SourceMetrics.Proofs.Tally.Histogram
import SourceMetrics.Proofs.Tally.Ranking
import SourceMetrics.Proofs.Tally.Report
import SourceMetrics.Proofs.Text.Line
import SourceMetrics.Proofs.Text.LowerCase
import SourceMetrics.Registry.Basic
import SourceMetrics.Registry.Candidate
import SourceMetrics.Registry.Default
import SourceMetrics.Registry.Request
import SourceMetrics.Scanner
import SourceMetrics.Score.Basic
import SourceMetrics.Score.Cognitive
import SourceMetrics.Score.Cyclomatic
import SourceMetrics.Score.Maintainability
import SourceMetrics.Score.Measure
import SourceMetrics.Score.Nesting
import SourceMetrics.Settings.Basic
import SourceMetrics.Settings.Environment
import SourceMetrics.Settings.Options
import SourceMetrics.Settings.Thresholds
import SourceMetrics.Table
import SourceMetrics.Tally.Basic
import SourceMetrics.Tally.Histogram
import SourceMetrics.Tally.Reference
import SourceMetrics.Tally.Report
import SourceMetrics.Text.Alphanumeric
import SourceMetrics.Text.Blank
import SourceMetrics.Text.Digit
import SourceMetrics.Text.Integer
import SourceMetrics.Text.Line
import SourceMetrics.Text.LowerCase
import SourceMetrics.Text.Printable
import SourceMetrics.Text.Quoted
import SourceMetrics.Text.Range
import SourceMetrics.Text.Search
import SourceMetrics.Text.Utf8
