import PatternLint.Main
import PatternLint.Proofs.Command.Collecting
import PatternLint.Proofs.Command.Verdict
import PatternLint.Proofs.Glob.Spelling
import PatternLint.Proofs.Glob.Splitting
import PatternLint.Proofs.Json.Reading
import PatternLint.Proofs.Json.Spelling
import PatternLint.Proofs.Json.Token
import PatternLint.Proofs.Layout.Wrap
import PatternLint.Proofs.Lint.Files
import PatternLint.Proofs.Lint.LineStarts
import PatternLint.Proofs.Lint.ReportedPaths
import PatternLint.Proofs.Lint.Scoping
import PatternLint.Proofs.Lint.Spans
import PatternLint.Proofs.Lint.Strict
import PatternLint.Proofs.Path
import PatternLint.Proofs.Pattern.Literal
import PatternLint.Proofs.Position.Append
import PatternLint.Proofs.Position.Walk
import PatternLint.Proofs.Registry
import PatternLint.Proofs.Registry.Loading
import PatternLint.Proofs.Report.Commands
import PatternLint.Proofs.Report.Payloads
import PatternLint.Proofs.Report.Printing
import PatternLint.Proofs.Report.Verdict
import PatternLint.Proofs.RuleSet.Canonical
import PatternLint.Proofs.RuleSet.Fields
import PatternLint.Proofs.RuleSet.Isolation
import PatternLint.Proofs.RuleSet.JsonFiles
import PatternLint.Proofs.RuleSet.Loading
import PatternLint.Proofs.RuleSet.Refusal
import PatternLint.Proofs.Schema
import PatternLint.Proofs.Text.LetterCase
import PatternLint.Proofs.Yaml.Faults
import PatternLint.Proofs.Yaml.Lexing
import PatternLint.Proofs.Yaml.Nodes
import PatternLint.Proofs.Yaml.Number
import PatternLint.Proofs.Yaml.Portable
import PatternLint.Proofs.Yaml.Scalar
import PatternLint.Proofs.Yaml.Walk
import PatternLint.Proofs.Lint.Headlines
import PatternLint.Proofs.Layout.Markup
import PatternLint.Proofs.Layout.Pictures
import PatternLint.Proofs.Layout.Stretches
import PatternLint.Proofs.Command.Messages
