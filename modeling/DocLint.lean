import DocLint.Analysis
import DocLint.Analyzer
import DocLint.CommandLine.Arguments
import DocLint.CommandLine.Output
import DocLint.CommandLine.Run
import DocLint.Directive
import DocLint.DocBlock.Check
import DocLint.DocBlock.Grammar
import DocLint.DocBlock.Match
import DocLint.FileContent
import DocLint.FileTree
import DocLint.Glob
import DocLint.Header.Check
import DocLint.Header.Clause
import DocLint.Header.Layout
import DocLint.Header.Record
import DocLint.IgnoreFile
import DocLint.IgnoreFile.Pattern
import DocLint.Issue
import DocLint.Json
import DocLint.Kotlin.Comment
import DocLint.Kotlin.Grammar
import DocLint.Kotlin.Grammar.Basic
import DocLint.Kotlin.Grammar.Declaration
import DocLint.Kotlin.Grammar.Expression
import DocLint.Kotlin.Outline
import DocLint.Kotlin.Peg
import DocLint.Kotlin.Reader
import DocLint.Kotlin.Token
import DocLint.Kotlin.Tree
import DocLint.Log
import DocLint.Main
import DocLint.Outline
import DocLint.Path
import DocLint.Proofs.Check
import DocLint.Proofs.DocBlock.Language
import DocLint.Proofs.DocBlock.Line
import DocLint.Proofs.Header.Clause
import DocLint.Proofs.Header.Form
import DocLint.Proofs.Text.Cut
import DocLint.Proofs.Text.Lines
import DocLint.Report
import DocLint.Repository
import DocLint.Rule.Basic
import DocLint.Rule.Check
import DocLint.Rule.Selection
import DocLint.Settings
import DocLint.Settings.Starter
import DocLint.SettingsSource
import DocLint.SourceFile
import DocLint.SourceReader
import DocLint.Text.Alphanumeric
import DocLint.Text.Basic
import DocLint.Text.Invisible
import DocLint.Text.Quoted
import DocLint.Toml.Datetime
import DocLint.Toml.Document
import DocLint.Toml.Scalar
import DocLint.Toml.Value
import DocLint.Violation
import DocLint.Walk
import DocLint.Proofs.Header.Attribution
import DocLint.Proofs.Header.Values
import DocLint.Proofs.Header.Verdict
import DocLint.Proofs.Header.Overlooked
import DocLint.Proofs.Directive.Suppression
import DocLint.Proofs.Rule.Selection
import DocLint.Proofs.SourceFile
import DocLint.Proofs.Header.Label
import DocLint.Proofs.DocBlock.Skeleton
import DocLint.Proofs.Check.Run
import DocLint.Proofs.Header.LineEnds
import DocLint.Proofs.Toml.Keys
import DocLint.Proofs.Settings
import DocLint.Proofs.Rule.Disabled
import DocLint.Proofs.Sorting
import DocLint.Proofs.Path
import DocLint.Proofs.Path.Below
import DocLint.Proofs.Exclusion
import DocLint.Proofs.Report
import DocLint.Proofs.Analysis
import DocLint.Proofs.Directive.Locality
import DocLint.Proofs.Directive.Reason
import DocLint.Proofs.Header.Years
import DocLint.Proofs.Header.Author
import DocLint.Proofs.Header.Sample
import DocLint.Proofs.Text.Returns
import DocLint.Proofs.DocBlock.Mismatch
import DocLint.Proofs.DocBlock.TagLines
import DocLint.Proofs.DocBlock.Indentation
import DocLint.Proofs.Header.Stop
import DocLint.Proofs.Kotlin.Comment
import DocLint.Proofs.Kotlin.Opening
import DocLint.Proofs.Kotlin.Walk
import DocLint.Proofs.Directive.RoundTrip
import DocLint.Proofs.Header.Faults
import DocLint.Proofs.Header.Verbatim
import DocLint.Proofs.Exclusion.Added
import DocLint.Proofs.Path.Ancestors
import DocLint.Proofs.Path.Joined
import DocLint.Proofs.FileTree
import DocLint.Proofs.SettingsSource
import DocLint.Proofs.SettingsSource.Spelling
import DocLint.Proofs.Report.Order
import DocLint.Proofs.DocBlock.Steps
import DocLint.Proofs.Header.Reading
import DocLint.Proofs.SourceFile.Ranges
import DocLint.Proofs.Rule.Tables
