import Scaffold.Base64
import Scaffold.Bundle.Basic
import Scaffold.Bundle.Codec
import Scaffold.Config.Basic
import Scaffold.Config.Codec
import Scaffold.Config.File
import Scaffold.Config.Tree
import Scaffold.Decimal.Layout
import Scaffold.Decimal.Nearest
import Scaffold.Decimal.Power
import Scaffold.Decimal.Shortest
import Scaffold.Dict
import Scaffold.Double.Bare
import Scaffold.Double.Basic
import Scaffold.Double.Pipeline
import Scaffold.Double.Script
import Scaffold.Emit.Basic
import Scaffold.Emit.Target
import Scaffold.Emit.Write
import Scaffold.Fields
import Scaffold.FileTree
import Scaffold.FileTree.Listing
import Scaffold.Instant
import Scaffold.Json.Basic
import Scaffold.Json.Codec
import Scaffold.Json.Number
import Scaffold.Json.Printer
import Scaffold.Json.Reader
import Scaffold.Lineup.Basic
import Scaffold.Lineup.Priority
import Scaffold.Lineup.Resolve
import Scaffold.Lineup.Run
import Scaffold.Logging
import Scaffold.Merge.Bundles
import Scaffold.Merge.Dependencies
import Scaffold.Merge.Strategy
import Scaffold.Options
import Scaffold.Path
import Scaffold.Pipeline.Activity
import Scaffold.Pipeline.Basic
import Scaffold.Pipeline.Run
import Scaffold.Pipeline.Stage
import Scaffold.Plugin.Basic
import Scaffold.Plugin.Registry
import Scaffold.Plugin.Stub
import Scaffold.Proofs.Bundle.Records
import Scaffold.Proofs.Config.Discovery
import Scaffold.Proofs.Config.Entries
import Scaffold.Proofs.Config.Problems
import Scaffold.Proofs.Config.Records
import Scaffold.Proofs.Config.Saved
import Scaffold.Proofs.Dict
import Scaffold.Proofs.Emit.Again
import Scaffold.Proofs.Emit.Apart
import Scaffold.Proofs.Emit.DryRun
import Scaffold.Proofs.Emit.Frame
import Scaffold.Proofs.Emit.Handling
import Scaffold.Proofs.Emit.Report
import Scaffold.Proofs.Emit.Runs
import Scaffold.Proofs.FileTree.Alters
import Scaffold.Proofs.FileTree.Directories
import Scaffold.Proofs.FileTree.Look
import Scaffold.Proofs.FileTree.Store
import Scaffold.Proofs.FileTree.Tidy
import Scaffold.Proofs.FileTree.Walks
import Scaffold.Proofs.Json.Magnitude
import Scaffold.Proofs.Json.Numbers
import Scaffold.Proofs.Json.Records
import Scaffold.Proofs.Json.Values
import Scaffold.Proofs.Keyed
import Scaffold.Proofs.Lineup.Distinct
import Scaffold.Proofs.Lineup.FailStop
import Scaffold.Proofs.Lineup.InTurn
import Scaffold.Proofs.Lineup.Middleware
import Scaffold.Proofs.Lineup.Packages
import Scaffold.Proofs.Lineup.Perform
import Scaffold.Proofs.Lineup.Priority
import Scaffold.Proofs.Lineup.Reordered
import Scaffold.Proofs.Lineup.Reread
import Scaffold.Proofs.Lineup.Resolution
import Scaffold.Proofs.Lineup.Selection
import Scaffold.Proofs.Lineup.Strategies
import Scaffold.Proofs.Lineup.WholeRun
import Scaffold.Proofs.Merge.Bundles
import Scaffold.Proofs.Merge.Dependencies
import Scaffold.Proofs.Merge.Files
import Scaffold.Proofs.Merge.Packages
import Scaffold.Proofs.Merge.Prevailing
import Scaffold.Proofs.Merge.Reference
import Scaffold.Proofs.Merge.Regroup
import Scaffold.Proofs.Path.Ancestors
import Scaffold.Proofs.Path.Confinement
import Scaffold.Proofs.Path.Spellings
import Scaffold.Proofs.Pipeline.Composition
import Scaffold.Proofs.Pipeline.Findings
import Scaffold.Proofs.Pipeline.Jobs
import Scaffold.Proofs.Pipeline.Stages
import Scaffold.Proofs.Plugin.Registrations
import Scaffold.Proofs.Schema.Bounds
import Scaffold.Proofs.Schema.FieldTypes
import Scaffold.Proofs.Schema.Hints
import Scaffold.Proofs.Schema.Mentions
import Scaffold.Proofs.Schema.Models
import Scaffold.Proofs.Schema.Records
import Scaffold.Proofs.Schema.Removal
import Scaffold.Proofs.Schema.RoundTrip
import Scaffold.Proofs.Schema.Warnings
import Scaffold.Proofs.Text.Backtracking
import Scaffold.Proofs.Text.Greedy
import Scaffold.Proofs.Text.Scanning
import Scaffold.Proofs.Text.Utf8
import Scaffold.Proofs.Toml.Normal
import Scaffold.Proofs.Toml.Reading
import Scaffold.Proofs.Version.Grammar
import Scaffold.Proofs.Version.Numbers
import Scaffold.Proofs.Version.Pattern
import Scaffold.Proofs.Version.Reading
import Scaffold.Proofs.Watch.Driving
import Scaffold.Proofs.Watch.Events
import Scaffold.Proofs.Watch.Moves
import Scaffold.Proofs.Watch.Stopping
import Scaffold.Proofs.Watch.Wakeups
import Scaffold.Report
import Scaffold.Schema.Basic
import Scaffold.Schema.Check
import Scaffold.Schema.Codec
import Scaffold.Schema.Document
import Scaffold.Schema.File
import Scaffold.Schema.Relations
import Scaffold.Source
import Scaffold.Text.Alphanumeric
import Scaffold.Text.Blank
import Scaffold.Text.ByteOffset
import Scaffold.Text.CodeRange
import Scaffold.Text.DecimalDigit
import Scaffold.Text.HexDigit
import Scaffold.Text.Numeral
import Scaffold.Text.Pattern.Atom
import Scaffold.Text.Pattern.CharClass
import Scaffold.Text.Pattern.Mode
import Scaffold.Text.Pattern.Reader
import Scaffold.Text.Printable
import Scaffold.Text.Quoted
import Scaffold.Text.Uppercase
import Scaffold.Text.Utf8
import Scaffold.Toml.Basic
import Scaffold.Toml.Codec
import Scaffold.Toml.Datetime
import Scaffold.Toml.Draft
import Scaffold.Toml.Printer
import Scaffold.Toml.Quoted
import Scaffold.Toml.Reader
import Scaffold.Toml.Scalar
import Scaffold.Version
import Scaffold.Watch.Basic
import Scaffold.Watch.Loop
import Scaffold.Watch.Session
