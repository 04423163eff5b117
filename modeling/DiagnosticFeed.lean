import DiagnosticFeed.Analyzer.Bench
import DiagnosticFeed.Analyzer.Client
import DiagnosticFeed.Analyzer.Run
import DiagnosticFeed.CommandLine.Arguments
import DiagnosticFeed.CommandLine.Check
import DiagnosticFeed.CommandLine.Grammar
import DiagnosticFeed.CommandLine.Program
import DiagnosticFeed.Config.Check
import DiagnosticFeed.Config.Datum
import DiagnosticFeed.Config.Field
import DiagnosticFeed.Config.Installed
import DiagnosticFeed.Config.Layer
import DiagnosticFeed.Config.Library
import DiagnosticFeed.Config.Load
import DiagnosticFeed.Config.Naming
import DiagnosticFeed.Config.Reference
import DiagnosticFeed.Config.Settings
import DiagnosticFeed.Config.WholeNumber
import DiagnosticFeed.Decimal.Places
import DiagnosticFeed.Decimal.Ratio
import DiagnosticFeed.Decimal.Reading
import DiagnosticFeed.Decimal.Shortest
import DiagnosticFeed.Diagnostic
import DiagnosticFeed.Disk
import DiagnosticFeed.Display
import DiagnosticFeed.Document
import DiagnosticFeed.Entrypoint
import DiagnosticFeed.Event
import DiagnosticFeed.Failure
import DiagnosticFeed.FilePath
import DiagnosticFeed.Fix
import DiagnosticFeed.FixRegistry
import DiagnosticFeed.Json.Display
import DiagnosticFeed.Json.Reader
import DiagnosticFeed.Json.Value
import DiagnosticFeed.Json.Writer
import DiagnosticFeed.Keyed
import DiagnosticFeed.Log.Notice
import DiagnosticFeed.Log.Record
import DiagnosticFeed.Log.Scope
import DiagnosticFeed.Log.Setup
import DiagnosticFeed.Log.Template
import DiagnosticFeed.Main
import DiagnosticFeed.Metrics.Histogram
import DiagnosticFeed.Metrics.Ledger
import DiagnosticFeed.Metrics.Metric
import DiagnosticFeed.Metrics.Pipeline
import DiagnosticFeed.Metrics.Spread
import DiagnosticFeed.Proofs.CommandLine.Configuration
import DiagnosticFeed.Proofs.CommandLine.Dump
import DiagnosticFeed.Proofs.CommandLine.Opening
import DiagnosticFeed.Proofs.CommandLine.Verdict
import DiagnosticFeed.Proofs.Config.Data
import DiagnosticFeed.Proofs.Config.Environment
import DiagnosticFeed.Proofs.Config.Leaf
import DiagnosticFeed.Proofs.Config.Precedence
import DiagnosticFeed.Proofs.Config.References
import DiagnosticFeed.Proofs.Config.Unforeseen
import DiagnosticFeed.Proofs.Decimal.Packing
import DiagnosticFeed.Proofs.Decimal.Rounding
import DiagnosticFeed.Proofs.Decimal.Sums
import DiagnosticFeed.Proofs.Entrypoints
import DiagnosticFeed.Proofs.Fallible
import DiagnosticFeed.Proofs.Files
import DiagnosticFeed.Proofs.FixHistory
import DiagnosticFeed.Proofs.Folders
import DiagnosticFeed.Proofs.Json.Comparison
import DiagnosticFeed.Proofs.Json.Reprint
import DiagnosticFeed.Proofs.Keyed
import DiagnosticFeed.Proofs.Lifecycle
import DiagnosticFeed.Proofs.LineEnds
import DiagnosticFeed.Proofs.Metrics.Counters
import DiagnosticFeed.Proofs.Metrics.Ledgers
import DiagnosticFeed.Proofs.NormalForm
import DiagnosticFeed.Proofs.Paths
import DiagnosticFeed.Proofs.QuickFixes
import DiagnosticFeed.Proofs.Reopening
import DiagnosticFeed.Proofs.Schedule.Chronicle
import DiagnosticFeed.Proofs.Schedule.Coalescer
import DiagnosticFeed.Proofs.Schedule.Crew
import DiagnosticFeed.Proofs.Schedule.Effort
import DiagnosticFeed.Proofs.Schedule.Idle
import DiagnosticFeed.Proofs.Schedule.Machine
import DiagnosticFeed.Proofs.Schedule.Punctuality
import DiagnosticFeed.Proofs.Schedule.Record
import DiagnosticFeed.Proofs.Schedule.Supply
import DiagnosticFeed.Proofs.Schedule.Waiting
import DiagnosticFeed.Proofs.Session.Accounts
import DiagnosticFeed.Proofs.Session.Action
import DiagnosticFeed.Proofs.Session.Aliases
import DiagnosticFeed.Proofs.Session.Attribution
import DiagnosticFeed.Proofs.Session.Availability
import DiagnosticFeed.Proofs.Session.Books
import DiagnosticFeed.Proofs.Session.Buffers
import DiagnosticFeed.Proofs.Session.Closing
import DiagnosticFeed.Proofs.Session.Convergence
import DiagnosticFeed.Proofs.Session.Counted
import DiagnosticFeed.Proofs.Session.Current
import DiagnosticFeed.Proofs.Session.Decision
import DiagnosticFeed.Proofs.Session.Filing
import DiagnosticFeed.Proofs.Session.Frame
import DiagnosticFeed.Proofs.Session.KnownFixes
import DiagnosticFeed.Proofs.Session.LastWord
import DiagnosticFeed.Proofs.Session.Move
import DiagnosticFeed.Proofs.Session.Offers
import DiagnosticFeed.Proofs.Session.OnTrack
import DiagnosticFeed.Proofs.Session.Overtaking
import DiagnosticFeed.Proofs.Session.Progress
import DiagnosticFeed.Proofs.Session.Publication
import DiagnosticFeed.Proofs.Session.QuietPeriod
import DiagnosticFeed.Proofs.Session.Reconfiguration
import DiagnosticFeed.Proofs.Session.Schedule
import DiagnosticFeed.Proofs.Session.Scopes
import DiagnosticFeed.Proofs.Session.Snapshots
import DiagnosticFeed.Proofs.Session.Spawns
import DiagnosticFeed.Proofs.Session.Targets
import DiagnosticFeed.Proofs.Session.Unattended
import DiagnosticFeed.Proofs.Session.Unavailability
import DiagnosticFeed.Proofs.Session.Version
import DiagnosticFeed.Proofs.Session.Whereabouts
import DiagnosticFeed.Proofs.SnapshotNames
import DiagnosticFeed.Proofs.Wire.Clamping
import DiagnosticFeed.Proofs.Wire.Items
import DiagnosticFeed.Proofs.Wire.Numerals
import DiagnosticFeed.Proofs.Wire.Registration
import DiagnosticFeed.Proofs.Wire.RoundTrip
import DiagnosticFeed.Proofs.Wire.Spellings
import DiagnosticFeed.Proofs.Wire.Within
import DiagnosticFeed.Proofs.Yaml.Mappings
import DiagnosticFeed.Quantity
import DiagnosticFeed.QuickFix
import DiagnosticFeed.Report
import DiagnosticFeed.Report.Reading
import DiagnosticFeed.Schedule.Coalescer
import DiagnosticFeed.Schedule.Debounce
import DiagnosticFeed.Schedule.Limit
import DiagnosticFeed.Schedule.Machine
import DiagnosticFeed.Schedule.Tracker
import DiagnosticFeed.Session.Attempt
import DiagnosticFeed.Session.Clockwork
import DiagnosticFeed.Session.Deadline
import DiagnosticFeed.Session.State
import DiagnosticFeed.Severity
import DiagnosticFeed.Snapshot
import DiagnosticFeed.Span
import DiagnosticFeed.Target
import DiagnosticFeed.Text.Base64
import DiagnosticFeed.Text.Blank
import DiagnosticFeed.Text.Classes
import DiagnosticFeed.Text.LetterCase
import DiagnosticFeed.Text.Lines
import DiagnosticFeed.Text.Quoted
import DiagnosticFeed.Text.Split
import DiagnosticFeed.Text.Utf8
import DiagnosticFeed.Text.WordEnd
import DiagnosticFeed.Time
import DiagnosticFeed.Toml.Document
import DiagnosticFeed.Toml.Moment
import DiagnosticFeed.Toml.Scalar
import DiagnosticFeed.Toml.Value
import DiagnosticFeed.Version
import DiagnosticFeed.Wire.Coordinate
import DiagnosticFeed.Wire.Intake
import DiagnosticFeed.Wire.Location
import DiagnosticFeed.Wire.Payload
import DiagnosticFeed.Workspace
import DiagnosticFeed.Yaml.Cursor
import DiagnosticFeed.Yaml.Date
import DiagnosticFeed.Yaml.Fault
import DiagnosticFeed.Yaml.Form
import DiagnosticFeed.Yaml.Graph
import DiagnosticFeed.Yaml.Meaning
import DiagnosticFeed.Yaml.Merge
import DiagnosticFeed.Yaml.Node
import DiagnosticFeed.Yaml.Quoted
import DiagnosticFeed.Yaml.Scalar
import DiagnosticFeed.Yaml.Tag
import DiagnosticFeed.Yaml.Token
