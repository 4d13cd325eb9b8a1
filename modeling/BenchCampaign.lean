import BenchCampaign.Arithmetic
import BenchCampaign.Baseline
import BenchCampaign.Chart.Fault
import BenchCampaign.Chart.File
import BenchCampaign.Chart.Geometry
import BenchCampaign.Chart.Saving
import BenchCampaign.Chart.Svg
import BenchCampaign.CommandLine.Campaign
import BenchCampaign.CommandLine.Drawing
import BenchCampaign.CommandLine.Ingest
import BenchCampaign.CommandLine.Options
import BenchCampaign.Configuration
import BenchCampaign.Decimal.Binary64
import BenchCampaign.Decimal.Reading
import BenchCampaign.Decimal.Shortest
import BenchCampaign.Decimal.Text
import BenchCampaign.Dispatch
import BenchCampaign.Driver
import BenchCampaign.Estimate
import BenchCampaign.Host.Executable
import BenchCampaign.Host.FileTree
import BenchCampaign.Host.RunnerCheck
import BenchCampaign.Host.Standard
import BenchCampaign.Json.Printer
import BenchCampaign.Json.Reader
import BenchCampaign.Json.Value
import BenchCampaign.Launch
import BenchCampaign.Log.Reading
import BenchCampaign.Log.Reconciliation
import BenchCampaign.Log.Segment
import BenchCampaign.Main
import BenchCampaign.NameTable
import BenchCampaign.Notice
import BenchCampaign.Plan
import BenchCampaign.Projection
import BenchCampaign.Proofs.Arithmetic.Greatest
import BenchCampaign.Proofs.Arithmetic.Rational
import BenchCampaign.Proofs.Arithmetic.Rounding
import BenchCampaign.Proofs.Attempts
import BenchCampaign.Proofs.Baseline.Relative
import BenchCampaign.Proofs.Binary64.Amount
import BenchCampaign.Proofs.Binary64.Denotation
import BenchCampaign.Proofs.Binary64.Magnitude
import BenchCampaign.Proofs.Binary64.Nearest
import BenchCampaign.Proofs.Binary64.Operations
import BenchCampaign.Proofs.Binary64.Order
import BenchCampaign.Proofs.Binary64.Packing
import BenchCampaign.Proofs.Binary64.Rounding
import BenchCampaign.Proofs.Binary64.Size
import BenchCampaign.Proofs.Chart.Attributes
import BenchCampaign.Proofs.Chart.Bars
import BenchCampaign.Proofs.Chart.Document
import BenchCampaign.Proofs.Chart.Escape
import BenchCampaign.Proofs.Chart.Finite
import BenchCampaign.Proofs.Chart.Markup
import BenchCampaign.Proofs.Chart.Numerals
import BenchCampaign.Proofs.Chart.Results
import BenchCampaign.Proofs.CommandLine.Campaign
import BenchCampaign.Proofs.CommandLine.Drawing
import BenchCampaign.Proofs.CommandLine.Ingest
import BenchCampaign.Proofs.CommandLine.Options
import BenchCampaign.Proofs.CommandLine.Source
import BenchCampaign.Proofs.Decimal.Numeral
import BenchCampaign.Proofs.Decimal.Plain
import BenchCampaign.Proofs.Dispatch.Attribution
import BenchCampaign.Proofs.Dispatch.Effect
import BenchCampaign.Proofs.Dispatch.Interruption
import BenchCampaign.Proofs.Dispatch.Sink
import BenchCampaign.Proofs.Dispatch.Stream
import BenchCampaign.Proofs.Estimate.Order
import BenchCampaign.Proofs.Host.Launches
import BenchCampaign.Proofs.Host.RunnerLaunch
import BenchCampaign.Proofs.Host.Writing
import BenchCampaign.Proofs.Json.Numbers
import BenchCampaign.Proofs.Json.Objects
import BenchCampaign.Proofs.Json.Written
import BenchCampaign.Proofs.Log.Agreement
import BenchCampaign.Proofs.Log.Concatenation
import BenchCampaign.Proofs.Log.CutOff
import BenchCampaign.Proofs.Log.Division
import BenchCampaign.Proofs.Log.Extract
import BenchCampaign.Proofs.Log.Fates
import BenchCampaign.Proofs.Log.Growth
import BenchCampaign.Proofs.Log.LineEnds
import BenchCampaign.Proofs.Log.Time
import BenchCampaign.Proofs.Log.Transcript
import BenchCampaign.Proofs.NameTable.Insertions
import BenchCampaign.Proofs.Plan.Distinct
import BenchCampaign.Proofs.Plan.Order
import BenchCampaign.Proofs.Plan.Positions
import BenchCampaign.Proofs.Plan.Projection
import BenchCampaign.Proofs.Plan.Runs
import BenchCampaign.Proofs.Record.Members
import BenchCampaign.Proofs.Record.RoundTrip
import BenchCampaign.Proofs.Record.Written
import BenchCampaign.Proofs.ResultSet.History
import BenchCampaign.Proofs.ResultSet.Means
import BenchCampaign.Proofs.Settings.Checks
import BenchCampaign.Proofs.Settings.Findings
import BenchCampaign.Proofs.Settings.Format
import BenchCampaign.Proofs.Settings.GuessedSpeed
import BenchCampaign.Proofs.Settings.ProjectedTime
import BenchCampaign.Proofs.Settings.Soundness
import BenchCampaign.Proofs.Space.Configurations
import BenchCampaign.Proofs.Text.Lines
import BenchCampaign.Proofs.Text.Occurrence
import BenchCampaign.Proofs.Text.Utf8
import BenchCampaign.Proofs.Text.Words
import BenchCampaign.Proofs.Yaml.Fields
import BenchCampaign.Proofs.Yaml.Shape
import BenchCampaign.Record
import BenchCampaign.Record.Reader
import BenchCampaign.ResultSet
import BenchCampaign.Selection
import BenchCampaign.Settings
import BenchCampaign.Settings.Loading
import BenchCampaign.Settings.Preflight
import BenchCampaign.Settings.Reader
import BenchCampaign.Shell.Arithmetic
import BenchCampaign.Shell.Builtin
import BenchCampaign.Shell.Builtin.Letters
import BenchCampaign.Shell.Builtin.Naming
import BenchCampaign.Shell.Builtin.Process
import BenchCampaign.Shell.Builtin.Progress
import BenchCampaign.Shell.Builtin.Reading
import BenchCampaign.Shell.Builtin.Text
import BenchCampaign.Shell.Builtin.Variables
import BenchCampaign.Shell.Channel
import BenchCampaign.Shell.CharacterClass
import BenchCampaign.Shell.Complaint
import BenchCampaign.Shell.Condition
import BenchCampaign.Shell.Edit
import BenchCampaign.Shell.Edit.Reader
import BenchCampaign.Shell.Edit.Run
import BenchCampaign.Shell.Expansion
import BenchCampaign.Shell.Format
import BenchCampaign.Shell.Format.Escape
import BenchCampaign.Shell.Format.Quantity
import BenchCampaign.Shell.Interpreter
import BenchCampaign.Shell.Job
import BenchCampaign.Shell.Launcher
import BenchCampaign.Shell.Numeral
import BenchCampaign.Shell.Octets
import BenchCampaign.Shell.Pattern
import BenchCampaign.Shell.Permission
import BenchCampaign.Shell.Program
import BenchCampaign.Shell.Reader
import BenchCampaign.Shell.Reader.Document
import BenchCampaign.Shell.Reader.Fault
import BenchCampaign.Shell.Reader.Lexeme
import BenchCampaign.Shell.Reader.Source
import BenchCampaign.Shell.Reader.Word
import BenchCampaign.Shell.Redirection
import BenchCampaign.Shell.Regex
import BenchCampaign.Shell.Regex.Reader
import BenchCampaign.Shell.Script
import BenchCampaign.Shell.Search
import BenchCampaign.Shell.Session
import BenchCampaign.Shell.Signal
import BenchCampaign.Shell.State
import BenchCampaign.Shell.Utility
import BenchCampaign.Shell.Utility.Copy
import BenchCampaign.Shell.Utility.Excerpt
import BenchCampaign.Shell.Utility.Expression
import BenchCampaign.Shell.Utility.File
import BenchCampaign.Shell.Utility.Lines
import BenchCampaign.Shell.Utility.Listing
import BenchCampaign.Shell.Utility.Options
import BenchCampaign.Shell.Utility.Order
import BenchCampaign.Shell.Utility.Path
import BenchCampaign.Shell.Utility.Plain
import BenchCampaign.Shell.Utility.Sequence
import BenchCampaign.Shell.Utility.Sift
import BenchCampaign.Shell.Utility.Stream
import BenchCampaign.Shell.Utility.Translate
import BenchCampaign.Shell.Utility.Work
import BenchCampaign.Space
import BenchCampaign.Tag
import BenchCampaign.Tag.Reader
import BenchCampaign.Text.Blank
import BenchCampaign.Text.Lines
import BenchCampaign.Text.Quoted
import BenchCampaign.Text.Search
import BenchCampaign.Text.Utf8
import BenchCampaign.Text.Visible
import BenchCampaign.Workload
import BenchCampaign.Yaml.Alias
import BenchCampaign.Yaml.Cursor
import BenchCampaign.Yaml.Document
import BenchCampaign.Yaml.Fields
import BenchCampaign.Yaml.Layout
import BenchCampaign.Yaml.Meaning
import BenchCampaign.Yaml.Node
import BenchCampaign.Yaml.NodeTag
import BenchCampaign.Yaml.Property
import BenchCampaign.Yaml.Reader
import BenchCampaign.Yaml.Scalar
import BenchCampaign.Yaml.Token
import BenchCampaign.Yaml.Value
