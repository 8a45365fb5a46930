import CallWatch.Ambient
import CallWatch.Call
import CallWatch.Chain.Basic
import CallWatch.Chain.Script
import CallWatch.Cli.Arguments
import CallWatch.Cli.Reply
import CallWatch.Config.Basic
import CallWatch.Config.Environment
import CallWatch.Config.Load
import CallWatch.Config.Overrides
import CallWatch.Config.Schema
import CallWatch.Config.Valid
import CallWatch.Demo
import CallWatch.Document
import CallWatch.Error
import CallWatch.Error.Codec
import CallWatch.File.Path
import CallWatch.File.Tree
import CallWatch.Host
import CallWatch.Html.Layout
import CallWatch.Html.Markup
import CallWatch.Html.Options
import CallWatch.Json.Basic
import CallWatch.Json.Document
import CallWatch.Json.Literal
import CallWatch.Json.Printer
import CallWatch.Json.Token
import CallWatch.Json.Tree
import CallWatch.Log.Event
import CallWatch.Log.Filter
import CallWatch.Log.Level
import CallWatch.Log.Pattern
import CallWatch.Main
import CallWatch.Monitor.Basic
import CallWatch.Monitor.Frame
import CallWatch.Monitor.Invocation
import CallWatch.Monitor.Report
import CallWatch.Monitor.Watch
import CallWatch.Name.Basic
import CallWatch.Name.Codec
import CallWatch.Name.Service
import CallWatch.Number.Binary64
import CallWatch.Number.Shortest
import CallWatch.Pipeline
import CallWatch.Program
import CallWatch.Proofs.Chain.Transparency
import CallWatch.Proofs.Monitor.Exactness
import CallWatch.Proofs.Monitor.Journal
import CallWatch.Proofs.Monitor.Numbering
import CallWatch.Proofs.Monitor.Renumbering
import CallWatch.Proofs.Monitor.Restart
import CallWatch.Proofs.Monitor.Stacks
import CallWatch.Record
import CallWatch.Text.Blank
import CallWatch.Text.Bytes
import CallWatch.Text.Hidden
import CallWatch.Text.Letter
import CallWatch.Text.Numeral
import CallWatch.Text.Pieces
import CallWatch.Text.Quoted
import CallWatch.Text.Ranges
import CallWatch.Time.Duration
import CallWatch.Time.Instant
import CallWatch.Toml.Printer
import CallWatch.Toml.Quote
import CallWatch.Toml.Scalar
import CallWatch.Toml.Statement
import CallWatch.Toml.Table
import CallWatch.Toml.Token
import CallWatch.Version
import CallWatch.Proofs.Monitor.Race.Steps
import CallWatch.Proofs.Monitor.Race.Threads
import CallWatch.Proofs.Monitor.Race.Safety
import CallWatch.Proofs.Monitor.Race.Rest
import CallWatch.Proofs.Monitor.Race.Whole
import CallWatch.Proofs.Monitor.Reports
import CallWatch.Proofs.Host.Commands
import CallWatch.Proofs.Host.Observation
import CallWatch.Proofs.Monitor.Interleaving
import CallWatch.Proofs.Html.Reading
import CallWatch.Proofs.Html.Grammar
import CallWatch.Proofs.Html.Recovery
import CallWatch.Proofs.Chain.Passage
import CallWatch.Proofs.Chain.Registration
import CallWatch.Proofs.Chain.Snapshot
import CallWatch.Proofs.Text.Numerals
import CallWatch.Proofs.Json.Scanning
import CallWatch.Proofs.Json.Printing
import CallWatch.Proofs.Toml.Quoting
import CallWatch.Proofs.Toml.Printing
import CallWatch.Proofs.Toml.Page
import CallWatch.Proofs.Config.Schema
import CallWatch.Proofs.Config.RoundTrip
import CallWatch.Proofs.Config.Precedence
import CallWatch.Proofs.Config.Agreement
import CallWatch.Proofs.Monitor.Registered
import CallWatch.Proofs.Host.Routines
import CallWatch.Proofs.Host.Scoping
import CallWatch.Proofs.Text.ByteOrder
import CallWatch.Proofs.Text.Trimming
import CallWatch.Proofs.Name.Grammar
import CallWatch.Proofs.Time.Writing
import CallWatch.Proofs.Time.Denotation
import CallWatch.Proofs.Html.Limits
import CallWatch.Proofs.Program.SingleMonitor
import CallWatch.Config.Watch
import CallWatch.Proofs.Records
import CallWatch.Proofs.Config.Validation
import CallWatch.Proofs.Pipeline.History
import CallWatch.Proofs.Documents
import CallWatch.Proofs.Json.Compact
import CallWatch.Proofs.Json.Stored
import CallWatch.Proofs.Demo.Crew
import CallWatch.Proofs.Demo.Sequence
import CallWatch.Proofs.Demo.Books
import CallWatch.Proofs.Demo.Progress
import CallWatch.Proofs.Demo.Balance
import CallWatch.Proofs.Config.Variables
import CallWatch.Proofs.Html.Nesting
import CallWatch.Proofs.Chain.Marking
import CallWatch.Proofs.Cli.ConfigCommands
import CallWatch.Proofs.Config.ProcessEnvironment
import CallWatch.Proofs.Monitor.PopOrder
