import LintBridge.Path.Basic
import LintBridge.Path.Normal
import LintBridge.PathMap
import LintBridge.Text.Blank
import LintBridge.Text.Alphanumeric
import LintBridge.Text.Quoted
import LintBridge.Decimal.Shortest
import LintBridge.Json.Writer
import LintBridge.Json.Skip
import LintBridge.Json.Tree
import LintBridge.Diagnostic.Set
import LintBridge.Publication
import LintBridge.Report.Conversion
import LintBridge.Display.Revision
import LintBridge.Event
import LintBridge.Jsonc.Document
import LintBridge.Settings.Document
import LintBridge.Session
import LintBridge.Disk
import LintBridge.Shell.Reader
import LintBridge.Shell.Pattern
import LintBridge.Shell.Format
import LintBridge.Shell.Utility
import LintBridge.Shell.Process
import LintBridge.CommandLine.Run
import LintBridge.Playback
import LintBridge.CommandLine.Places
import LintBridge.Main
import LintBridge.Proofs.Display.Replay
import LintBridge.Proofs.Display.Revision
import LintBridge.Proofs.Session.Contact
import LintBridge.Proofs.Session.Course
import LintBridge.Proofs.Session.Mirror
import LintBridge.Proofs.Session.Outcome
import LintBridge.Proofs.Path.Spelling
import LintBridge.Proofs.Path.Location
import LintBridge.Proofs.Report.Grouping
import LintBridge.Proofs.Session.Lint
import LintBridge.Proofs.Display.Interrupted
import LintBridge.Proofs.Session.Retry
import LintBridge.Proofs.Session.EmptyReports
import LintBridge.Proofs.Project.Root
import LintBridge.Proofs.Session.Places
import LintBridge.Proofs.Session.Target
import LintBridge.Proofs.Json.Grammar
import LintBridge.Proofs.Json.Scanning
import LintBridge.Proofs.Json.Reading
import LintBridge.Proofs.Json.Passing
import LintBridge.Proofs.Json.Records
import LintBridge.Proofs.Report.Spelling
import LintBridge.Proofs.Json.Layout
import LintBridge.Proofs.Json.Tree
import LintBridge.Proofs.Wire.Publication
import LintBridge.Proofs.Wire.Set
import LintBridge.Proofs.Wire.Event
import LintBridge.Proofs.Wire.Formats
import LintBridge.Proofs.Wire.Lines
import LintBridge.Proofs.Json.Steady
import LintBridge.Proofs.Json.Steady.Scanning
import LintBridge.Proofs.Json.Steady.Skipping
import LintBridge.Proofs.Json.Steady.Reading
import LintBridge.Proofs.Report.Truncation
import LintBridge.Proofs.Session.Settled
import LintBridge.Proofs.CommandLine.Serving
import LintBridge.Proofs.Json.Members
import LintBridge.Proofs.Settings.Schema
import LintBridge.Proofs.Jsonc.Scanning
import LintBridge.Proofs.Jsonc.Reading
import LintBridge.Proofs.Settings.RoundTrip
import LintBridge.Proofs.Path.Ancestors
import LintBridge.Proofs.Project.Nearest
import LintBridge.Proofs.Report.Exact
import LintBridge.Proofs.Display.Within
import LintBridge.Proofs.Session.Agreement
import LintBridge.Proofs.Project.Upward
import LintBridge.Proofs.Display.Chain
import LintBridge.Proofs.Session.Commuting
import LintBridge.Proofs.CommandLine.Verdict
import LintBridge.Proofs.Report.Positions
import LintBridge.Proofs.CommandLine.TextReport
import LintBridge.Proofs.Report.Options
import LintBridge.Proofs.Text.Utf8
import LintBridge.Proofs.Disk.Entries
import LintBridge.Proofs.CommandLine.Init
import LintBridge.Proofs.Path.Precedence
import LintBridge.Proofs.Diagnostic.Filling
import LintBridge.Proofs.Display.Census
import LintBridge.Proofs.Settings.Extension
