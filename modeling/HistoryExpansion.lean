import HistoryExpansion.Engine.Run
import HistoryExpansion.Main
import HistoryExpansion.Proofs.Json.Quoted
import HistoryExpansion.Proofs.Json.Reader
import HistoryExpansion.Proofs.Text.Utf8
import HistoryExpansion.Proofs.HistoryFile.Format
import HistoryExpansion.Proofs.Archive
import HistoryExpansion.Proofs.Engine.Task
import HistoryExpansion.Proofs.Engine.Journal
import HistoryExpansion.Proofs.Engine.Sessions
import HistoryExpansion.Proofs.Backend
import HistoryExpansion.Proofs.Engine.Log
import HistoryExpansion.Proofs.HistoryFile.Opening
import HistoryExpansion.Proofs.HistoryFile.Restart
import HistoryExpansion.Proofs.Path
import HistoryExpansion.Proofs.Disk
import HistoryExpansion.Proofs.Disk.Road
import HistoryExpansion.Proofs.Disk.Change
import HistoryExpansion.Proofs.HistoryFile.Persist
import HistoryExpansion.Proofs.HistoryFile.Rewrite
import HistoryExpansion.Proofs.HistoryFile.Append
import HistoryExpansion.Proofs.HistoryFile.Settled
import HistoryExpansion.Proofs.Archive.Order
import HistoryExpansion.Proofs.Text.Utf8Order
import HistoryExpansion.Proofs.HistoryFile.Canonical
import HistoryExpansion.Proofs.Text.Blank
import HistoryExpansion.Proofs.Config.Basic
import HistoryExpansion.Proofs.Expression
import HistoryExpansion.Proofs.Pattern
import HistoryExpansion.Proofs.Expression.Pattern
import HistoryExpansion.Proofs.Message
import HistoryExpansion.Proofs.Position
import HistoryExpansion.Proofs.Position.Numbering
import HistoryExpansion.Proofs.Lookup
import HistoryExpansion.Proofs.Engine.Records
import HistoryExpansion.Proofs.Engine.Relay
import HistoryExpansion.Proofs.Engine.Replay
import HistoryExpansion.Proofs.Engine.Retention
import HistoryExpansion.Proofs.Archive.Windows
import HistoryExpansion.Proofs.Archive.Lookup
import HistoryExpansion.Proofs.CommandLine.ReadOnly
import HistoryExpansion.Proofs.Text.Utf8Append
import HistoryExpansion.Proofs.Repl.Lines
import HistoryExpansion.Proofs.Repl.Line
import HistoryExpansion.Proofs.Repl.Loop
import HistoryExpansion.Proofs.Repl.Provenance
import HistoryExpansion.Proofs.CommandLine.Loop
import HistoryExpansion.Proofs.Engine.DryRun
import HistoryExpansion.Proofs.Text.Truncated
import HistoryExpansion.Proofs.Json.Truncated
import HistoryExpansion.Proofs.HistoryFile.Truncated
import HistoryExpansion.Proofs.Json.Grammar
import HistoryExpansion.Proofs.Json.Literal
import HistoryExpansion.Proofs.Json.Number
import HistoryExpansion.Proofs.Json.Begins
import HistoryExpansion.Proofs.Json.Skipped
import HistoryExpansion.Proofs.Json.Accepts
import HistoryExpansion.Proofs.HistoryFile.Grammar
import HistoryExpansion.Proofs.HistoryFile.Loading
import HistoryExpansion.Proofs.Lookup.Token
import HistoryExpansion.Proofs.Engine.Unresolved
import HistoryExpansion.Proofs.CommandLine.Listing
import HistoryExpansion.Proofs.Config.Scalar
import HistoryExpansion.Proofs.Config.Document
import HistoryExpansion.Proofs.Config.Loading
import HistoryExpansion.Proofs.CommandLine.Configuration
