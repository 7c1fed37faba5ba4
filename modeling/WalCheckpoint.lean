import WalCheckpoint.Binary64
import WalCheckpoint.Binary64.Places
import WalCheckpoint.Binary64.Read
import WalCheckpoint.Binary64.Shortest
import WalCheckpoint.Config.File
import WalCheckpoint.Config.Layers
import WalCheckpoint.Config.Load
import WalCheckpoint.Document
import WalCheckpoint.Envelope.Schema
import WalCheckpoint.Files
import WalCheckpoint.Fleet
import WalCheckpoint.Inspection.Arguments
import WalCheckpoint.Inspection.Report
import WalCheckpoint.Inspection.Run
import WalCheckpoint.Inspection.Standard
import WalCheckpoint.Inspection.StoredOffset
import WalCheckpoint.Json.Read
import WalCheckpoint.Json.Write
import WalCheckpoint.Log.Event
import WalCheckpoint.Log.Record
import WalCheckpoint.Log.Session
import WalCheckpoint.Log.Sink
import WalCheckpoint.Lsn
import WalCheckpoint.Metrics
import WalCheckpoint.Offset
import WalCheckpoint.Recovery
import WalCheckpoint.Settings
import WalCheckpoint.Settings.Directives
import WalCheckpoint.Settings.Field
import WalCheckpoint.Settings.Issue
import WalCheckpoint.Settings.Library
import WalCheckpoint.Settings.VariableFile
import WalCheckpoint.Settings.Variables
import WalCheckpoint.Source
import WalCheckpoint.TableId
import WalCheckpoint.Text.Blank
import WalCheckpoint.Text.Broken
import WalCheckpoint.Text.Bytes
import WalCheckpoint.Text.Cased
import WalCheckpoint.Text.Digit
import WalCheckpoint.Text.Lines
import WalCheckpoint.Text.Lower
import WalCheckpoint.Text.Numeral
import WalCheckpoint.Text.Order
import WalCheckpoint.Text.Padded
import WalCheckpoint.Text.Printable
import WalCheckpoint.Text.Quoted
import WalCheckpoint.Text.Upper
import WalCheckpoint.Time.Date
import WalCheckpoint.Time.DateTime
import WalCheckpoint.Tracker
import WalCheckpoint.Value
import WalCheckpoint.Value.Display
import WalCheckpoint.Value.Order
import WalCheckpoint.Value.Overlay
import WalCheckpoint.Value.Template
import WalCheckpoint.Yaml.Cursor
import WalCheckpoint.Yaml.Document
import WalCheckpoint.Yaml.Node
import WalCheckpoint.Yaml.Outline
import WalCheckpoint.Yaml.Reader
import WalCheckpoint.Yaml.Scalar.Binary
import WalCheckpoint.Yaml.Scalar.Block
import WalCheckpoint.Yaml.Scalar.Number
import WalCheckpoint.Yaml.Scalar.Plain
import WalCheckpoint.Yaml.Scalar.Quoted
import WalCheckpoint.Yaml.Scalar.Timestamp
import WalCheckpoint.Yaml.Tag
import WalCheckpoint.Yaml.Token
import WalCheckpoint.Main
import WalCheckpoint.Proofs.Offset.RoundTrip
import WalCheckpoint.Proofs.Document
import WalCheckpoint.Proofs.Tracker.Step
import WalCheckpoint.Proofs.Tracker.Run
import WalCheckpoint.Proofs.Offset.Reading
import WalCheckpoint.Proofs.Tracker.Position
import WalCheckpoint.Proofs.Tracker.Snapshot
import WalCheckpoint.Proofs.Envelope.Contract
import WalCheckpoint.Proofs.Fleet.Run
import WalCheckpoint.Proofs.Fleet.Restart
import WalCheckpoint.Proofs.Envelope.Rebuild
import WalCheckpoint.Proofs.Offset.Refusal
import WalCheckpoint.Proofs.Tracker.Refusal
import WalCheckpoint.Proofs.Json.Image
import WalCheckpoint.Proofs.Time.Calendar
import WalCheckpoint.Proofs.Time.Iso
import WalCheckpoint.Proofs.Yaml.Keys
import WalCheckpoint.Proofs.Json.Escape
import WalCheckpoint.Proofs.Json.RoundTrip
import WalCheckpoint.Proofs.Log.Telling
import WalCheckpoint.Proofs.Inspection.Report
import WalCheckpoint.Proofs.Inspection.Step
import WalCheckpoint.Proofs.Inspection.Ending
import WalCheckpoint.Proofs.Inspection.Verdict
import WalCheckpoint.Proofs.Tracker.Recovery
import WalCheckpoint.Proofs.Binary64.Finite
import WalCheckpoint.Proofs.Metrics.Samples
import WalCheckpoint.Proofs.Tracker.Measured
import WalCheckpoint.Proofs.Fleet.Measured
import WalCheckpoint.Proofs.Yaml.Cursor
import WalCheckpoint.Proofs.Yaml.Lexeme
import WalCheckpoint.Proofs.Yaml.Numeral
import WalCheckpoint.Proofs.Yaml.FlowMapping
import WalCheckpoint.Proofs.Yaml.FlowReading
import WalCheckpoint.Proofs.Inspection.Persisted
import WalCheckpoint.Proofs.Settings.Given
import WalCheckpoint.Proofs.Settings.Variables
import WalCheckpoint.Proofs.Config.Load
import WalCheckpoint.Proofs.Text.Numeral
import WalCheckpoint.Proofs.Binary64.Exact
import WalCheckpoint.Proofs.Offset.Denoted
import WalCheckpoint.Proofs.Tracker.Resumption
import WalCheckpoint.Proofs.Settings.Unforeseen
import WalCheckpoint.Proofs.Settings.Unreadable
import WalCheckpoint.Proofs.Config.Failure
import WalCheckpoint.Proofs.Inspection.Configuration
import WalCheckpoint.Proofs.Value.SameKey
import WalCheckpoint.Proofs.Value.Keyed
import WalCheckpoint.Proofs.Value.Path
import WalCheckpoint.Proofs.Config.Layers
import WalCheckpoint.Proofs.Config.Merging
import WalCheckpoint.Proofs.Config.Merge
import WalCheckpoint.Proofs.Config.LastWriter
import WalCheckpoint.Proofs.Config.Sharing
import WalCheckpoint.Proofs.Time.Elapsed
import WalCheckpoint.Proofs.Envelope.Context
import WalCheckpoint.Proofs.Text.Trim
import WalCheckpoint.Proofs.Text.Digits
import WalCheckpoint.Proofs.Text.Hexadecimal
import WalCheckpoint.Proofs.Lsn.Read
import WalCheckpoint.Proofs.Lsn.Format
import WalCheckpoint.Proofs.Text.Padded
import WalCheckpoint.Proofs.TableId.RoundTrip
import WalCheckpoint.Proofs.Time.Sorting
import WalCheckpoint.Proofs.Tracker.Trail
import WalCheckpoint.Proofs.Inspection.Normal
import WalCheckpoint.Proofs.Json.Characters
import WalCheckpoint.Proofs.Log.Rendering
import WalCheckpoint.Proofs.Log.Session
