import CaptureReport.Channel
import CaptureReport.Command.Arguments
import CaptureReport.Command.Execution
import CaptureReport.Command.Help
import CaptureReport.Command.Log
import CaptureReport.Command.Options
import CaptureReport.Device
import CaptureReport.Driver
import CaptureReport.Folder
import CaptureReport.Format
import CaptureReport.Main
import CaptureReport.Packet
import CaptureReport.Proofs.Command.Arguments
import CaptureReport.Proofs.Command.Execution
import CaptureReport.Proofs.Command.Redirection
import CaptureReport.Proofs.Command.UpFront
import CaptureReport.Proofs.Device
import CaptureReport.Proofs.Folder
import CaptureReport.Proofs.Report.Binary
import CaptureReport.Proofs.Report.Boundaries
import CaptureReport.Proofs.Report.Caret
import CaptureReport.Proofs.Report.Channels
import CaptureReport.Proofs.Report.Decoding
import CaptureReport.Proofs.Report.Encoder
import CaptureReport.Proofs.Report.Lane
import CaptureReport.Proofs.Report.Layout
import CaptureReport.Proofs.Report.Lines
import CaptureReport.Proofs.Report.Reset
import CaptureReport.Proofs.Report.Selected
import CaptureReport.Proofs.Report.State
import CaptureReport.Proofs.Report.Streaming
import CaptureReport.Proofs.Samples
import CaptureReport.Proofs.Selection
import CaptureReport.Proofs.Session
import CaptureReport.Proofs.Settings
import CaptureReport.Proofs.Settings.File
import CaptureReport.Proofs.Stream.Blocks
import CaptureReport.Proofs.Stream.Consumer
import CaptureReport.Proofs.Stream.Direct
import CaptureReport.Proofs.Stream.Fault
import CaptureReport.Proofs.Stream.Feeds
import CaptureReport.Proofs.Stream.FullSink
import CaptureReport.Proofs.Stream.Relay
import CaptureReport.Proofs.Stream.Reports
import CaptureReport.Proofs.Stream.Room
import CaptureReport.Proofs.Stream.SetUp
import CaptureReport.Proofs.Stream.Sink
import CaptureReport.Proofs.Stream.Source
import CaptureReport.Proofs.Stream.Totals
import CaptureReport.Proofs.Stream.Trigger
import CaptureReport.Proofs.Text.Decimal
import CaptureReport.Proofs.Text.Lines
import CaptureReport.Proofs.Text.Scaled
import CaptureReport.Proofs.Toml.Keys
import CaptureReport.Refusal
import CaptureReport.Report.Encoder
import CaptureReport.Report.Lane
import CaptureReport.Report.Width
import CaptureReport.Selection
import CaptureReport.Session
import CaptureReport.Settings
import CaptureReport.Settings.File
import CaptureReport.Stream.Consumer
import CaptureReport.Stream.Failure
import CaptureReport.Stream.Notice
import CaptureReport.Stream.Reader
import CaptureReport.Stream.Relay
import CaptureReport.Stream.Run
import CaptureReport.Stream.Sink
import CaptureReport.Stream.Source
import CaptureReport.Text.Blank
import CaptureReport.Text.Decimal
import CaptureReport.Text.HexPair
import CaptureReport.Text.Hidden
import CaptureReport.Text.Pieces
import CaptureReport.Text.Quoted
import CaptureReport.Text.Scaled
import CaptureReport.Toml.Document
import CaptureReport.Toml.Node
import CaptureReport.Toml.Quoted
import CaptureReport.Toml.Scalar
import CaptureReport.Toml.Statement
import CaptureReport.Toml.Value
import CaptureReport.Proofs.Command.Overrides
