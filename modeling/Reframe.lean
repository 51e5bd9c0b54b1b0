import Reframe.ByteQueue
import Reframe.ByteSource
import Reframe.Bytes
import Reframe.ClientError
import Reframe.Command.Arguments
import Reframe.Command.Basic
import Reframe.Command.FileTree
import Reframe.Command.Flag
import Reframe.Command.Program
import Reframe.Command.Pull
import Reframe.Command.Receive
import Reframe.Command.Scan
import Reframe.Command.Send
import Reframe.Command.Session
import Reframe.Command.Usage
import Reframe.Command.Version
import Reframe.Decimal.Binary
import Reframe.Decimal.Fixed
import Reframe.Decimal.Shortest
import Reframe.Duration
import Reframe.Failure
import Reframe.Feedback.Dispatcher
import Reframe.Feedback.Limiter
import Reframe.Fragment.Basic
import Reframe.Fragment.Codec
import Reframe.Fragment.Split
import Reframe.Fragment.Writer
import Reframe.FrameError
import Reframe.Image.Basic
import Reframe.Image.Decoder
import Reframe.Image.Latest
import Reframe.IoError
import Reframe.Json.Basic
import Reframe.Json.Reader
import Reframe.LiveStream
import Reframe.Net.Address
import Reframe.Net.Error
import Reframe.Net.Host
import Reframe.Net.Network
import Reframe.Net.Reach
import Reframe.Net.Socket
import Reframe.Net.Url
import Reframe.Proofs.Fragment.Codec
import Reframe.Proofs.Fragment.Split
import Reframe.Proofs.Reassembler.Assembly
import Reframe.Proofs.Reassembler.Provenance
import Reframe.Proofs.Reassembler.Step
import Reframe.Puller.Basic
import Reframe.Puller.Open
import Reframe.Reassembler.Assembly
import Reframe.Reassembler.Basic
import Reframe.Reassembler.Run
import Reframe.Receiver.Basic
import Reframe.Receiver.Loop
import Reframe.Receiver.Open
import Reframe.Receiver.Stats
import Reframe.Report.Printer
import Reframe.Report.Record
import Reframe.Report.Table
import Reframe.Report.Timestamp
import Reframe.Scan.Codec
import Reframe.Scan.Marker
import Reframe.Scan.Parse
import Reframe.Scan.Reader
import Reframe.Scan.Scanner
import Reframe.Scan.Search
import Reframe.Sequence
import Reframe.Service.Control
import Reframe.Service.ErrorBody
import Reframe.Service.StreamRequest
import Reframe.Text.Blank
import Reframe.Text.CellWidth
import Reframe.Text.CharWidth
import Reframe.Text.CodeRange
import Reframe.Text.Emoji
import Reframe.Text.Extender
import Reframe.Text.Ignorable
import Reframe.Text.Numeral
import Reframe.Text.PlainForm
import Reframe.Text.Printable
import Reframe.Text.Quoted
import Reframe.Text.UpperCase
import Reframe.Text.Utf8
import Reframe.VideoCodec
import Reframe.Main
import Reframe.Proofs.Reassembler.Arrival
import Reframe.Proofs.Reassembler.LossyChannel
import Reframe.Proofs.Scan.Marker
import Reframe.Proofs.Scan.Parse
import Reframe.Proofs.Scan.Search
import Reframe.Proofs.Scan.Chunking
import Reframe.Proofs.Reassembler.Invariant
import Reframe.Proofs.Reassembler.Recurrence
import Reframe.Fragment.Run
import Reframe.Proofs.Fragment.Writer
import Reframe.Proofs.Reassembler.Resending
import Reframe.Proofs.Scan.Resync
import Reframe.Proofs.Scan.Due
import Reframe.Proofs.Scan.Reading
import Reframe.Proofs.Feedback.Dispatcher
import Reframe.Proofs.Image.Decoder
import Reframe.Proofs.Reassembler.Counts
import Reframe.Proofs.Receiver.Requests
import Reframe.Proofs.Receiver.History
import Reframe.Proofs.Receiver.Ledger
import Reframe.Proofs.Receiver.Latest
import Reframe.Proofs.Feedback.Limiter
import Reframe.Proofs.Reassembler.Abandonment
import Reframe.Proofs.Scan.Turn
import Reframe.Proofs.Scan.Retention
import Reframe.Proofs.Scan.Received
import Reframe.Proofs.Puller.Lifetime
import Reframe.Proofs.Reassembler.Balance
import Reframe.Proofs.Reassembler.Dropping
import Reframe.Proofs.Fragment.Exact
import Reframe.Proofs.Fragment.Faults
import Reframe.Proofs.Scan.Rescan
import Reframe.Proofs.Scan.Accounts
import Reframe.Proofs.Scan.Agreement
import Reframe.Proofs.Scan.AllFrames
import Reframe.Proofs.Puller.Pictures
import Reframe.Proofs.Command.FileTree
import Reframe.Proofs.Command.Scan
import Reframe.Proofs.Scan.OwnOutput
import Reframe.Proofs.Reassembler.InOrder
import Reframe.Proofs.Command.Send
import Reframe.Proofs.Scan.Ranges
import Reframe.Proofs.Command.Flag
