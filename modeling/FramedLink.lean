import FramedLink.Argument
import FramedLink.CommandLine
import FramedLink.CommandLine.Scan
import FramedLink.Crc
import FramedLink.Decimal
import FramedLink.Device
import FramedLink.Error
import FramedLink.Event
import FramedLink.Exchange
import FramedLink.Execute
import FramedLink.Failure
import FramedLink.Header
import FramedLink.IoError
import FramedLink.Link
import FramedLink.Link.ByteStream
import FramedLink.Link.Memory
import FramedLink.Link.Peer
import FramedLink.Link.Recorded
import FramedLink.Link.Scripted
import FramedLink.Link.Stream
import FramedLink.Link.Stuffed
import FramedLink.Log
import FramedLink.Main
import FramedLink.MessageType
import FramedLink.Network
import FramedLink.Program
import FramedLink.Report
import FramedLink.Stuffing
import FramedLink.Text.Blank
import FramedLink.Text.CharWidth
import FramedLink.Text.Cluster
import FramedLink.Text.Emoji
import FramedLink.Text.Extending
import FramedLink.Text.Json
import FramedLink.Text.Number
import FramedLink.Text.Quoted
import FramedLink.Text.Table
import FramedLink.Text.Width
import FramedLink.Text.Wrap
import FramedLink.Time
import FramedLink.Link.Window
import FramedLink.Link.Cursors
import FramedLink.Exchange.Buffered
import FramedLink.Proofs.Reading
import FramedLink.Proofs.Bytewise
import FramedLink.Proofs.Preservation
import FramedLink.Proofs.Acceptance
import FramedLink.Proofs.Soundness
import FramedLink.Proofs.Arrival
import FramedLink.Proofs.Completeness
import FramedLink.Proofs.Resynchronisation
import FramedLink.Proofs.Segmentation
import FramedLink.Proofs.ChunkSize
import FramedLink.Proofs.Exhaustion
import FramedLink.Link.Observed
import FramedLink.Proofs.View
import FramedLink.Proofs.OutboundStream
import FramedLink.Proofs.Budget
import FramedLink.Proofs.Breakdown
import FramedLink.Proofs.Receipt
import FramedLink.Proofs.Numbering
import FramedLink.Link.History
import FramedLink.Proofs.Conservation
import FramedLink.Proofs.TimeAccount
import FramedLink.Proofs.StreamCalls
import FramedLink.Proofs.Retrying
import FramedLink.Proofs.Canonical
import FramedLink.Proofs.Remainder
import FramedLink.Proofs.Syndrome
import FramedLink.Proofs.ErrorDetection
import FramedLink.Proofs.DoubleErrors
import FramedLink.Proofs.HeaderCodec
import FramedLink.Proofs.ReadDecoding
import FramedLink.Proofs.Sending
import FramedLink.Proofs.Cancellation
import FramedLink.Proofs.WriteBudget
import FramedLink.Link.Conversation
import FramedLink.Proofs.Patience
import FramedLink.Proofs.Interruptions
import FramedLink.Proofs.HexPayload
import FramedLink.Proofs.PayloadBytes
import FramedLink.Proofs.HexLayout
import FramedLink.Proofs.Numerals
import FramedLink.Proofs.Timeouts
import FramedLink.Proofs.ByteNotation
import FramedLink.Proofs.InPlace
import FramedLink.Proofs.KindMatching
import FramedLink.Proofs.BoundedWaits
import FramedLink.Proofs.Ledger
import FramedLink.Proofs.Slices
import FramedLink.Proofs.CheckedReset
