import LibCSP.Basis.Word
import LibCSP.Basis.Serial
import LibCSP.Basis.Run
import LibCSP.Basis.Queue
import LibCSP.Basis.Interleave
import LibCSP.Basis.Notified
import LibCSP.Basis.Keys
import LibCSP.Core.Packet
import LibCSP.Core.Buffer
import LibCSP.Rdp.Header
import LibCSP.Rdp.Conn
import LibCSP.Rdp.Endpoint
import LibCSP.Rdp.Quiet
import LibCSP.Rdp.Close
import LibCSP.Rdp.Deliver
import LibCSP.Rdp.Incoming
import LibCSP.Rdp.Send
import LibCSP.Rdp.Window
import LibCSP.Rdp.Handshake
import LibCSP.Rdp.Delivery
import LibCSP.Rdp.Safety
import LibCSP.Rdp.Retention
import LibCSP.Rdp.Accept
import LibCSP.Rdp.Lengths
import LibCSP.Can.Frame
import LibCSP.Can.Pbuf
import LibCSP.Can.Elements
import LibCSP.Can.Transmit
import LibCSP.Can.Receive
import LibCSP.Can.Bounds
import LibCSP.Can.Reassembly
import LibCSP.Can.RoundTrip
import LibCSP.Security.Sha1
import LibCSP.Security.Hmac
import LibCSP.Security.Crc32
import LibCSP.Security.Xtea
import LibCSP.Security.Wire
import LibCSP.Security.RoundTrip
import LibCSP.Security.WireOrder
import LibCSP.Security.Transport
import LibCSP.Basis.Ledger
import LibCSP.Rdp.Linear
import LibCSP.Rdp.Conservation
import LibCSP.Rdp.Sequence
import LibCSP.Security.Send
import LibCSP.Router.Route
import LibCSP.Router.Transit
import LibCSP.Rdp.Shell
import LibCSP.Router.Step
import LibCSP.Router.Consume
import LibCSP.Router.Discard
import LibCSP.Router.Clean
import LibCSP.Router.Handle
import LibCSP.Router.Provenance
import LibCSP.Router.Secure
import LibCSP.Router.Table
import LibCSP.Router.Traced
import LibCSP.Router.Sequenced
import LibCSP.Router.Unique
import LibCSP.Router.Contest
import LibCSP.Router.Reply
import LibCSP.Router.Input
import LibCSP.Router.Reader
import LibCSP.Can.Account
import LibCSP.Can.Ownership
import LibCSP.Can.Direction
import LibCSP.Can.Overrun
import LibCSP.Core.Search
import LibCSP.Core.Oversize
import LibCSP.Rdp.Hangup
import LibCSP.Rdp.Resend
import LibCSP.Rdp.Eack
import LibCSP.Rdp.AckDelay
import LibCSP.Can.Tasks
import LibCSP.Can.Completion
import LibCSP.Security.Ranges
import LibCSP.Router.Overrun
import LibCSP.Basis.Crc
import LibCSP.Basis.Hash
import LibCSP.Core.Release
import LibCSP.Core.Deadline
import LibCSP.Security.Checksum
import LibCSP.Security.Counter
import LibCSP.Security.Digest
import LibCSP.Router.Allocate
import LibCSP.Router.Ports
import LibCSP.Router.Service
import LibCSP.Router.Ping
import LibCSP.Basis.Ring
import LibCSP.Core.PthreadQueue
import LibCSP.Basis.Drain
import LibCSP.Rdp.Reorder
import LibCSP.Basis.Guard
import LibCSP.Core.Semaphore
import LibCSP.Can.Ident
import LibCSP.Can.Mailbox
import LibCSP.Can.Outcome
import LibCSP.Basis.Chain
import LibCSP.Router.Interfaces
import LibCSP.Basis.Counter
import LibCSP.Router.Passage
import LibCSP.Router.Local
import LibCSP.Router.Priority
import LibCSP.Router.Network
import LibCSP.Router.Relay
import LibCSP.Basis.Resequence
import LibCSP.Rdp.Gapless
import LibCSP.Rdp.Telling
import LibCSP.Rdp.Lossless
import LibCSP.Rdp.Recovery
import LibCSP.Rdp.Greeting
import LibCSP.Rdp.Connect
