import Masquerade.Address.Basic
import Masquerade.Address.Reader
import Masquerade.Backlog
import Masquerade.Bytes
import Masquerade.Checksum
import Masquerade.Checksum.Sum
import Masquerade.FlowTable
import Masquerade.Gateway.Answer
import Masquerade.Gateway.Basic
import Masquerade.Gateway.Mapping
import Masquerade.Gateway.Nic
import Masquerade.Gateway.Poll
import Masquerade.Gateway.Request
import Masquerade.Gateway.SetUp
import Masquerade.Gateway.Stream.Basic
import Masquerade.Gateway.Stream.Turn
import Masquerade.Gateway.Transmit
import Masquerade.Kernel.Basic
import Masquerade.Kernel.Call
import Masquerade.Kernel.Errno
import Masquerade.Kernel.Sockets
import Masquerade.NameService
import Masquerade.Packet.Arp
import Masquerade.Packet.Assembly
import Masquerade.Packet.Cursor
import Masquerade.Packet.Ethernet
import Masquerade.Packet.Fault
import Masquerade.Packet.Fragment
import Masquerade.Packet.Icmp
import Masquerade.Packet.Ipv4
import Masquerade.Packet.Layout
import Masquerade.Packet.Tcp
import Masquerade.Packet.TcpOptions
import Masquerade.Packet.Udp
import Masquerade.Proofs.Address
import Masquerade.Proofs.Backlog
import Masquerade.Proofs.Checksum
import Masquerade.Proofs.Checksum.Changes
import Masquerade.Proofs.Checksum.Storing
import Masquerade.Proofs.FlowTable
import Masquerade.Proofs.FlowTable.Recency
import Masquerade.Proofs.Gateway.AllOrNothing
import Masquerade.Proofs.Gateway.Answers
import Masquerade.Proofs.Gateway.Boundary
import Masquerade.Proofs.Gateway.Buffers
import Masquerade.Proofs.Gateway.Clock
import Masquerade.Proofs.Gateway.Closing
import Masquerade.Proofs.Gateway.Corruption
import Masquerade.Proofs.Gateway.Datagrams
import Masquerade.Proofs.Gateway.Draining
import Masquerade.Proofs.Gateway.Echoes
import Masquerade.Proofs.Gateway.Ending
import Masquerade.Proofs.Gateway.Fragments
import Masquerade.Proofs.Gateway.Ignored
import Masquerade.Proofs.Gateway.LastUse
import Masquerade.Proofs.Gateway.Leases
import Masquerade.Proofs.Gateway.Made
import Masquerade.Proofs.Gateway.Mailbox
import Masquerade.Proofs.Gateway.Numbering
import Masquerade.Proofs.Gateway.OnePerRecord
import Masquerade.Proofs.Gateway.Opened
import Masquerade.Proofs.Gateway.Outcomes
import Masquerade.Proofs.Gateway.Padding
import Masquerade.Proofs.Gateway.Passing
import Masquerade.Proofs.Gateway.Past
import Masquerade.Proofs.Gateway.Poll
import Masquerade.Proofs.Gateway.Refusals
import Masquerade.Proofs.Gateway.Relaying
import Masquerade.Proofs.Gateway.Replication
import Masquerade.Proofs.Gateway.Replies
import Masquerade.Proofs.Gateway.Requests
import Masquerade.Proofs.Gateway.Rounds
import Masquerade.Proofs.Gateway.Segments
import Masquerade.Proofs.Gateway.Service
import Masquerade.Proofs.Gateway.SetUp
import Masquerade.Proofs.Gateway.SingleAnswers
import Masquerade.Proofs.Gateway.Sound
import Masquerade.Proofs.Gateway.Spared
import Masquerade.Proofs.Gateway.Spread
import Masquerade.Proofs.Gateway.Step
import Masquerade.Proofs.Gateway.Streams
import Masquerade.Proofs.Gateway.Stretches
import Masquerade.Proofs.Gateway.Transmit
import Masquerade.Proofs.Gateway.Turns
import Masquerade.Proofs.Gateway.Unbroken
import Masquerade.Proofs.Gateway.WellFormed
import Masquerade.Proofs.Kernel.Calls
import Masquerade.Proofs.Kernel.Held
import Masquerade.Proofs.Kernel.LeftAlone
import Masquerade.Proofs.Kernel.Looking
import Masquerade.Proofs.Kernel.Offers
import Masquerade.Proofs.Kernel.Opening
import Masquerade.Proofs.Kernel.Outcomes
import Masquerade.Proofs.Kernel.Past
import Masquerade.Proofs.Kernel.Receiving
import Masquerade.Proofs.Kernel.Sockets
import Masquerade.Proofs.Kernel.Targets
import Masquerade.Proofs.NameService
import Masquerade.Proofs.Packet.Assembled
import Masquerade.Proofs.Packet.Buffers
import Masquerade.Proofs.Packet.Grammar
import Masquerade.Proofs.Packet.Locality
import Masquerade.Proofs.Packet.Options
import Masquerade.Proofs.Packet.Pieces
import Masquerade.Proofs.Packet.Reading
import Masquerade.Proofs.Packet.Reassembly
import Masquerade.Proofs.Packet.RoundTrip
import Masquerade.Proofs.Packet.Stretches
import Masquerade.Proofs.Packet.WellFormed
import Masquerade.Proofs.Session.Acknowledging
import Masquerade.Proofs.Session.AllOrNothing
import Masquerade.Proofs.Session.Boundary
import Masquerade.Proofs.Session.Closing
import Masquerade.Proofs.Session.Corruption
import Masquerade.Proofs.Session.Course
import Masquerade.Proofs.Session.Datagrams
import Masquerade.Proofs.Session.Draining
import Masquerade.Proofs.Session.Drawn
import Masquerade.Proofs.Session.Echoes
import Masquerade.Proofs.Session.Ending
import Masquerade.Proofs.Session.Feeding
import Masquerade.Proofs.Session.Fragments
import Masquerade.Proofs.Session.Frames
import Masquerade.Proofs.Session.GuestEnd
import Masquerade.Proofs.Session.GuestToOutside
import Masquerade.Proofs.Session.Handshake
import Masquerade.Proofs.Session.History
import Masquerade.Proofs.Session.Ignored
import Masquerade.Proofs.Session.Isolation
import Masquerade.Proofs.Session.LastUse
import Masquerade.Proofs.Session.Leases
import Masquerade.Proofs.Session.Life
import Masquerade.Proofs.Session.Numbering
import Masquerade.Proofs.Session.OutsideToGuest
import Masquerade.Proofs.Session.Ownership
import Masquerade.Proofs.Session.Pacing
import Masquerade.Proofs.Session.Padding
import Masquerade.Proofs.Session.Phases
import Masquerade.Proofs.Session.Refusals
import Masquerade.Proofs.Session.Relaying
import Masquerade.Proofs.Session.Replication
import Masquerade.Proofs.Session.Replies
import Masquerade.Proofs.Session.Restraint
import Masquerade.Proofs.Session.Rounds
import Masquerade.Proofs.Session.SentAgain
import Masquerade.Proofs.Session.Service
import Masquerade.Proofs.Session.Steps
import Masquerade.Proofs.Session.StopAndWait
import Masquerade.Proofs.Session.Timestamps
import Masquerade.Proofs.Session.Unbroken
import Masquerade.Proofs.Stream.Acknowledging
import Masquerade.Proofs.Stream.Beginning
import Masquerade.Proofs.Stream.Closing
import Masquerade.Proofs.Stream.Emission
import Masquerade.Proofs.Stream.Ending
import Masquerade.Proofs.Stream.Forwarding
import Masquerade.Proofs.Stream.Frames
import Masquerade.Proofs.Stream.HostUse
import Masquerade.Proofs.Stream.Move
import Masquerade.Proofs.Stream.Numbering
import Masquerade.Proofs.Stream.OneSegment
import Masquerade.Proofs.Stream.Pacing
import Masquerade.Proofs.Stream.Phases
import Masquerade.Proofs.Stream.Readiness
import Masquerade.Proofs.Stream.Reassembly
import Masquerade.Proofs.Stream.Supplied
import Masquerade.Proofs.Stream.Supply
import Masquerade.Proofs.Stream.Waiting
import Masquerade.Proofs.Subnet
import Masquerade.Proofs.Text
import Masquerade.Proofs.Text.Lines
import Masquerade.RecentMap
import Masquerade.Session.Network
import Masquerade.Session.Sockets
import Masquerade.Settings
import Masquerade.SetupError
import Masquerade.Subnet
import Masquerade.Text.Blank
import Masquerade.Text.Numeral
