import Masquerade.Gateway.Answer
import Masquerade.Gateway.Nic
import Masquerade.Kernel.Call

/-!
# Streams

A stream is a TCP connection of a guest that ends at the gateway.  Its bytes go
on through a socket of the host, and every segment that the guest sees of it is
made here.  The gateway counts in two sequences: `outsideNext` is the place of
its own next byte, `guestNext` the place of the next byte that it expects of the
guest, which every segment acknowledges.
-/

set_option autoImplicit false

namespace Masquerade

open Packet

/-- How far the life of a stream has come; it never goes back. -/
inductive Phase
  /-- The socket is being connected; the guest has seen nothing yet. -/
  | connecting
  | connected
  /-- The outside has closed or failed; our last mark is due or sent. -/
  | outsideClosed
  | bothClosed
  deriving DecidableEq, Repr

def Phase.rank : Phase → Nat
  | .connecting => 0
  | .connected => 1
  | .outsideClosed => 2
  | .bothClosed => 3

def Phase.isClosing (phase : Phase) : Bool := decide (Phase.outsideClosed.rank ≤ phase.rank)

structure Stream where
  owner : NicId
  guestMac : Mac
  flow : Flow
  socket : SocketId
  phase : Phase
  /-- The sequence number of the last segment that counted. -/
  guestSequence : UInt32
  /-- The last number that the guest acknowledged. -/
  guestAcknowledged : UInt32
  outsideNext : UInt32
  guestNext : UInt32
  finSent : Bool
  /-- The bytes that were sent last and may have to be sent again. -/
  unacknowledged : Bytes
  unacknowledgedFrom : UInt32
  waitedRounds : Nat
  identification : UInt16
  guestClock : UInt32
  deriving DecidableEq, Repr

namespace Stream

def opening (owner : NicId) (guestMac : Mac) (flow : Flow) (socket : SocketId)
    (segment : Segment) (initial : UInt32) : Stream where
  owner := owner
  guestMac := guestMac
  flow := flow
  socket := socket
  phase := .connecting
  guestSequence := segment.header.sequence
  guestAcknowledged := initial
  outsideNext := initial
  guestNext := segment.header.sequence + 1
  finSent := false
  unacknowledged := []
  unacknowledgedFrom := initial
  waitedRounds := 0
  identification := 0
  guestClock := ((Timestamps.find? segment.options).map Timestamps.value).getD 0

/-! ## Segments to the guest -/

def window : UInt16 := 0x4000

def frame (stream : Stream) (now : Nat) (flags : UInt8) (sequence : UInt32) (payload : Bytes) :
    Except WireError Bytes :=
  let flow := stream.flow
  let header := TcpHeader.bare flow.outside.port flow.guest.port sequence stream.guestNext flags
    window
  let options := Timestamps.block ⟨UInt32.ofNat now, stream.guestClock⟩
  match tcpSegment flow.outside.address flow.guest.address header options payload with
  | .error error => .error error
  | .ok segment =>
    ipv4Frame (Answer.frameTo stream.guestMac EthernetHeader.ipv4)
      (.between flow.outside.address flow.guest.address Transport.tcp.protocol
        stream.identification Answer.hops) segment

/-- Sends one segment.  Packets are numbered, also one that cannot be built. -/
def emit (stream : Stream) (now : Nat) (flags : UInt8) (sequence : UInt32) (payload : Bytes) :
    Stream × List Bytes :=
  ({ stream with identification := stream.identification + 1 },
    match stream.frame now flags sequence payload with
    | .ok frame => [frame]
    | .error _ => [])

/-- Accepts the connection; the mark of the beginning counts as one byte. -/
def accept (stream : Stream) (now : Nat) : Stream × List Bytes :=
  let (sent, frames) :=
    stream.emit now (ControlBit.byteOf [.syn, .ack]) stream.outsideNext []
  ({ sent with outsideNext := stream.outsideNext + 1 }, frames)

def reset (stream : Stream) (now : Nat) : Stream × List Bytes :=
  stream.emit now (ControlBit.byteOf [.rst, .ack]) stream.outsideNext []

/-- Acknowledges all that was taken from the guest.  When our stream is at its
end, the first segment without bytes carries the last mark, which counts as one
byte. -/
def acknowledge (stream : Stream) (now : Nat) : Stream × List Bytes :=
  if stream.phase.isClosing && !stream.finSent then
    let (sent, frames) :=
      { stream with finSent := true }.emit now (ControlBit.byteOf [.ack, .fin])
        stream.outsideNext []
    ({ sent with outsideNext := stream.outsideNext + 1 }, frames)
  else stream.emit now (ControlBit.byteOf [.ack]) stream.outsideNext []

def deliver (stream : Stream) (now : Nat) (payload : Bytes) : Stream × List Bytes :=
  let kept : Stream :=
    { stream with
      unacknowledged := payload
      unacknowledgedFrom := stream.outsideNext
      waitedRounds := 0 }
  let (sent, frames) := kept.emit now (ControlBit.byteOf [.ack, .psh]) stream.outsideNext payload
  ({ sent with outsideNext := stream.outsideNext + UInt32.ofNat payload.length }, frames)

def retransmit (stream : Stream) (now : Nat) : Stream × List Bytes :=
  stream.emit now (ControlBit.byteOf [.ack, .psh]) stream.unacknowledgedFrom
    stream.unacknowledged

def disconnect (stream : Stream) (now : Nat) : Stream × List Bytes :=
  { stream with
    phase := if stream.phase.isClosing then stream.phase else .outsideClosed }.acknowledge now

end Stream

end Masquerade
