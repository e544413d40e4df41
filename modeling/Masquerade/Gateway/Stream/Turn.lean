import Masquerade.Gateway.Stream.Basic
import Masquerade.Kernel.Sockets

/-!
# Turns of a stream

What one event does to a stream: a segment from the guest, or the readiness of
its socket.  A turn touches no other stream and no other socket; all frames that
it gives are for the owner of the stream.
-/

set_option autoImplicit false

namespace Masquerade

open Packet

structure Turn where
  stream : Stream
  kernel : Kernel
  frames : List Bytes
  ends : Bool

namespace Stream

def rest (stream : Stream) (kernel : Kernel) : Turn := ⟨stream, kernel, [], false⟩

def goOn (sent : Stream × List Bytes) (kernel : Kernel) : Turn := ⟨sent.1, kernel, sent.2, false⟩

def finish (sent : Stream × List Bytes) (kernel : Kernel) : Turn := ⟨sent.1, kernel, sent.2, true⟩

/-! ## Segments from the guest -/

/-- Whether a segment is in order: one with bytes or the last mark has to start
exactly where the next byte is expected. -/
def isInOrder (stream : Stream) (segment : Segment) : Bool :=
  (!segment.has .fin && segment.payload.isEmpty) || segment.header.sequence == stream.guestNext

def note (stream : Stream) (segment : Segment) : Stream :=
  { stream with
    guestSequence := segment.header.sequence
    guestAcknowledged :=
      if segment.has .ack then segment.header.acknowledgment else stream.guestAcknowledged
    guestClock :=
      ((Timestamps.find? segment.options).map Timestamps.value).getD stream.guestClock }

/-- Whether `number` is at or past `mark` in the circle of sequence numbers. -/
def reaches (number mark : UInt32) : Bool := decide ((number - mark).toNat < 2147483648)

def release (stream : Stream) (header : TcpHeader) : Stream :=
  if header.has .ack && !stream.unacknowledged.isEmpty &&
      reaches header.acknowledgment
        (stream.unacknowledgedFrom + UInt32.ofNat stream.unacknowledged.length) then
    { stream with unacknowledged := [], waitedRounds := 0 }
  else stream

def isFinAcknowledged (stream : Stream) (header : TcpHeader) : Bool :=
  stream.finSent && header.has .ack && header.acknowledgment == stream.outsideNext

inductive Offer
  /-- They were not offered, or not taken for now; the guest will send them again. -/
  | withheld
  | failed
  | taken (count : Nat)
  deriving DecidableEq, Repr

def offer (stream : Stream) (payload : Bytes) (kernel : Kernel) : Offer × Kernel :=
  if stream.phase ≠ .connected ∧ stream.phase ≠ .outsideClosed then (.withheld, kernel)
  else
    match kernel.isWritable stream.socket with
    | (false, kernel) => (.withheld, kernel)
    | (true, kernel) =>
      match kernel.send stream.socket payload with
      | (.ok count, kernel) => (.taken count, kernel)
      | (.error errno, kernel) =>
        if errno = .again then (.withheld, kernel) else (.failed, kernel)

def onFin (stream : Stream) (now : Nat) (header : TcpHeader) (kernel : Kernel) : Turn :=
  let (_, kernel) := kernel.shutdownWrite stream.socket
  let closed : Stream := { stream with guestNext := stream.guestNext + 1, phase := .bothClosed }
  if stream.isFinAcknowledged header then finish (closed.acknowledge now) kernel
  else goOn (closed.acknowledge now) kernel

/-- Passes bytes on and acknowledges those that were taken.  A last mark counts
only when all bytes before it were taken. -/
def onPayload (stream : Stream) (now : Nat) (segment : Segment) (kernel : Kernel) : Turn :=
  match stream.offer segment.payload kernel with
  | (.withheld, kernel) => stream.rest kernel
  | (.failed, kernel) => goOn (stream.disconnect now) kernel
  | (.taken count, kernel) =>
    let advanced : Stream := { stream with guestNext := stream.guestNext + UInt32.ofNat count }
    if segment.has .fin && count == segment.payload.length then
      advanced.onFin now segment.header kernel
    else goOn (advanced.acknowledge now) kernel

/-- A segment without bytes and marks: the last one of a stream that both sides
have closed. -/
def onAcknowledgment (stream : Stream) (header : TcpHeader) (kernel : Kernel) : Turn :=
  if stream.phase = .bothClosed ∧ stream.isFinAcknowledged header then
    finish (stream, []) kernel
  else stream.rest kernel

def onSegment (stream : Stream) (now : Nat) (segment : Segment) (kernel : Kernel) : Turn :=
  if !stream.isInOrder segment then stream.rest kernel
  else
    let noted := stream.note segment
    if segment.has .rst then finish (noted.reset now) kernel
    else if segment.has .syn then noted.rest kernel
    else
      let released := noted.release segment.header
      if !segment.payload.isEmpty then released.onPayload now segment kernel
      else if segment.has .fin then released.onFin now segment.header kernel
      else released.onAcknowledgment segment.header kernel

/-! ## Readiness of the socket -/

def mostRead : Nat := 1024

def onConnecting (stream : Stream) (now : Nat) (ready : Kernel.Readiness) (kernel : Kernel) :
    Turn :=
  if !(ready.writable || ready.error) then stream.rest kernel
  else
    match kernel.takeError stream.socket with
    | (.ok none, kernel) => goOn ({ stream with phase := .connected }.accept now) kernel
    | (_, kernel) => finish (stream.reset now) kernel

/-- Bytes wait for their acknowledgment: sends them again in the last of `rounds`. -/
def onWaiting (stream : Stream) (now rounds : Nat) (kernel : Kernel) : Turn :=
  if rounds ≤ stream.waitedRounds + 1 then
    goOn ({ stream with waitedRounds := 0 }.retransmit now) kernel
  else { stream with waitedRounds := stream.waitedRounds + 1 }.rest kernel

/-- Reads from the socket; the end of the outside and a failure are alike. -/
def onReadable (stream : Stream) (now : Nat) (kernel : Kernel) : Turn :=
  match kernel.receive stream.socket mostRead with
  | (.ok [], kernel) => goOn (stream.disconnect now) kernel
  | (.ok payload, kernel) => goOn (stream.deliver now payload) kernel
  | (.error errno, kernel) =>
    if errno = .again then stream.rest kernel else goOn (stream.disconnect now) kernel

/-- Whether an error waits on the socket, which is looked for only where the
readiness tells of one. -/
def findError (stream : Stream) (ready : Kernel.Readiness) (kernel : Kernel) : Bool × Kernel :=
  if ready.error then
    match kernel.takeError stream.socket with
    | (.ok (some _), kernel) => (true, kernel)
    | (_, kernel) => (false, kernel)
  else (false, kernel)

/-- The socket is connected: reads only when the guest has acknowledged all. -/
def onConnected (stream : Stream) (now rounds : Nat) (ready : Kernel.Readiness)
    (kernel : Kernel) : Turn :=
  match stream.findError ready kernel with
  | (true, kernel) => goOn (stream.disconnect now) kernel
  | (false, kernel) =>
    if !stream.unacknowledged.isEmpty then stream.onWaiting now rounds kernel
    else if stream.guestAcknowledged = stream.outsideNext ∧ (ready.readable || ready.error) then
      stream.onReadable now kernel
    else stream.rest kernel

def onReady (stream : Stream) (now rounds : Nat) (ready : Kernel.Readiness) (kernel : Kernel) :
    Turn :=
  match stream.phase with
  | .connecting => stream.onConnecting now ready kernel
  | .connected => stream.onConnected now rounds ready kernel
  | .outsideClosed => stream.rest kernel
  | .bothClosed => stream.rest kernel

end Stream

end Masquerade
