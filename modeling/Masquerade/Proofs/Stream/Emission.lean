import Masquerade.Proofs.Packet.Reading
import Masquerade.Proofs.Stream.Move

/-!
# What the guest reads of a stream

Every frame that a stream sends can be built and is read by the guest as one
segment of the flow.  Each of them acknowledges exactly what was taken from the
guest by then.
-/

set_option autoImplicit false

namespace Masquerade

open Packet (ControlBit segmentIn)

def Flow.reversed (flow : Flow) : Flow := ⟨flow.outside, flow.guest⟩

def segmentsIn (frames : List Bytes) : List Segment :=
  frames.filterMap fun frame => (segmentIn frame).map Prod.snd

namespace Stream

structure IsAt (segment : Segment) (flags : UInt8) (sequence : UInt32) (payload : Bytes) :
    Prop where
  flags : segment.header.flags = flags
  sequence : segment.header.sequence = sequence
  payload : segment.payload = payload

theorem IsAt.has {segment : Segment} {flags : UInt8} {sequence : UInt32} {payload : Bytes}
    (isAt : IsAt segment flags sequence payload) (bit : ControlBit) :
    segment.has bit = (flags.toNat / bit.value % 2 == 1) := by
  rw [Segment.has, Packet.TcpHeader.has, isAt.flags]

/-- The guest reads the frames as these segments, all of which acknowledge what the
stream expects next. -/
structure Shows (stream : Stream) (frames : List Bytes) (segments : List Segment) : Prop where
  read : frames.map segmentIn =
    segments.map fun segment => some (stream.flow.reversed, segment)
  acknowledges : ∀ segment ∈ segments,
    segment.has .ack = true ∧ segment.header.acknowledgment = stream.guestNext

namespace Shows

variable {stream : Stream} {frames : List Bytes} {segments : List Segment}

theorem nothing (stream : Stream) : stream.Shows [] [] := ⟨rfl, by simp⟩

theorem congr {other : Stream} (shown : stream.Shows frames segments)
    (flow : other.flow = stream.flow) (next : other.guestNext = stream.guestNext) :
    other.Shows frames segments := by
  obtain ⟨read, acknowledges⟩ := shown
  rw [← flow] at read
  rw [← next] at acknowledges
  exact ⟨read, acknowledges⟩

theorem exists_of_mem (shown : stream.Shows frames segments) {frame : Bytes}
    (member : frame ∈ frames) :
    ∃ segment ∈ segments, segmentIn frame = some (stream.flow.reversed, segment) := by
  have read : segmentIn frame ∈ frames.map segmentIn := List.mem_map_of_mem member
  rw [shown.read] at read
  obtain ⟨segment, sent, same⟩ := List.mem_map.mp read
  exact ⟨segment, sent, same.symm⟩

theorem segmentsIn_eq (shown : stream.Shows frames segments) : segmentsIn frames = segments := by
  have read := shown.read
  clear shown
  induction frames generalizing segments with
  | nil =>
      rw [List.map_nil] at read
      rw [List.map_eq_nil_iff.mp read.symm]
      rfl
  | cons frame rest ih =>
      cases segments with
      | nil => cases read
      | cons segment others =>
          obtain ⟨first, later⟩ := List.cons.inj read
          have tail := ih later
          unfold segmentsIn at tail ⊢
          rw [List.filterMap_cons, first, tail]
          rfl

end Shows

def header (stream : Stream) (flags : UInt8) (sequence : UInt32) : Packet.TcpHeader :=
  .bare stream.flow.outside.port stream.flow.guest.port sequence stream.guestNext flags window

/-- A frame is built for every payload of a turn, and is read with the header and the options
that it was built with. -/
theorem frame_built (stream : Stream) (now : Nat) (flags : UInt8) (sequence : UInt32)
    {payload : Bytes} (fits : payload.length ≤ mostRead) :
    ∃ frame sum, stream.frame now flags sequence payload = .ok frame ∧
      segmentIn frame = some (stream.flow.reversed,
        ⟨(stream.header flags sequence).sized
            (Packet.Timestamps.block ⟨UInt32.ofNat now, stream.guestClock⟩) sum,
          Packet.Timestamps.block ⟨UInt32.ofNat now, stream.guestClock⟩, payload⟩) := by
  have bound : payload.length ≤ 65000 := Nat.le_trans fits (by decide)
  obtain ⟨bytes, frame, sum, assembled, framed, read⟩ := Packet.segmentIn_frame
    (Answer.frameTo stream.guestMac Packet.EthernetHeader.ipv4)
    (.between stream.flow.outside.address stream.flow.guest.address Transport.tcp.protocol
      stream.identification Answer.hops)
    (stream.header flags sequence)
    (Packet.Timestamps.block ⟨UInt32.ofNat now, stream.guestClock⟩) rfl rfl rfl
    (by simp) (by simp) bound
  refine ⟨frame, sum, ?_, read⟩
  unfold Stream.frame
  dsimp only
  dsimp only [Packet.Ipv4Header.between, header] at assembled
  rw [assembled]
  exact framed

theorem frame_read (stream : Stream) (now : Nat) (flags : UInt8) (sequence : UInt32)
    {payload : Bytes} (fits : payload.length ≤ mostRead) :
    ∃ frame segment, stream.frame now flags sequence payload = .ok frame ∧
      segmentIn frame = some (stream.flow.reversed, segment) ∧
      segment.header.acknowledgment = stream.guestNext ∧
      IsAt segment flags sequence payload := by
  obtain ⟨frame, sum, built, read⟩ := stream.frame_built now flags sequence fits
  exact ⟨frame, _, built, read, rfl, rfl, rfl, rfl⟩

theorem emit_shows (stream : Stream) (now : Nat) (flags : UInt8) (sequence : UInt32)
    {payload : Bytes} (fits : payload.length ≤ mostRead)
    (acknowledges : (flags.toNat / ControlBit.ack.value % 2 == 1) = true) :
    ∃ segment, stream.Shows (stream.emit now flags sequence payload).2 [segment] ∧
      IsAt segment flags sequence payload := by
  obtain ⟨frame, segment, built, read, acknowledged, isAt⟩ :=
    frame_read stream now flags sequence fits
  refine ⟨segment, ⟨?_, ?_⟩, isAt⟩
  · unfold emit
    rw [built]
    simp [read]
  · intro other only
    rw [List.mem_singleton.mp only, isAt.has]
    exact ⟨acknowledges, acknowledged⟩

end Stream

end Masquerade
