import Masquerade.Proofs.Gateway.Passing
import Masquerade.Proofs.Gateway.WellFormed

/-!
# How segments are refused

A segment is refused with one reset, which can always be built and goes back to the guest
that has sent it.  A segment without a stream that asks for none is refused if it is not a
reset itself, and nothing else is done about it.
-/

set_option autoImplicit false

namespace Masquerade

open Packet (ControlBit Delivery EthernetHeader Ipv4Header TcpHeader segmentIn)

def Segment.marks (segment : Segment) : Nat :=
  (segment.has .syn).toNat + (segment.has .fin).toNat

/-- The frame is for a guest and holds a bare reset for the other direction of its flow, with
these numbers. -/
structure IsReset (guest : Mac) (flow : Flow) (sequence acknowledgment : UInt32)
    (frame : Bytes) : Prop where
  toGuest : ∃ delivery, Delivery.read frame = some delivery ∧
    delivery.ethernet = ⟨guest, Settings.gatewayMac, EthernetHeader.ipv4⟩
  segment : ∃ answer, segmentIn frame = some (flow.reversed, answer) ∧
    Stream.IsAt answer (ControlBit.byteOf [.rst, .ack]) sequence [] ∧
    answer.header.acknowledgment = acknowledgment

theorem reset_ok (guest : Mac) (flow : Flow) (header : TcpHeader) (length : Nat) :
    ∃ frame, Answer.reset guest flow header length = .ok frame ∧
      IsReset guest flow (if header.has .ack then header.acknowledgment else 0)
        (header.sequence + Answer.span header length) frame := by
  let refusal := TcpHeader.bare flow.outside.port flow.guest.port
    (if header.has .ack then header.acknowledgment else 0)
    (header.sequence + Answer.span header length) (ControlBit.byteOf [.rst, .ack]) 0
  let ip : Ipv4Header :=
    .between flow.outside.address flow.guest.address Transport.tcp.protocol 0 Answer.hops
  have carries : (Answer.frameTo guest EthernetHeader.ipv4).etherType = EthernetHeader.ipv4 := rfl
  have fits : ([] : Bytes).length ≤ 65000 := by decide
  obtain ⟨bytes, frame, sum, assembled, framed, read⟩ := Packet.segmentIn_frame
    (Answer.frameTo guest EthernetHeader.ipv4) ip refusal [] carries rfl rfl
    (by decide) (by decide) fits
  have short : Ipv4Header.size + bytes.length ≤ 65535 := by
    have bound := (Packet.isSegmentOf_of_built assembled).2
    have minimum : Ipv4Header.size = 20 := rfl
    rw [List.length_nil] at bound
    omega
  obtain ⟨other, _, same, delivered⟩ := Packet.read_ipv4Frame ip carries short
  rw [framed] at same
  cases same
  refine ⟨frame, ?_, ⟨_, delivered, rfl⟩, ⟨_, read, ⟨rfl, rfl, rfl⟩, rfl⟩⟩
  rw [Answer.reset]
  dsimp only [ip, Ipv4Header.between] at assembled
  rw [assembled]
  exact framed

namespace World

theorem refuse_posts (world : World) (sender : NicId) (guest : Mac) (flow : Flow)
    (segment : Segment) (length : Nat) :
    ∃ reset, world.refuse sender guest flow segment length = world.post sender [reset] ∧
      IsReset guest flow (if segment.has .ack then segment.header.acknowledgment else 0)
        (segment.header.sequence + UInt32.ofNat (length + segment.marks)) reset := by
  obtain ⟨reset, built, isReset⟩ := reset_ok guest flow segment.header length
  refine ⟨reset, ?_, ?_⟩
  · rw [refuse, built]
    rfl
  · rw [Answer.span, Nat.add_assoc] at isReset
    exact isReset

theorem passesOn_of_unmatched {world : World} {frame : Bytes} {guest : Mac} {flow : Flow}
    {segment : Segment} (sender : NicId)
    (submits : Submits world.gateway.subnet frame guest flow segment)
    (absent : world.gateway.streams.get? flow = none) (noOpening : segment.opens = false) :
    if segment.has .rst then
      PassesOn sender frame [] world.gateway.streams world (world.transmit sender frame)
    else ∃ reset,
      PassesOn sender frame [(sender, reset)] world.gateway.streams world
        (world.transmit sender frame) ∧
      IsReset guest flow (if segment.has .ack then segment.header.acknowledgment else 0)
        (segment.header.sequence + UInt32.ofNat (segment.payload.length + segment.marks))
        reset := by
  obtain ⟨handled, passes⟩ := transmit_of_submits sender submits
  rw [← world.spread_streams sender frame] at absent
  simp only [handled, onSegment, absent, noOpening, Bool.false_eq_true, if_false]
  cases isReset : segment.has .rst with
  | true =>
      simp only [if_true]
      exact passes
  | false =>
      simp only [Bool.false_eq_true, if_false]
      obtain ⟨reset, refused, numbers⟩ := (world.spread sender frame).refuse_posts sender guest
        flow segment segment.payload.length
      rw [refused]
      exact ⟨reset, passes.post sender reset, numbers⟩

end World

end Masquerade
