import Masquerade.Proofs.Packet.WellFormed
import Masquerade.Proofs.Stream.Emission

/-!
# Frames of a stream

Whatever turn a stream has, each frame that it sends is a well-formed segment of its
flow for its guest.
-/

set_option autoImplicit false

namespace Masquerade.Stream

open Packet (Delivery WellFormed segmentIn)

def Sends (stream : Stream) (frame : Bytes) : Prop :=
  ∃ source now flags sequence payload, SameParties stream source ∧ payload.length ≤ mostRead ∧
    source.frame now flags sequence payload = .ok frame

section Built

variable {stream source : Stream} {frame : Bytes} {now : Nat}

theorem emit_sends (parties : SameParties stream source) (flags : UInt8) (sequence : UInt32)
    {payload : Bytes} (fits : payload.length ≤ mostRead) :
    ∀ frame ∈ (source.emit now flags sequence payload).2, stream.Sends frame := by
  intro frame member
  rw [emit] at member
  split at member
  · rename_i built
    rw [List.mem_singleton] at member
    subst member
    exact ⟨source, now, flags, sequence, payload, parties, fits, built⟩
  · cases member

theorem acknowledge_sends (parties : SameParties stream source) :
    ∀ frame ∈ (source.acknowledge now).2, stream.Sends frame := by
  rw [acknowledge]
  split
  · exact emit_sends (parties.trans ⟨rfl, rfl, rfl, rfl⟩) _ _ (Nat.zero_le _)
  · exact emit_sends parties _ _ (Nat.zero_le _)

theorem disconnect_sends (parties : SameParties stream source) :
    ∀ frame ∈ (source.disconnect now).2, stream.Sends frame := by
  rw [disconnect_eq]
  exact acknowledge_sends (parties.trans ⟨rfl, rfl, rfl, rfl⟩)

theorem accept_sends (parties : SameParties stream source) :
    ∀ frame ∈ (source.accept now).2, stream.Sends frame :=
  emit_sends parties _ source.outsideNext (Nat.zero_le _)

theorem reset_sends (parties : SameParties stream source) :
    ∀ frame ∈ (source.reset now).2, stream.Sends frame :=
  emit_sends parties _ source.outsideNext (Nat.zero_le _)

theorem retransmit_sends (parties : SameParties stream source)
    (fits : source.unacknowledged.length ≤ mostRead) :
    ∀ frame ∈ (source.retransmit now).2, stream.Sends frame :=
  emit_sends parties _ source.unacknowledgedFrom fits

theorem deliver_sends (parties : SameParties stream source) {payload : Bytes}
    (fits : payload.length ≤ mostRead) : ∀ frame ∈ (source.deliver now payload).2, stream.Sends frame :=
  emit_sends (parties.trans ⟨rfl, rfl, rfl, rfl⟩) _ source.outsideNext fits

end Built

/-- What a turn sends, it builds for the guest. -/
theorem Move.sends {stream : Stream} {now : Nat} {cause : Cause} {calls : List Call}
    {sent : Stream × List Bytes} {ends : Bool} (move : Move stream now cause calls sent ends)
    (fits : stream.unacknowledged.length ≤ mostRead) : ∀ frame ∈ sent.2, stream.Sends frame := by
  have nothing : ∀ frame ∈ ([] : List Bytes), stream.Sends frame := by simp
  cases move with
  | outOfOrder | repeatedStart | withheld | tooBusy | acknowledged => exact nothing
  | idle | waited | nothingThere => exact nothing
  | brokenOff | refused => exact reset_sends ⟨rfl, rfl, rfl, rfl⟩
  | connected => exact accept_sends ⟨rfl, rfl, rfl, rfl⟩
  | notTaken => exact disconnect_sends (heard_parties ..)
  | taken => exact acknowledge_sends ((heard_parties ..).trans (advance_parties ..))
  | takenToTheEnd =>
      exact acknowledge_sends (((heard_parties ..).trans (advance_parties ..)).trans (close_parties _))
  | ended => exact acknowledge_sends ((heard_parties ..).trans (close_parties _))
  | failed | outsideEnded => exact disconnect_sends ⟨rfl, rfl, rfl, rfl⟩
  | sentAgain => exact retransmit_sends ⟨rfl, rfl, rfl, rfl⟩ fits
  | delivered _ _ _ fits => exact deliver_sends ⟨rfl, rfl, rfl, rfl⟩ fits

namespace Sends

variable {stream : Stream} {frame : Bytes}

theorem wellFormed (sends : stream.Sends frame) : WellFormed frame := by
  obtain ⟨source, now, flags, sequence, payload, _, fits, built⟩ := sends
  rw [Stream.frame] at built
  split at built
  · cases built
  · rename_i segment assembled
    have bound : 60 + payload.length ≤ Packet.longestPayload :=
      Nat.le_trans (Nat.add_le_add_left fits 60) (by decide)
    exact Packet.segmentFrame_wellFormed built assembled rfl rfl bound

theorem segmentIn (sends : stream.Sends frame) :
    ∃ segment, Packet.segmentIn frame = some (stream.flow.reversed, segment) := by
  obtain ⟨source, now, flags, sequence, payload, parties, fits, built⟩ := sends
  obtain ⟨other, segment, same, read, _, _⟩ := source.frame_read now flags sequence fits
  rw [built] at same
  cases same
  rw [← parties.flow]
  exact ⟨segment, read⟩

theorem toGuest (sends : stream.Sends frame) :
    ∃ delivery, Delivery.read frame = some delivery ∧
      delivery.ethernet.destination = stream.guestMac := by
  obtain ⟨source, now, flags, sequence, payload, parties, fits, built⟩ := sends
  rw [Stream.frame] at built
  split at built
  · cases built
  · rename_i segment assembled
    have short := (Packet.isSegmentOf_of_built assembled).2
    have most : mostRead = 1024 := rfl
    have header : Packet.Ipv4Header.size = 20 := rfl
    have carries : (Answer.frameTo source.guestMac Packet.EthernetHeader.ipv4).etherType =
        Packet.EthernetHeader.ipv4 := rfl
    have small : Packet.Ipv4Header.size + segment.length ≤ 65535 := by omega
    obtain ⟨other, sum, same, read⟩ := Packet.read_ipv4Frame
      (.between source.flow.outside.address source.flow.guest.address Transport.tcp.protocol
        source.identification Answer.hops) carries small
    rw [built] at same
    cases same
    exact ⟨_, read, parties.guestMac⟩

end Sends

end Masquerade.Stream
