import Masquerade.Proofs.Stream.Forwarding
import Masquerade.Proofs.Stream.Supplied

/-!
# The phases of a stream

A turn never takes a stream back to an earlier phase, and sends the last mark as soon
as the end of our stream is reached.  So the phase alone tells what may be sent: the
mark of the beginning on the way into the connected phase, bytes within it, and the
last mark on the way out.
-/

set_option autoImplicit false

namespace Masquerade.Stream

open Packet (ControlBit)

def IsSettled (stream : Stream) : Prop := stream.finSent = stream.phase.isClosing

/-! ## Forward only -/

theorem rank_le_bothClosed (phase : Phase) : phase.rank ≤ Phase.bothClosed.rank := by
  cases phase <;> decide

theorem rank_le_withoutOutside (stream : Stream) :
    stream.phase.rank ≤ stream.withoutOutside.phase.rank := by
  simp only [withoutOutside]
  cases stream.phase <;> decide

theorem disconnect_phase (stream : Stream) (now : Nat) :
    (stream.disconnect now).1.phase = stream.withoutOutside.phase := by
  rw [disconnect_eq, acknowledge_phase]

theorem acknowledge_finSent (stream : Stream) (now : Nat) :
    (stream.acknowledge now).1.finSent = (stream.finSent || stream.phase.isClosing) := by
  simp only [acknowledge]
  split
  · rename_i due
    rw [Bool.and_eq_true] at due
    rw [due.1, Bool.or_true]
    rfl
  · rename_i undue
    cases closing : stream.phase.isClosing with
    | false => exact (Bool.or_false _).symm
    | true =>
        cases sent : stream.finSent with
        | true => exact sent
        | false => exact absurd (by rw [closing, sent]; rfl) undue

theorem IsSettled.congr {before after : Stream} (settled : before.IsSettled)
    (phase : after.phase = before.phase) (finSent : after.finSent = before.finSent) :
    after.IsSettled := by
  rw [IsSettled, phase, finSent]
  exact settled

theorem IsSettled.heard {stream : Stream} (settled : stream.IsSettled) (segment : Segment) :
    (stream.heard segment).IsSettled :=
  settled.congr (heard_phase ..) (heard_finSent ..)

theorem acknowledge_settled {stream : Stream}
    (closing : stream.finSent = true → stream.phase.isClosing = true) (now : Nat) :
    (stream.acknowledge now).1.IsSettled := by
  rw [IsSettled, acknowledge_finSent, acknowledge_phase]
  cases sent : stream.finSent with
  | false => exact Bool.false_or _
  | true => exact (closing sent).symm

theorem IsSettled.acknowledge {stream : Stream} (settled : stream.IsSettled) (now : Nat) :
    (stream.acknowledge now).1.IsSettled :=
  acknowledge_settled (fun sent => settled.symm.trans sent) now

theorem IsSettled.disconnect {stream : Stream} (settled : stream.IsSettled) (now : Nat) :
    (stream.disconnect now).1.IsSettled := by
  rw [disconnect_eq]
  refine acknowledge_settled (fun sent => ?_) now
  have closing : stream.phase.isClosing = true := settled.symm.trans sent
  simp only [withoutOutside, closing, if_true]

theorem close_acknowledge_settled (stream : Stream) (now : Nat) :
    (stream.close.acknowledge now).1.IsSettled :=
  acknowledge_settled (fun _ => rfl) now

namespace Move

variable {stream : Stream} {now : Nat} {cause : Cause} {calls : List Call}
  {sent : Stream × List Bytes} {ends : Bool}

theorem forward (move : Move stream now cause calls sent ends) :
    stream.phase.rank ≤ sent.1.phase.rank := by
  cases move with
  | outOfOrder | brokenOff | repeatedStart | idle | refused | sentAgain | waited | delivered
  | nothingThere => exact Nat.le_refl _
  | withheld | tooBusy | acknowledged => exact Nat.le_of_eq (congrArg Phase.rank (heard_phase ..).symm)
  | @notTaken segment =>
      have parted := rank_le_withoutOutside (stream.heard segment)
      rw [heard_phase] at parted
      rw [disconnect_phase]
      exact parted
  | @taken segment count =>
      have same : ((stream.heard segment).advance count).phase = stream.phase := heard_phase ..
      rw [acknowledge_phase]
      exact Nat.le_of_eq (congrArg Phase.rank same.symm)
  | takenToTheEnd | ended =>
      rw [acknowledge_phase]
      exact rank_le_bothClosed _
  | connected phase =>
      rw [phase]
      exact Nat.zero_le _
  | failed | outsideEnded =>
      rw [disconnect_phase]
      exact rank_le_withoutOutside stream

theorem settled (move : Move stream now cause calls sent ends) (settled : stream.IsSettled) :
    sent.1.IsSettled := by
  cases move with
  | outOfOrder | brokenOff | repeatedStart | idle | refused | sentAgain | waited | delivered
  | nothingThere => exact settled
  | withheld | tooBusy | acknowledged => exact settled.heard _
  | notTaken => exact (settled.heard _).disconnect now
  | @taken segment count =>
      have advanced : ((stream.heard segment).advance count).IsSettled :=
        (settled.heard segment).congr rfl rfl
      exact advanced.acknowledge now
  | takenToTheEnd | ended => exact close_acknowledge_settled _ now
  | connected phase =>
      rw [IsSettled, phase] at settled
      exact settled
  | failed | outsideEnded => exact settled.disconnect now

theorem connects (move : Move stream now cause calls sent ends)
    (before : stream.phase = .connecting) (after : sent.1.phase = .connected) :
    ∃ rounds ready, cause = .ready rounds ready := by
  cases cause with
  | ready rounds ready => exact ⟨rounds, ready, rfl⟩
  | segment segment =>
      cases move with
      | outOfOrder | brokenOff | repeatedStart =>
          have same : stream.phase = .connected := after
          rw [before] at same
          cases same
      | withheld | tooBusy | acknowledged =>
          rw [heard_phase, before] at after
          cases after
      | notTaken _ _ sending | taken _ _ sending =>
          rcases sending with connected | closed
          · rw [before] at connected
            cases connected
          · rw [before] at closed
            cases closed
      | takenToTheEnd | ended =>
          rw [acknowledge_phase] at after
          cases after

end Move

/-! ## What is sent in which phase -/

namespace Supply

variable {before after : Stream} {received : Bytes} {segments : List Segment}

/-- The mark of the beginning is sent on the way into the connected phase. -/
theorem start (supply : Supply before received segments after) {segment : Segment}
    (member : segment ∈ segments) (start : segment.has .syn = true) :
    segment.header.flags = ControlBit.byteOf [.syn, .ack] ∧ before.phase = .connecting ∧
      after.phase = .connected := by
  cases supply with
  | plain steady bare =>
      rw [(bare segment member).noStart] at start
      cases start
  | started phase isAt connected =>
      rw [List.mem_singleton] at member
      subst member
      exact ⟨isAt.flags, phase, connected⟩
  | delivered phase nonempty fits isAt | repeated phase waiting isAt | finished unsent isAt =>
      rw [List.mem_singleton] at member
      subst member
      rw [isAt.has] at start
      cases start

/-- The last mark is sent on the way to the end. -/
theorem ending (supply : Supply before received segments after) (settled : before.IsSettled)
    {segment : Segment} (member : segment ∈ segments) (ending : segment.has .fin = true) :
    segment.header.flags = ControlBit.byteOf [.ack, .fin] ∧ before.phase.isClosing = false ∧
      after.phase.isClosing = true := by
  cases supply with
  | plain steady bare =>
      rw [(bare segment member).noEnd] at ending
      cases ending
  | finished unsent isAt closing =>
      rw [List.mem_singleton] at member
      subst member
      exact ⟨isAt.flags, settled.symm.trans unsent, closing⟩
  | started phase isAt | delivered phase nonempty fits isAt | repeated phase waiting isAt =>
      rw [List.mem_singleton] at member
      subst member
      rw [isAt.has] at ending
      cases ending

theorem payload (supply : Supply before received segments after) (settled : before.IsSettled)
    (settledAfter : after.IsSettled) {segment : Segment} (member : segment ∈ segments)
    (nonempty : segment.payload ≠ []) : before.phase = .connected ∧ after.phase = .connected := by
  cases supply with
  | plain steady bare => exact absurd (bare segment member).empty nonempty
  | started phase isAt | finished unsent isAt =>
      rw [List.mem_singleton] at member
      subst member
      exact absurd isAt.payload nonempty
  | delivered phase _ _ _ samePhase => exact ⟨phase, samePhase.trans phase⟩
  | repeated phase waiting isAt steady =>
      refine ⟨phase, ?_⟩
      rcases steady.phase with same | closing
      · exact same.trans phase
      · have unsent : before.finSent = false := by
          rw [settled, phase]
          rfl
        rw [IsSettled, steady.finSent, unsent, closing] at settledAfter
        cases settledAfter

end Supply

end Masquerade.Stream
