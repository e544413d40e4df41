import Masquerade.Proofs.Stream.Forwarding
import Masquerade.Proofs.Stream.Supply

/-!
# How streams begin

While a stream is being connected, a turn leaves it so, accepts the connection or gives
it up.  Nothing is taken from the guest meanwhile, with one exception: the last mark is
accepted as soon as it comes in its place, and then our own is sent before any other.
-/

set_option autoImplicit false

namespace Masquerade.Stream

open Packet (ControlBit)

inductive Begins (before : Stream) (cause : Cause) : List Call → List Segment → Stream → Prop
  | waits {after : Stream} (phase : after.phase = .connecting)
      (next : after.outsideNext = before.outsideNext) (guestNext : after.guestNext = before.guestNext)
      (noFin : cause.acceptsFin before [] = false) : Begins before cause [] [] after
  | accepts {segment : Segment} {after : Stream}
      (isAt : IsAt segment (ControlBit.byteOf [.syn, .ack]) before.outsideNext [])
      (acknowledges : segment.header.acknowledgment = before.guestNext)
      (phase : after.phase = .connected) (noFin : cause.acceptsFin before [] = false) :
      Begins before cause [] [segment] after
  | givesUp {segment : Segment} {after : Stream}
      (isAt : IsAt segment (ControlBit.byteOf [.rst, .ack]) before.outsideNext [])
      (phase : after.phase = .connecting) (next : after.outsideNext = before.outsideNext)
      (guestNext : after.guestNext = before.guestNext)
      (noFin : cause.acceptsFin before [] = false) : Begins before cause [] [segment] after
  /-- The guest has closed before anything was connected. -/
  | ends {result : Except Errno Unit} {segment : Segment} {after : Stream}
      (isAt : IsAt segment (ControlBit.byteOf [.ack, .fin]) before.outsideNext [])
      (phase : after.phase = .bothClosed) (fin : cause.acceptsFin before [] = true) :
      Begins before cause [.shutdown before.socket result] [segment] after

theorem not_isSending {stream : Stream} (phase : stream.phase = .connecting) :
    ¬ stream.IsSending := by
  intro sending
  rcases sending with connected | closed
  · rw [phase] at connected
    cases connected
  · rw [phase] at closed
    cases closed

theorem Forwards.noFin_of_nil {before after : Stream} {cause : Cause}
    (forwards : Forwards before cause [] after) : cause.acceptsFin before [] = false := by
  cases forwards with
  | nothing _ _ _ _ _ _ noFin => exact noFin

/-- The answer to the last mark of a guest carries ours, if that was not sent before. -/
theorem close_acknowledge_shows {stream : Stream} (unsent : stream.finSent = false) (now : Nat) :
    ∃ segment, (stream.close.acknowledge now).1.Shows (stream.close.acknowledge now).2 [segment] ∧
      IsAt segment (ControlBit.byteOf [.ack, .fin]) stream.outsideNext [] := by
  have due : (stream.close.phase.isClosing && !stream.close.finSent) = true := by
    have same : stream.close.finSent = false := unsent
    rw [same]
    rfl
  have fits : ([] : Bytes).length ≤ mostRead := Nat.zero_le _
  obtain ⟨segment, shown, isAt⟩ := emit_shows { stream.close with finSent := true } now
    (ControlBit.byteOf [.ack, .fin]) stream.close.outsideNext fits (by decide)
  rw [acknowledge, if_pos due]
  exact ⟨segment, shown.congr rfl rfl, isAt⟩

theorem Move.begins {stream : Stream} {now : Nat} {cause : Cause} {calls : List Call}
    {sent : Stream × List Bytes} {ends : Bool} (move : Move stream now cause calls sent ends)
    (phase : stream.phase = .connecting) (unsent : stream.finSent = false) :
    ∃ segments, sent.1.Shows sent.2 segments ∧ Begins stream cause calls segments sent.1 := by
  have forwards := move.forwards
  have none : ([] : Bytes).length ≤ mostRead := Nat.zero_le _
  cases move with
  | outOfOrder | repeatedStart | idle =>
      exact ⟨[], .nothing _, .waits phase rfl rfl forwards.noFin_of_nil⟩
  | withheld | acknowledged =>
      exact ⟨[], .nothing _, .waits ((heard_phase ..).trans phase) (heard_outsideNext ..)
        (heard_guestNext ..) forwards.noFin_of_nil⟩
  | @brokenOff segment =>
      obtain ⟨answer, shown, isAt⟩ := emit_shows (stream.note segment) now
        (ControlBit.byteOf [.rst, .ack]) stream.outsideNext none (by decide)
      exact ⟨[answer], shown.congr rfl rfl, .givesUp isAt phase rfl rfl forwards.noFin_of_nil⟩
  | refused =>
      obtain ⟨answer, shown, isAt⟩ := emit_shows stream now (ControlBit.byteOf [.rst, .ack])
        stream.outsideNext none (by decide)
      exact ⟨[answer], shown.congr rfl rfl, .givesUp isAt phase rfl rfl forwards.noFin_of_nil⟩
  | connected =>
      obtain ⟨answer, shown, isAt⟩ := emit_shows { stream with phase := .connected } now
        (ControlBit.byteOf [.syn, .ack]) stream.outsideNext none (by decide)
      have acknowledges := (shown.acknowledges answer (List.mem_singleton_self _)).2
      exact ⟨[answer], shown.congr rfl rfl,
        .accepts isAt acknowledges rfl forwards.noFin_of_nil⟩
  | @ended segment result carries empty isLast =>
      obtain ⟨answer, shown, isAt⟩ :=
        close_acknowledge_shows ((heard_finSent stream segment).trans unsent) now
      rw [heard_outsideNext] at isAt
      refine ⟨[answer], shown, .ends isAt ((acknowledge_phase ..).trans rfl) ?_⟩
      rw [carries.acceptsFin (Or.inr isLast), isLast, empty]
      rfl
  | tooBusy _ _ sending | notTaken _ _ sending | taken _ _ sending | takenToTheEnd _ _ sending =>
      exact absurd sending (not_isSending phase)
  | failed connected | sentAgain connected | waited connected | delivered connected
  | nothingThere connected | outsideEnded connected =>
      rw [phase] at connected
      cases connected

end Masquerade.Stream
