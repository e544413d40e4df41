import Masquerade.Proofs.Kernel.Offers
import Masquerade.Proofs.Stream.Emission
import Masquerade.Proofs.Stream.Forwarding

/-!
# One segment a turn

Whatever a turn does, it sends one segment at most and offers or reads bytes once at most.
The segment tells how the stream stands when the turn is over: it acknowledges what was taken
of the guest by then, and shows the clock of the guest as it was heard last.  A turn that
takes something sends one.
-/

set_option autoImplicit false

namespace Masquerade.Stream

open Packet (ControlBit Timestamps segmentIn)

/-- The frame is a segment for the guest, with what the stream expects next and with two
clocks: the time at which it is sent, and what was heard of the guest. -/
def Tells (stream : Stream) (now : Nat) (frame : Bytes) : Prop :=
  ∃ segment, segmentIn frame = some (stream.flow.reversed, segment) ∧
    segment.has .ack = true ∧ segment.header.acknowledgment = stream.guestNext ∧
    Timestamps.find? segment.options = some ⟨UInt32.ofNat now, stream.guestClock⟩

def SendsOne (now : Nat) (sent : Stream × List Bytes) : Prop :=
  ∃ frame, sent.2 = [frame] ∧ sent.1.Tells now frame

/-! ## One segment -/

section SendsOne

variable (stream : Stream) (now : Nat)

theorem emit_sendsOne (flags : UInt8) (sequence : UInt32) {payload : Bytes}
    (fits : payload.length ≤ mostRead)
    (acknowledges : (flags.toNat / ControlBit.ack.value % 2 == 1) = true) :
    SendsOne now (stream.emit now flags sequence payload) := by
  obtain ⟨frame, sum, built, read⟩ := stream.frame_built now flags sequence fits
  refine ⟨frame, ?_, _, read, acknowledges, rfl, Timestamps.find?_block _⟩
  rw [emit, built]

theorem accept_sendsOne : SendsOne now (stream.accept now) :=
  stream.emit_sendsOne now (ControlBit.byteOf [.syn, .ack]) stream.outsideNext (Nat.zero_le _)
    (by decide)

theorem reset_sendsOne : SendsOne now (stream.reset now) :=
  stream.emit_sendsOne now (ControlBit.byteOf [.rst, .ack]) stream.outsideNext (Nat.zero_le _)
    (by decide)

theorem acknowledge_sendsOne : SendsOne now (stream.acknowledge now) := by
  rw [acknowledge]
  split
  · exact emit_sendsOne { stream with finSent := true } now (ControlBit.byteOf [.ack, .fin])
      stream.outsideNext (Nat.zero_le _) (by decide)
  · exact stream.emit_sendsOne now (ControlBit.byteOf [.ack]) stream.outsideNext (Nat.zero_le _)
      (by decide)

theorem disconnect_sendsOne : SendsOne now (stream.disconnect now) :=
  stream.withoutOutside.acknowledge_sendsOne now

theorem deliver_sendsOne {payload : Bytes} (fits : payload.length ≤ mostRead) :
    SendsOne now (stream.deliver now payload) :=
  emit_sendsOne
    { stream with
      unacknowledged := payload, unacknowledgedFrom := stream.outsideNext, waitedRounds := 0 }
    now (ControlBit.byteOf [.ack, .psh]) stream.outsideNext fits (by decide)

theorem retransmit_sendsOne (fits : stream.unacknowledged.length ≤ mostRead) :
    SendsOne now (stream.retransmit now) :=
  stream.emit_sendsOne now (ControlBit.byteOf [.ack, .psh]) stream.unacknowledgedFrom fits
    (by decide)

end SendsOne

/-! ## One turn -/

section Moves

variable {stream : Stream} {now : Nat} {cause : Cause} {calls : List Call}
  {sent : Stream × List Bytes} {ends : Bool}

/-- A turn that takes anything of the guest answers it, and any turn sends one segment or
nothing. -/
theorem Move.answers (move : Move stream now cause calls sent ends)
    (fits : stream.unacknowledged.length ≤ mostRead) :
    SendsOne now sent ∨ (sent.2 = [] ∧ acceptedIn calls = 0) := by
  have forwards := move.forwards
  cases move with
  | outOfOrder | repeatedStart | withheld | tooBusy | acknowledged | idle | waited
  | nothingThere =>
      cases forwards with
      | nothing untaken noShutdown => exact Or.inr ⟨rfl, acceptedIn_eq_zero untaken noShutdown⟩
  | brokenOff | refused => exact Or.inl (reset_sendsOne ..)
  | notTaken | failed | outsideEnded => exact Or.inl (disconnect_sendsOne ..)
  | taken | takenToTheEnd | ended => exact Or.inl (acknowledge_sendsOne ..)
  | connected => exact Or.inl (accept_sendsOne ..)
  | sentAgain => exact Or.inl (retransmit_sendsOne _ now fits)
  | delivered _ _ _ fits => exact Or.inl (stream.deliver_sendsOne now fits)

theorem Move.length_frames_le (move : Move stream now cause calls sent ends)
    (fits : stream.unacknowledged.length ≤ mostRead) : sent.2.length ≤ 1 := by
  rcases move.answers fits with ⟨frame, one, _⟩ | ⟨none, _⟩
  · rw [one]
    exact Nat.le_refl 1
  · rw [none]
    exact Nat.zero_le 1

theorem Move.offers_le (move : Move stream now cause calls sent ends) :
    calls.countP Call.isOffer ≤ 1 := by
  cases move <;> simp [List.countP_cons, Call.isOffer]

theorem Move.receives_le (move : Move stream now cause calls sent ends) :
    calls.countP Call.isReceive ≤ 1 := by
  cases move <;> simp [List.countP_cons, Call.isReceive]

end Moves

/-! ## The clock of the guest -/

/-- The clock of the guest in what gives a stream its turn.  Of segments, those count that are
in order, unless they only ask for the stream once more. -/
def Cause.clock (before : Stream) : Cause → Option UInt32
  | .segment arrived =>
    if before.isInOrder arrived && !arrived.opens then
      (Timestamps.find? arrived.options).map Timestamps.value
    else none
  | .ready _ _ => none

def Cause.isOpening : Cause → Bool
  | .segment arrived => arrived.opens
  | .ready _ _ => false

@[simp] theorem heard_guestClock (stream : Stream) (segment : Segment) :
    (stream.heard segment).guestClock =
      ((Timestamps.find? segment.options).map Timestamps.value).getD stream.guestClock := by
  unfold heard release
  split <;> rfl

@[simp] theorem acknowledge_guestClock (stream : Stream) (now : Nat) :
    (stream.acknowledge now).1.guestClock = stream.guestClock := by
  unfold acknowledge
  split <;> rfl

theorem Move.guestClock {stream : Stream} {now : Nat} {cause : Cause} {calls : List Call}
    {sent : Stream × List Bytes} {ends : Bool} (move : Move stream now cause calls sent ends)
    (plain : cause.isOpening = false) :
    sent.1.guestClock = (cause.clock stream).getD stream.guestClock := by
  have heard : ∀ {segment : Segment}, stream.isInOrder segment = true → segment.opens = false →
      (Cause.segment segment).clock stream =
        (Timestamps.find? segment.options).map Timestamps.value := by
    intro segment order plain
    simp [Cause.clock, order, plain]
  cases move with
  | outOfOrder order => simp [Cause.clock, order]
  | brokenOff order | repeatedStart order =>
      rw [heard order plain]
      rfl
  | withheld carries | tooBusy carries | acknowledged carries =>
      rw [heard carries.inOrder plain, heard_guestClock]
  | notTaken carries =>
      rw [heard carries.inOrder plain, disconnect_eq, acknowledge_guestClock, withoutOutside,
        heard_guestClock]
  | taken carries =>
      rw [heard carries.inOrder plain, acknowledge_guestClock, advance, heard_guestClock]
  | takenToTheEnd carries =>
      rw [heard carries.inOrder plain, acknowledge_guestClock, close, advance, heard_guestClock]
  | ended carries =>
      rw [heard carries.inOrder plain, acknowledge_guestClock, close, heard_guestClock]
  | idle | connected | refused | sentAgain | waited | delivered | nothingThere => rfl
  | failed | outsideEnded => exact acknowledge_guestClock ..

end Masquerade.Stream
