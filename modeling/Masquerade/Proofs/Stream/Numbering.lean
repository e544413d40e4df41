import Masquerade.Proofs.Stream.Emission

/-!
# Numbers of packets

Each packet of a stream takes a number, also one that then cannot be built.  No turn leaves
such a gap: it sends as many frames as it takes numbers.
-/

set_option autoImplicit false

namespace Masquerade.Stream

def Numbers (stream : Stream) (sent : Stream × List Bytes) : Prop :=
  sent.1.identification = stream.identification + UInt16.ofNat sent.2.length

instance (stream : Stream) (sent : Stream × List Bytes) : Decidable (stream.Numbers sent) :=
  inferInstanceAs (Decidable (_ = _))

/-! ## One packet -/

theorem emit_frames (stream : Stream) (now : Nat) (flags : UInt8) (sequence : UInt32)
    (payload : Bytes) : (stream.emit now flags sequence payload).2 =
      (stream.frame now flags sequence payload).toOption.toList := by
  rw [emit]
  cases stream.frame now flags sequence payload with
  | error fault => rfl
  | ok frame => rfl

/-- The numbers agree exactly if the packet can be built. -/
theorem numbers_emit_iff (stream : Stream) (now : Nat) (flags : UInt8) (sequence : UInt32)
    (payload : Bytes) : stream.Numbers (stream.emit now flags sequence payload) ↔
      ∃ frame, stream.frame now flags sequence payload = .ok frame := by
  rw [Numbers, emit_frames]
  cases stream.frame now flags sequence payload with
  | error fault => simp [emit, Except.toOption]
  | ok frame => simp [emit, Except.toOption]

/-! ## One turn -/

section Sent

variable {stream : Stream} (source : Stream) {now : Nat}
  (same : source.identification = stream.identification)
include same

theorem numbers_nothing : stream.Numbers (source, []) := by
  rw [Numbers, same]
  exact (UInt16.add_zero _).symm

theorem numbers_emit (flags : UInt8) (sequence : UInt32) {payload : Bytes}
    (fits : payload.length ≤ mostRead) :
    stream.Numbers (source.emit now flags sequence payload) := by
  obtain ⟨frame, _, built, _⟩ := source.frame_read now flags sequence fits
  have numbers := (source.numbers_emit_iff now flags sequence payload).mpr ⟨frame, built⟩
  rwa [Numbers, same] at numbers

theorem numbers_accept : stream.Numbers (source.accept now) :=
  numbers_emit source same _ source.outsideNext (Nat.zero_le _)

theorem numbers_reset : stream.Numbers (source.reset now) :=
  numbers_emit source same _ source.outsideNext (Nat.zero_le _)

theorem numbers_acknowledge : stream.Numbers (source.acknowledge now) := by
  rw [acknowledge]
  split
  · exact numbers_emit { source with finSent := true } same _ source.outsideNext (Nat.zero_le _)
  · exact numbers_emit source same _ source.outsideNext (Nat.zero_le _)

theorem numbers_disconnect : stream.Numbers (source.disconnect now) := by
  rw [disconnect_eq]
  exact numbers_acknowledge source.withoutOutside same

theorem numbers_retransmit (fits : source.unacknowledged.length ≤ mostRead) :
    stream.Numbers (source.retransmit now) :=
  numbers_emit source same _ source.unacknowledgedFrom fits

end Sent

theorem numbers_deliver (stream : Stream) (now : Nat) {payload : Bytes}
    (fits : payload.length ≤ mostRead) : stream.Numbers (stream.deliver now payload) :=
  numbers_emit
    { stream with
      unacknowledged := payload, unacknowledgedFrom := stream.outsideNext, waitedRounds := 0 }
    rfl _ stream.outsideNext fits

@[simp] theorem heard_identification (stream : Stream) (segment : Segment) :
    (stream.heard segment).identification = stream.identification := by
  rw [heard, release]
  split <;> rfl

/-- A stream whose kept bytes fit a segment sends what it takes numbers for. -/
theorem Move.numbers {stream : Stream} {now : Nat} {cause : Cause} {calls : List Call}
    {sent : Stream × List Bytes} {ends : Bool} (move : Move stream now cause calls sent ends)
    (fits : stream.unacknowledged.length ≤ mostRead) : stream.Numbers sent := by
  have heard := stream.heard_identification
  cases move with
  | outOfOrder | repeatedStart | idle | waited | nothingThere => exact numbers_nothing _ rfl
  | withheld | tooBusy | acknowledged => exact numbers_nothing _ (heard _)
  | brokenOff | refused => exact numbers_reset _ rfl
  | connected => exact numbers_accept _ rfl
  | notTaken => exact numbers_disconnect _ (heard _)
  | taken => exact numbers_acknowledge ((stream.heard _).advance _) (heard _)
  | takenToTheEnd => exact numbers_acknowledge ((stream.heard _).advance _).close (heard _)
  | ended => exact numbers_acknowledge (stream.heard _).close (heard _)
  | failed | outsideEnded => exact numbers_disconnect _ rfl
  | sentAgain => exact numbers_retransmit _ rfl fits
  | delivered _ _ _ fits => exact stream.numbers_deliver now fits

theorem turn_numbers (stream : Stream) (now : Nat) (kernel : Kernel) (cause : Cause)
    (fits : stream.unacknowledged.length ≤ mostRead) :
    stream.Numbers
      ((stream.turn now kernel cause).stream, (stream.turn now kernel cause).frames) := by
  obtain ⟨_, _, move⟩ := stream.turn_move now kernel cause
  exact move.numbers fits

end Masquerade.Stream
