import Masquerade.Proofs.Stream.Waiting

/-!
# Which acknowledgments take effect

The guest can have received what was sent and nothing else, and it does not take back what
it has acknowledged.  A stream does not look at that: it notes the number of every segment
in order, and forgets the bytes that wait for each number at or past their end.
-/

set_option autoImplicit false

namespace Masquerade.Stream

/-- In the circle of sequence numbers, the number lies at or past what the guest has
acknowledged last, and not past what was sent. -/
def MayBeAcknowledged (stream : Stream) (number : UInt32) : Prop :=
  (number - stream.guestAcknowledged).toNat ≤ (stream.outsideNext - stream.guestAcknowledged).toNat

instance (stream : Stream) (number : UInt32) : Decidable (stream.MayBeAcknowledged number) :=
  inferInstanceAs (Decidable (_ ≤ _))

theorem mayBeAcknowledged_again (stream : Stream) :
    stream.MayBeAcknowledged stream.guestAcknowledged := by
  unfold MayBeAcknowledged
  rw [UInt32.sub_self]
  exact Nat.zero_le _

def TakesEffect (before after : Stream) : Prop :=
  after.guestAcknowledged ≠ before.guestAcknowledged ∨
    before.unacknowledged ≠ [] ∧ after.unacknowledged = []

instance (before after : Stream) : Decidable (TakesEffect before after) :=
  inferInstanceAs (Decidable (_ ∨ _))

/-- What a segment has acknowledged in a stream that stays.  Only numbers that may be
acknowledged take effect, except where a segment in order brings another one. -/
structure Acknowledges (before : Stream) (segment : Segment) (after : Stream) : Prop where
  noted : after.guestAcknowledged =
    if before.isInOrder segment = true ∧ segment.has .ack = true then
      segment.header.acknowledgment
    else before.guestAcknowledged
  forgotten : before.unacknowledged ≠ [] →
    (after.unacknowledged = [] ↔ before.IsReleasedBy segment ∧ segment.has .syn = false)
  effect : (TakesEffect before after → segment.has .ack = true ∧
      before.MayBeAcknowledged segment.header.acknowledgment) ↔
    ¬ (before.isInOrder segment = true ∧ segment.has .ack = true ∧
      ¬ before.MayBeAcknowledged segment.header.acknowledgment)

section Effect

variable {before after : Stream} {segment : Segment}

theorem Acknowledges.of_parts
    (noted : after.guestAcknowledged =
      if before.isInOrder segment = true ∧ segment.has .ack = true then
        segment.header.acknowledgment
      else before.guestAcknowledged)
    (forgotten : before.unacknowledged ≠ [] →
      (after.unacknowledged = [] ↔ before.IsReleasedBy segment ∧ segment.has .syn = false)) :
    before.Acknowledges segment after := by
  refine ⟨noted, forgotten, ⟨?_, ?_⟩⟩
  · rintro onlyThese ⟨order, marked, other⟩
    rw [if_pos ⟨order, marked⟩] at noted
    have changed : after.guestAcknowledged ≠ before.guestAcknowledged := by
      intro same
      rw [← noted, same] at other
      exact other before.mayBeAcknowledged_again
    exact other (onlyThese (Or.inl changed)).2
  · intro noOther effect
    have heard : before.isInOrder segment = true ∧ segment.has .ack = true := by
      rcases effect with changed | ⟨waiting, none⟩
      · refine Decidable.byContradiction fun unheard => ?_
        rw [if_neg unheard] at noted
        exact changed noted
      · obtain ⟨⟨order, marked, _⟩, _⟩ := (forgotten waiting).mp none
        exact ⟨order, marked⟩
    exact ⟨heard.2, Decidable.byContradiction fun other => noOther ⟨heard.1, heard.2, other⟩⟩

end Effect

/-! ## Turns -/

theorem heard_forgets_iff {stream : Stream} {segment : Segment}
    (order : stream.isInOrder segment = true) (waiting : stream.unacknowledged ≠ []) :
    (stream.heard segment).unacknowledged = [] ↔ stream.IsReleasedBy segment := by
  constructor
  · intro none
    rcases heard_waiting order with kept | ⟨released, _⟩
    · exact absurd (kept.1.symm.trans none) waiting
    · exact released
  · rintro ⟨_, marked, past⟩
    have acknowledged : segment.header.has .ack = true := marked
    have nonempty : (!stream.unacknowledged.isEmpty) = true := by simpa using waiting
    unfold heard release
    rw [if_pos]
    simp only [note, acknowledged, past, nonempty, Bool.and_self]

theorem Move.forgets_iff {stream : Stream} {now : Nat} {segment : Segment} {calls : List Call}
    {sent : Stream × List Bytes} {ends : Bool}
    (move : Move stream now (.segment segment) calls sent ends)
    (unbroken : stream.isInOrder segment = true → segment.has .rst = false)
    (waiting : stream.unacknowledged ≠ []) :
    sent.1.unacknowledged = [] ↔ stream.IsReleasedBy segment ∧ segment.has .syn = false := by
  have carried : ∀ {after : Stream}, stream.Carries segment →
      after.unacknowledged = (stream.heard segment).unacknowledged →
      (after.unacknowledged = [] ↔ stream.IsReleasedBy segment ∧ segment.has .syn = false) := by
    intro after carries same
    rw [same, heard_forgets_iff carries.inOrder waiting]
    exact ⟨fun released => ⟨released, carries.noStart⟩, And.left⟩
  cases move with
  | outOfOrder order =>
      refine ⟨fun none => absurd none waiting, fun released => ?_⟩
      have inOrder := released.1.inOrder
      rw [order] at inOrder
      cases inOrder
  | brokenOff order isReset =>
      rw [unbroken order] at isReset
      cases isReset
  | repeatedStart _ _ isStart =>
      refine ⟨fun none => absurd none waiting, fun released => ?_⟩
      rw [isStart] at released
      cases released.2
  | withheld carries | tooBusy carries | acknowledged carries => exact carried carries rfl
  | notTaken carries | taken carries | takenToTheEnd carries | ended carries =>
      exact carried carries (acknowledge_unacknowledged ..)

theorem onSegment_acknowledges (stream : Stream) (now : Nat) (segment : Segment)
    (kernel : Kernel) (goesOn : (stream.onSegment now segment kernel).ends = false) :
    stream.Acknowledges segment (stream.onSegment now segment kernel).stream := by
  obtain ⟨calls, _, move⟩ := stream.onSegment_move now segment kernel
  refine .of_parts ?_ (move.forgets_iff fun order => ?_)
  · refine move.guestAcknowledged.trans ?_
    simp only [Cause.acknowledges, Bool.and_eq_true]
    split <;> rfl
  · cases isReset : segment.has .rst with
    | false => rfl
    | true =>
        simp only [onSegment, order, isReset, Bool.not_true, Bool.false_eq_true, if_false,
          if_true] at goesOn
        cases goesOn

end Masquerade.Stream
