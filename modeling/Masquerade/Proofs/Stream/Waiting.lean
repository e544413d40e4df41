import Masquerade.Proofs.Stream.Readiness

/-!
# Bytes that wait to be acknowledged

Bytes are kept from the turn that reads them to the segment that acknowledges all of
them, and nothing is read meanwhile.  What the guest has acknowledged last is told by
the segments that were in order.
-/

set_option autoImplicit false

namespace Masquerade.Stream

open Kernel (Makes)

structure IsReleasedBy (stream : Stream) (segment : Segment) : Prop where
  inOrder : stream.isInOrder segment = true
  marked : segment.has .ack = true
  past : reaches segment.header.acknowledgment
    (stream.unacknowledgedFrom + UInt32.ofNat stream.unacknowledged.length) = true

def Cause.acknowledges (before : Stream) : Cause → Option UInt32
  | .segment arrived =>
    if before.isInOrder arrived && arrived.has .ack then some arrived.header.acknowledgment
    else none
  | .ready _ _ => none

def KeepsWaiting (before after : Stream) : Prop :=
  after.unacknowledged = before.unacknowledged ∧
    after.unacknowledgedFrom = before.unacknowledgedFrom

/-! ## Fields that an acknowledgment leaves as they are -/

section Acknowledge

variable (stream : Stream) (now : Nat)

@[simp] theorem acknowledge_unacknowledged :
    (stream.acknowledge now).1.unacknowledged = stream.unacknowledged := by
  unfold acknowledge
  split <;> rfl

@[simp] theorem acknowledge_unacknowledgedFrom :
    (stream.acknowledge now).1.unacknowledgedFrom = stream.unacknowledgedFrom := by
  unfold acknowledge
  split <;> rfl

@[simp] theorem acknowledge_guestAcknowledged :
    (stream.acknowledge now).1.guestAcknowledged = stream.guestAcknowledged := by
  unfold acknowledge
  split <;> rfl

end Acknowledge

section Heard

variable {stream : Stream} {segment : Segment}

theorem heard_guestAcknowledged (order : stream.isInOrder segment = true) :
    (stream.heard segment).guestAcknowledged =
      ((Cause.segment segment).acknowledges stream).getD stream.guestAcknowledged := by
  have released : (stream.heard segment).guestAcknowledged =
      (stream.note segment).guestAcknowledged := by
    unfold heard release
    split <;> rfl
  rw [released, note, Cause.acknowledges, order, Bool.true_and]
  split <;> rfl

/-- Only what acknowledges all the bytes makes them forgotten. -/
theorem heard_waiting (order : stream.isInOrder segment = true) :
    KeepsWaiting stream (stream.heard segment) ∨
      stream.IsReleasedBy segment ∧ (stream.heard segment).unacknowledged = [] := by
  unfold heard release
  split
  · rename_i released
    simp only [Bool.and_eq_true] at released
    exact Or.inr ⟨⟨order, released.1.1, released.2⟩, rfl⟩
  · exact Or.inl ⟨rfl, rfl⟩

theorem heard_unacknowledged (none : stream.unacknowledged = []) :
    (stream.heard segment).unacknowledged = [] := by
  unfold heard release
  split
  · rfl
  · exact none

end Heard

/-! ## Turns -/

namespace Move

variable {stream : Stream} {now : Nat} {cause : Cause} {calls : List Call}
  {sent : Stream × List Bytes} {ends : Bool}

/-- Bytes that wait stay, or are released by a segment. -/
theorem waiting (move : Move stream now cause calls sent ends)
    (waiting : stream.unacknowledged ≠ []) :
    KeepsWaiting stream sent.1 ∨
      ∃ segment, cause = .segment segment ∧ stream.IsReleasedBy segment ∧
        sent.1.unacknowledged = [] := by
  have kept : ∀ {segment : Segment} {after : Stream}, stream.isInOrder segment = true →
      KeepsWaiting (stream.heard segment) after →
      KeepsWaiting stream after ∨ ∃ other, Cause.segment segment = .segment other ∧
        stream.IsReleasedBy other ∧ after.unacknowledged = [] := by
    intro segment after order same
    rcases heard_waiting order with stays | ⟨released, none⟩
    · exact Or.inl ⟨same.1.trans stays.1, same.2.trans stays.2⟩
    · exact Or.inr ⟨segment, rfl, released, same.1.trans none⟩
  cases move with
  | outOfOrder | brokenOff | repeatedStart | idle | connected | refused | sentAgain | waited
  | nothingThere => exact Or.inl ⟨rfl, rfl⟩
  | withheld carries | tooBusy carries | acknowledged carries =>
      exact kept carries.inOrder ⟨rfl, rfl⟩
  | notTaken carries =>
      exact kept carries.inOrder
        ⟨acknowledge_unacknowledged .., acknowledge_unacknowledgedFrom ..⟩
  | taken carries | takenToTheEnd carries | ended carries =>
      exact kept carries.inOrder
        ⟨acknowledge_unacknowledged .., acknowledge_unacknowledgedFrom ..⟩
  | failed | outsideEnded =>
      exact Or.inl ⟨acknowledge_unacknowledged .., acknowledge_unacknowledgedFrom ..⟩
  | delivered _ nothingWaits => exact absurd nothingWaits waiting

theorem unacknowledged_of_none (move : Move stream now cause calls sent ends)
    (none : stream.unacknowledged = []) : sent.1.unacknowledged = [] ∨
      calls = [.receive stream.socket mostRead (.ok sent.1.unacknowledged)] := by
  cases move with
  | outOfOrder | brokenOff | repeatedStart | idle | connected | refused | sentAgain | waited
  | nothingThere => exact Or.inl none
  | withheld | tooBusy | acknowledged => exact Or.inl (heard_unacknowledged none)
  | notTaken | taken | takenToTheEnd | ended =>
      exact Or.inl ((acknowledge_unacknowledged ..).trans (heard_unacknowledged none))
  | failed | outsideEnded => exact Or.inl ((acknowledge_unacknowledged ..).trans none)
  | delivered => exact Or.inr rfl

theorem guestAcknowledged (move : Move stream now cause calls sent ends) :
    sent.1.guestAcknowledged = (cause.acknowledges stream).getD stream.guestAcknowledged := by
  cases move with
  | outOfOrder order =>
      rw [Cause.acknowledges, order]
      rfl
  | brokenOff order | repeatedStart order =>
      rw [Cause.acknowledges, order, Bool.true_and]
      split <;> rename_i marked <;> simp [note, reset, emit, marked]
  | withheld carries | tooBusy carries | acknowledged carries =>
      exact heard_guestAcknowledged carries.inOrder
  | notTaken carries | taken carries | takenToTheEnd carries | ended carries =>
      exact (acknowledge_guestAcknowledged ..).trans (heard_guestAcknowledged carries.inOrder)
  | idle | connected | refused | sentAgain | waited | delivered | nothingThere => rfl
  | failed | outsideEnded => exact acknowledge_guestAcknowledged ..

theorem ready_of_receive (move : Move stream now cause calls sent ends) {call : Call}
    (member : call ∈ calls) (receives : call.isReceive = true) :
    ∃ rounds ready, cause = .ready rounds ready := by
  cases cause with
  | ready rounds ready => exact ⟨rounds, ready, rfl⟩
  | segment segment =>
      exfalso
      cases move with
      | outOfOrder | brokenOff | repeatedStart | withheld | acknowledged => cases member
      | tooBusy | notTaken | taken | ended =>
          rw [List.mem_singleton.mp member] at receives
          cases receives
      | takenToTheEnd =>
          rcases List.mem_cons.mp member with rfl | last
          · cases receives
          · rw [List.mem_singleton.mp last] at receives
            cases receives

end Move

theorem reads_of_receive {stream : Stream} {now : Nat} {kernel : Kernel} {cause : Cause}
    {calls : List Call} (made : Makes calls kernel (stream.turn now kernel cause).kernel)
    {call : Call} (member : call ∈ calls) (receives : call.isReceive = true) :
    ∃ rounds ready result, cause = .ready rounds ready ∧ stream.Reads ready kernel ∧
      calls = [.receive stream.socket mostRead result] := by
  obtain ⟨others, same, move⟩ := stream.turn_move now kernel cause
  have equal : calls = others := made.callsSince_eq.symm.trans same.callsSince_eq
  subst equal
  obtain ⟨rounds, ready, rfl⟩ := move.ready_of_receive member receives
  rcases stream.onReady_calls now rounds ready kernel with ⟨silent, _⟩ | ⟨reads, result, one⟩
  · have none : calls = [] := made.callsSince_eq.symm.trans silent.callsSince_eq
    rw [none] at member
    cases member
  · exact ⟨rounds, ready, result, rfl, reads, made.callsSince_eq.symm.trans one.callsSince_eq⟩

end Masquerade.Stream
