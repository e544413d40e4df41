import Masquerade.Proofs.Stream.Ending
import Masquerade.Proofs.Stream.Supplied

/-!
# How a stream is closed

The last mark of the guest, in its place, takes a stream to its last phase whatever its phase
was, and by then our own last mark has been sent.  In the last phase rounds leave the stream as
it is, so that the number which the guest has to acknowledge stays the one behind our mark.
-/

set_option autoImplicit false

namespace Masquerade

structure Segment.IsLastAt (segment : Segment) (place : UInt32) : Prop where
  isLast : segment.has .fin = true
  noStart : segment.has .syn = false
  noReset : segment.has .rst = false
  empty : segment.payload = []
  inPlace : segment.header.sequence = place

structure Segment.IsAcknowledgment (segment : Segment) : Prop where
  marked : segment.has .ack = true
  notLast : segment.has .fin = false
  noStart : segment.has .syn = false
  noReset : segment.has .rst = false
  empty : segment.payload = []

instance (segment : Segment) (place : UInt32) : Decidable (segment.IsLastAt place) :=
  decidable_of_iff (segment.has .fin = true ∧ segment.has .syn = false ∧
      segment.has .rst = false ∧ segment.payload = [] ∧ segment.header.sequence = place)
    ⟨fun ⟨isLast, noStart, noReset, empty, inPlace⟩ => ⟨isLast, noStart, noReset, empty, inPlace⟩,
      fun ⟨isLast, noStart, noReset, empty, inPlace⟩ => ⟨isLast, noStart, noReset, empty, inPlace⟩⟩

instance (segment : Segment) : Decidable segment.IsAcknowledgment :=
  decidable_of_iff (segment.has .ack = true ∧ segment.has .fin = false ∧
      segment.has .syn = false ∧ segment.has .rst = false ∧ segment.payload = [])
    ⟨fun ⟨marked, notLast, noStart, noReset, empty⟩ => ⟨marked, notLast, noStart, noReset, empty⟩,
      fun ⟨marked, notLast, noStart, noReset, empty⟩ => ⟨marked, notLast, noStart, noReset, empty⟩⟩

theorem Segment.IsLastAt.opens {segment : Segment} {place : UInt32}
    (isLast : segment.IsLastAt place) : segment.opens = false := by
  rw [Segment.opens, isLast.noStart, Bool.false_and, Bool.false_and]

theorem Segment.IsAcknowledgment.opens {segment : Segment} (bare : segment.IsAcknowledgment) :
    segment.opens = false := by
  rw [Segment.opens, bare.noStart, Bool.false_and, Bool.false_and]

namespace Stream

structure AwaitsEnd (stream : Stream) : Prop where
  phase : stream.phase = .bothClosed
  finSent : stream.finSent = true

variable {stream : Stream} {segment : Segment}

theorem close_acknowledge_awaitsEnd (stream : Stream) (now : Nat) :
    (stream.close.acknowledge now).1.AwaitsEnd where
  phase := acknowledge_phase ..
  finSent := by
    rw [acknowledge_finSent]
    exact Bool.or_true _

theorem onSegment_of_last (isLast : segment.IsLastAt stream.guestNext) (now : Nat)
    (kernel : Kernel) : (stream.onSegment now segment kernel).stream.AwaitsEnd := by
  have order : stream.isInOrder segment = true :=
    (isInOrder_iff stream segment).mpr (Or.inr isLast.inPlace)
  have turn : stream.onSegment now segment kernel =
      (stream.heard segment).onFin now segment.header kernel := by
    simp only [onSegment, order, isLast.noReset, isLast.noStart, isLast.empty, isLast.isLast,
      Bool.not_true, Bool.false_eq_true, if_false, List.isEmpty_nil, if_true]
    rfl
  obtain ⟨_, _, _, run⟩ := onFin_eq (stream.heard segment) now segment.header kernel
  rw [turn, run]
  exact close_acknowledge_awaitsEnd ..

namespace AwaitsEnd

variable (awaits : stream.AwaitsEnd)
include awaits

/-- A round does not move a stream in its last phase. -/
theorem onReady (now rounds : Nat) (ready : Kernel.Readiness) (kernel : Kernel) :
    stream.onReady now rounds ready kernel = stream.rest kernel := by
  simp only [Stream.onReady, awaits.phase]

/-- The acknowledgment of our last mark ends the stream. -/
theorem onSegment_ends (bare : segment.IsAcknowledgment)
    (next : segment.header.acknowledgment = stream.outsideNext) (now : Nat) (kernel : Kernel) :
    (stream.onSegment now segment kernel).ends = true := by
  have carries : stream.Carries segment :=
    ⟨(isInOrder_iff stream segment).mpr (Or.inl ⟨bare.empty, bare.notLast⟩), bare.noReset,
      bare.noStart⟩
  rw [onSegment_of_bare now kernel carries bare.empty bare.notLast, onAcknowledgment_ends_iff,
    heard_phase, heard_isFinAcknowledged, isFinAcknowledged_iff]
  exact ⟨awaits.phase, awaits.finSent, bare.marked, next⟩

end AwaitsEnd

/-- What the guest has to acknowledge is the number behind our last mark. -/
theorem Placed.next_of_ending {initial : UInt32} {segments : List Segment} {received : Bytes}
    (placed : Placed initial segments received)
    (counted : Counted initial segments received stream) (sent : stream.finSent = true) :
    (∃ segment ∈ segments, segment.has .fin = true) ∧
      ∀ segment ∈ segments, segment.has .fin = true →
        segment.header.sequence + 1 = stream.outsideNext := by
  have once := counted.endOnce
  rw [sent] at once
  have next := counted.next
  rw [once] at next
  constructor
  · refine Classical.byContradiction fun none => ?_
    have silent : ∀ segment ∈ segments, segment.has .fin = false := by
      intro segment member
      exact Bool.eq_false_iff.mpr fun marked => none ⟨segment, member, marked⟩
    rw [markCount_eq_zero silent] at once
    cases once
  · intro segment member marked
    rw [placed.ending segment member marked, next]
    rfl

end Stream

end Masquerade
