import Masquerade.Proofs.Gateway.Passing
import Masquerade.Proofs.Gateway.Service
import Masquerade.Proofs.Stream.Ending

/-!
# Segments that are passed over

A segment that is out of place changes nothing in its stream, whatever it brings besides,
and neither does one that asks for a stream that is there.  A start that acknowledges is
another matter: in its place it moves the numbers of the stream and its clock before it is
passed over.
-/

set_option autoImplicit false

namespace Masquerade

/-! ## Turns that only rest -/

namespace Stream

variable {stream : Stream} {segment : Segment}

instance : Decidable (stream.Admits segment) := inferInstanceAs (Decidable (_ ∨ _))

theorem not_admits_iff : ¬ stream.Admits segment ↔
    (segment.payload ≠ [] ∨ segment.has .fin = true) ∧
      segment.header.sequence ≠ stream.guestNext := by
  rw [Admits, not_or, not_and_or, Bool.not_eq_false]

theorem onSegment_of_misplaced (misplaced : ¬ stream.Admits segment) (now : Nat)
    (kernel : Kernel) : stream.onSegment now segment kernel = stream.rest kernel := by
  have order : stream.isInOrder segment = false :=
    Bool.eq_false_iff.mpr fun inOrder => misplaced ((isInOrder_iff ..).mp inOrder)
  rw [onSegment, order]
  rfl

/-- The stream after a start that came when it was there. -/
def afterStart (stream : Stream) (segment : Segment) : Stream :=
  if segment.has .ack = true ∧ stream.Admits segment then stream.note segment else stream

theorem afterStart_of_unmarked (unmarked : segment.has .ack = false) :
    stream.afterStart segment = stream := by
  refine if_neg fun noted => ?_
  rw [unmarked] at noted
  cases noted.1

/-- Bytes, phase and what the gateway counts for itself stay as they are. -/
theorem afterStart_same (stream : Stream) (segment : Segment) :
    { stream.afterStart segment with
      guestSequence := stream.guestSequence
      guestAcknowledged := stream.guestAcknowledged
      guestClock := stream.guestClock } = stream := by
  rw [afterStart]
  split <;> rfl

theorem onSegment_of_start (starts : segment.has .syn = true) (noReset : segment.has .rst = false)
    (marked : segment.has .ack = true) (now : Nat) (kernel : Kernel) :
    stream.onSegment now segment kernel = (stream.afterStart segment).rest kernel := by
  by_cases admitted : stream.Admits segment
  · have order := (isInOrder_iff stream segment).mpr admitted
    rw [afterStart, if_pos ⟨marked, admitted⟩]
    simp only [onSegment, order, Bool.not_true, Bool.false_eq_true, if_false, noReset, starts,
      if_true]
  · rw [afterStart, if_neg fun noted => admitted noted.2]
    exact onSegment_of_misplaced admitted now kernel

end Stream

/-! ## Frames that bring them -/

namespace World

variable {world : World} {frame : Bytes} {guest : Mac} {flow : Flow} {segment : Segment}
  {stream : Stream}

theorem continueStream_of_rest {still : Stream}
    (rests : stream.onSegment world.gateway.clock segment world.kernel = still.rest world.kernel) :
    world.continueStream flow stream segment =
      (world.withStreams (world.gateway.streams.set flow still)).touchStream flow := by
  simp only [continueStream, rests, Stream.rest, Bool.false_eq_true, if_false, keepStream, post,
    Backlog.pushAll, List.map_nil, List.append_nil, withStreams]

section Found

variable (sender : NicId) (submits : Submits world.gateway.subnet frame guest flow segment)
  (found : world.gateway.streams.get? flow = some stream)

include submits found

theorem passesOn_of_opening (opens : segment.opens = true) :
    PassesOn sender frame [] world.gateway.streams world (world.transmit sender frame) := by
  obtain ⟨handled, passes⟩ := transmit_of_submits sender submits
  rw [← world.spread_streams sender frame] at found
  simp only [handled, onSegment, found, opens, if_true]
  exact passes

theorem passesOn_of_rest (noOpening : segment.opens = false) {still : Stream}
    (rests : ∀ now kernel, stream.onSegment now segment kernel = still.rest kernel) :
    PassesOn sender frame [] ((world.gateway.streams.set flow still).touch flow) world
      (world.transmit sender frame) := by
  obtain ⟨handled, passes⟩ := transmit_of_submits sender submits
  have there := found
  rw [← world.spread_streams sender frame] at there
  have run : world.transmit sender frame =
      ((world.spread sender frame).withStreams
        ((world.spread sender frame).gateway.streams.set flow still)).touchStream flow := by
    simp only [handled, onSegment, there, noOpening, Bool.false_eq_true, if_false]
    exact continueStream_of_rest (rests _ _)
  rw [run]
  refine ⟨?_, passes.kernel, passes.calls⟩
  rw [touchStream, withStreams, passes.gateway]
  rfl

/-- A segment out of place is at most a use of its stream. -/
theorem passesOn_of_misplaced (distinct : world.gateway.streams.flows.Nodup)
    (misplaced : ¬ stream.Admits segment) :
    PassesOn sender frame []
      (if segment.opens then world.gateway.streams else world.gateway.streams.touch flow) world
      (world.transmit sender frame) := by
  cases opens : segment.opens with
  | true =>
      rw [if_pos rfl]
      exact passesOn_of_opening sender submits found opens
  | false =>
      have rests := passesOn_of_rest sender submits found opens
        (Stream.onSegment_of_misplaced misplaced)
      rw [FlowTable.set_self distinct found] at rests
      exact rests

/-- A start is passed over, but one that acknowledges may be noted. -/
theorem passesOn_of_start (starts : segment.has .syn = true) (noReset : segment.has .rst = false) :
    PassesOn sender frame []
      (if segment.has .ack then
        (world.gateway.streams.set flow (stream.afterStart segment)).touch flow
      else world.gateway.streams) world (world.transmit sender frame) := by
  cases marked : segment.has .ack with
  | true =>
      have noOpening : segment.opens = false := by simp [Segment.opens, marked]
      exact passesOn_of_rest sender submits found noOpening
        (Stream.onSegment_of_start starts noReset marked)
  | false =>
      exact passesOn_of_opening sender submits found
        ((Segment.opens_iff segment).mpr ⟨starts, marked, noReset⟩)

end Found

end World

end Masquerade
