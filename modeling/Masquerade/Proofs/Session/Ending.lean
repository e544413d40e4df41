import Masquerade.Proofs.Session.Course
import Masquerade.Proofs.Session.Ownership
import Masquerade.Proofs.Session.Phases

/-!
# When streams leave the table

A stream leaves the table by a segment of its own guest that ends it, or in a round in
which it turns out that it could not be connected.  Nothing else takes one out: no
traffic of others, no full table and no change of the host.
-/

set_option autoImplicit false

namespace Masquerade.Session

open World (EndsStream RoundsFree)

/-! ## Operations -/

theorem settled_of_row {start : World} (new : start.IsNew) {operations : List Operation}
    {row : Flow × Stream} (member : row ∈ (after start operations).gateway.streams.rows) :
    row.2.IsSettled := by
  obtain ⟨_, _, _, _, life, _, left, _⟩ := life_of_row new member
  rw [← left]
  exact life.settled

theorem Operation.frame_or_not (operation : Operation) :
    (∃ sender frame, operation = .transmit sender frame) ∨
      ∀ sender frame, operation ≠ .transmit sender frame := by
  cases operation with
  | transmit sender frame => exact Or.inl ⟨sender, frame, rfl⟩
  | register | macOf | phase | poll | receive | receiveUpTo | available | describe | script
  | change => exact Or.inr fun _ _ => nofun

theorem run_free (flow : Flow) {world : World} (sound : world.Sound) {operation : Operation}
    (noFrame : ∀ sender frame, operation ≠ .transmit sender frame) :
    RoundsFree flow (operation.rounds world) world (operation.run world).2 :=
  (course_of_no_frame world noFrame).free rfl sound flow

/-- A stream leaves the table in an operation just if that brings a segment which ends
it, or has a round in which it fails to be connected; a stream that is there afterwards
is the same. -/
theorem streams_leave_when_over {start : World} (new : start.IsNew)
    (operations : List Operation) (operation : Operation) {flow : Flow} {stream : Stream}
    (found : (after start operations).gateway.streams.get? flow = some stream) :
    let world := after start operations
    let later := (operation.run world).2
    (later.gateway.streams.get? flow = none ↔
      (∃ sender frame, operation = .transmit sender frame ∧
        Request.shortestFrame ≤ frame.length ∧ frame.length ≤ Request.longestFrame ∧
        EndsStream world flow stream frame (later.kernel.callsSince world.kernel)) ∨
      ∃ round ∈ operation.rounds world, ∃ own looked start,
        FailsToConnect round flow own looked start) ∧
    ∀ still, later.gateway.streams.get? flow = some still → Stream.SameParties stream still := by
  intro world later
  have sound : world.Sound := sound_after new operations
  rcases operation.frame_or_not with ⟨sender, frame, rfl⟩ | noFrame
  · have settled := settled_of_row new (FlowTable.mem_rows_of_get? found)
    refine ⟨(World.get?_transmit_iff sound settled found sender frame).trans ?_,
      fun still stays => World.get?_transmit_parties sound found sender frame stays⟩
    constructor
    · exact fun ended => Or.inl ⟨sender, frame, rfl, ended⟩
    · rintro (⟨_, _, same, ended⟩ | ⟨round, none, _⟩)
      · cases same
        exact ended
      · cases none
  · obtain ⟨freed, kept⟩ := run_free flow sound noFrame
    have there : world.gateway.streams.get? flow = some stream := found
    rw [there] at freed
    constructor
    · refine freed.trans ⟨?_, ?_⟩
      · rintro (absent | fails)
        · cases absent
        · exact Or.inr fails
      · rintro (⟨sender, frame, same, _⟩ | fails)
        · exact absurd same (noFrame sender frame)
        · exact Or.inr fails
    · intro still stays
      obtain ⟨before, same, parties⟩ := kept still stays
      rw [there] at same
      cases same
      exact parties

/-! ## A guest that breaks its stream off -/

/-- The conversation up to the request, and the frame that takes it back. -/
def requesting : List Operation := conversation.take 2

def resetFrame : Bytes := guestFrame 1001 0 [.rst] []

theorem request_is_taken_back :
    conversed.IsNew ∧ ∃ stream,
      (after conversed requesting).gateway.streams.get? conversationFlow = some stream ∧
        EndsStream (after conversed requesting) conversationFlow stream resetFrame
          (((after conversed requesting).transmit ⟨1⟩ resetFrame).kernel.callsSince
            (after conversed requesting).kernel) := by
  have new : conversed.IsNew := World.plain_isNew none
  have there :
      ((after conversed requesting).gateway.streams.get? conversationFlow).isSome = true := by
    decide +kernel
  have gone : ((after conversed requesting).transmit ⟨1⟩ resetFrame).gateway.streams.get?
      conversationFlow = none := by
    decide +kernel
  obtain ⟨stream, found⟩ := Option.isSome_iff_exists.mp there
  have left := (streams_leave_when_over new requesting (.transmit ⟨1⟩ resetFrame) found).1
  rcases left.mp gone with ⟨_, _, same, _, _, ends⟩ | ⟨round, none, _⟩
  · cases same
    exact ⟨new, stream, found, ends⟩
  · cases none

end Masquerade.Session
