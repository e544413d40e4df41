import Masquerade.Proofs.Session.AllOrNothing

/-!
# What resets acknowledge

Whatever has happened before, a segment for which there is no stream afterwards is answered
just if it is not a reset itself, with one reset for the guest that has sent it.  The reset
acknowledges all of the segment, but for the bytes of a request that was refused.
-/

set_option autoImplicit false

namespace Masquerade.Session

open Packet (segmentIn)
open World (PassesOn)

/-- A segment that has no stream and gets none leaves the table as it is.  A reset is only
passed on; any other segment is answered with one frame, a reset that takes up the number
which the segment acknowledges and acknowledges its bytes and marks, or its marks alone if it
asks for a stream. -/
theorem segments_without_stream_are_reset {start : World} (new : start.IsNew)
    (operations : List Operation) (sender : NicId) {frame : Bytes} {guest : Mac} {flow : Flow}
    {segment : Segment}
    (submits : Submits (after start operations).gateway.subnet frame guest flow segment)
    (absent : (after start operations).gateway.streams.get? flow = none)
    (unopened : ((after start operations).transmit sender frame).gateway.streams.get? flow =
      none) :
    let world := after start operations
    let later := world.transmit sender frame
    if segment.has .rst then PassesOn sender frame [] world.gateway.streams world later
    else ∃ reset,
      later.gateway =
        world.gateway.passing sender frame [(sender, reset)] world.gateway.streams ∧
      later.gateway.mailbox.waiting sender = world.gateway.mailbox.waiting sender ++ [reset] ∧
      IsReset guest flow (if segment.has .ack then segment.header.acknowledgment else 0)
        (segment.header.sequence +
          UInt32.ofNat ((if segment.opens then 0 else segment.payload.length) + segment.marks))
        reset := by
  intro world later
  have sound : world.Sound := sound_after new operations
  cases opens : segment.opens with
  | false =>
      have outcome := World.passesOn_of_unmatched sender submits absent opens
      cases isReset : segment.has .rst with
      | true =>
          rw [isReset] at outcome
          exact outcome
      | false =>
          rw [isReset] at outcome
          obtain ⟨reset, passes, numbers⟩ := outcome
          refine ⟨reset, passes.gateway, ?_, numbers⟩
          rw [passes.gateway, Gateway.waiting_passing_own]
  | true =>
      obtain ⟨_, unmarked, noReset⟩ := (Segment.opens_iff segment).mp opens
      have cannot : ¬ world.CanOpenStream flow := by
        intro can
        obtain ⟨stream, grants⟩ := World.transmit_grants sound sender submits opens absent can
        rw [grants.gateway] at unopened
        simp [Gateway.passing, FlowTable.get?_eq] at unopened
      obtain ⟨reset, refuses, numbers, _⟩ :=
        World.transmit_refuses sound sender submits opens absent cannot
      rw [noReset, unmarked]
      refine ⟨reset, refuses.gateway, ?_, ?_⟩
      · rw [refuses.gateway, Gateway.waiting_passing_own]
      · rw [if_pos rfl, Nat.zero_add]
        exact numbers

/-! ## Segments that nobody waits for -/

def strayFrame : Bytes := guestFrame 77 1234 [.ack, .psh] [1, 2, 3, 4, 5, 6, 7, 8, 9, 10]

theorem stray_bytes_are_reset :
    related.IsNew ∧ ∃ guest segment,
      Submits (after related registered).gateway.subnet strayFrame guest conversationFlow
        segment ∧
      (after related registered).gateway.streams.get? conversationFlow = none ∧
      ((after related registered).transmit ⟨1⟩ strayFrame).gateway.streams.get?
        conversationFlow = none ∧
      ∃ reset, ((after related registered).transmit ⟨1⟩ strayFrame).gateway.mailbox.waiting ⟨1⟩ =
          (after related registered).gateway.mailbox.waiting ⟨1⟩ ++ [reset] ∧
        IsReset guest conversationFlow 1234 87 reset := by
  have brings : (Request.submitted (after related registered).gateway.subnet strayFrame).any
      (fun found => found.2.1 = conversationFlow ∧ found.2.2.has .rst = false ∧
        found.2.2.has .ack = true ∧ found.2.2.header.acknowledgment = 1234 ∧
        found.2.2.header.sequence +
          UInt32.ofNat ((if found.2.2.opens then 0 else found.2.2.payload.length) +
            found.2.2.marks) = 87) = true := by
    decide +kernel
  obtain ⟨⟨guest, flow, segment⟩, found, which⟩ := (Option.any_eq_true ..).mp brings
  obtain ⟨rfl, noReset, marked, acknowledged, next⟩ := of_decide_eq_true which
  have submits := submits_of_submitted found
  have absent : (after related registered).gateway.streams.get? conversationFlow = none := by
    decide +kernel
  have unopened : ((after related registered).transmit ⟨1⟩ strayFrame).gateway.streams.get?
      conversationFlow = none := by
    decide +kernel
  have answered := segments_without_stream_are_reset related_isNew registered ⟨1⟩ submits absent
    unopened
  dsimp only at noReset marked acknowledged next
  rw [noReset, marked, acknowledged, next] at answered
  obtain ⟨reset, _, waiting, isReset⟩ := answered
  exact ⟨related_isNew, guest, segment, submits, absent, unopened, reset, waiting, isReset⟩

def hastyFrame : Bytes := guestFrame 1000 0 [.syn] [104, 105]

/-- Where it is refused, only its mark is acknowledged. -/
theorem hasty_bytes_are_not_acknowledged :
    related.IsNew ∧ ∃ guest segment,
      Submits (after related cutOff).gateway.subnet hastyFrame guest conversationFlow segment ∧
      segment.has .rst = false ∧
      (after related cutOff).gateway.streams.get? conversationFlow = none ∧
      ((after related cutOff).transmit ⟨1⟩ hastyFrame).gateway.streams.get? conversationFlow =
        none ∧
      ∃ reset answer,
        ((after related cutOff).transmit ⟨1⟩ hastyFrame).gateway.mailbox.waiting ⟨1⟩ = [reset] ∧
        segmentIn reset = some (conversationFlow.reversed, answer) ∧
        answer.header.acknowledgment = 1001 ∧
        segment.header.sequence + UInt32.ofNat (segment.payload.length + segment.marks) =
          1003 := by
  have brings : (Request.submitted (after related cutOff).gateway.subnet hastyFrame).any
      (fun found => found.2.1 = conversationFlow ∧ found.2.2.has .rst = false ∧
        found.2.2.header.sequence +
          UInt32.ofNat (found.2.2.payload.length + found.2.2.marks) = 1003) = true := by
    decide +kernel
  have one : (((after related cutOff).transmit ⟨1⟩ hastyFrame).gateway.mailbox.waiting
      ⟨1⟩).length = 1 := by
    decide +kernel
  have reads : ∀ reset ∈ ((after related cutOff).transmit ⟨1⟩ hastyFrame).gateway.mailbox.waiting
      ⟨1⟩, (segmentIn reset).any (fun answer => answer.1 = conversationFlow.reversed ∧
        answer.2.header.acknowledgment = 1001) = true := by
    decide +kernel
  obtain ⟨⟨guest, flow, segment⟩, found, which⟩ := (Option.any_eq_true ..).mp brings
  obtain ⟨rfl, noReset, next⟩ := of_decide_eq_true which
  obtain ⟨reset, waits⟩ := List.length_eq_one_iff.mp one
  rw [waits, List.forall_mem_singleton] at reads
  obtain ⟨⟨other, answer⟩, inside, what⟩ := (Option.any_eq_true ..).mp reads
  obtain ⟨rfl, acknowledged⟩ := of_decide_eq_true what
  exact ⟨related_isNew, guest, segment, submits_of_submitted found, noReset, by decide +kernel,
    by decide +kernel, reset, answer, waits, inside, acknowledged, next⟩

end Masquerade.Session
