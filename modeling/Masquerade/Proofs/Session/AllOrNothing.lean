import Masquerade.Proofs.Gateway.AllOrNothing
import Masquerade.Proofs.Session.Ignored
import Masquerade.Proofs.Session.Replication

/-!
# Requests for streams

Whatever has happened before, a request for a stream that is not there brings the whole
stream or a reset, and what decides is known before.  No stream makes room for another.
-/

set_option autoImplicit false

namespace Masquerade.Session

open World (GrantsStream PassesOn RefusesStream)

theorem withinCapacity_after {start : World} (new : start.IsNew) (operations : List Operation) :
    (after start operations).gateway.streams.WithinCapacity := by
  refine (steps_after operations start).withinCapacity new.sound ?_
  rw [FlowTable.WithinCapacity, FlowTable.size_eq, new.no_records.1]
  exact Nat.zero_le _

/-- Where all that a stream needs is there, a request for it puts the stream in front of the
table, with its numbers, one new open socket and one random number drawn, and is not answered.
Where anything is missing, the table, the open sockets and the random numbers are as before,
and the answer is one reset; for want of room, or to the gateway itself, no call is made but
those that relay the request.  In no operation does a stream leave before it ends, and the
table holds no more of them than the network was set up for. -/
theorem streams_open_as_a_whole_or_not_at_all {start : World} (new : start.IsNew)
    (operations : List Operation) :
    let world := after start operations
    (∀ {sender : NicId} {frame : Bytes} {guest : Mac} {flow : Flow} {segment : Segment},
      Submits world.gateway.subnet frame guest flow segment → segment.opens = true →
      world.gateway.streams.get? flow = none →
      let later := world.transmit sender frame
      (world.CanOpenStream flow → ∃ stream,
        GrantsStream sender frame guest flow segment stream world later ∧
        stream.phase = .connecting ∧ stream.guestNext = segment.header.sequence + 1 ∧
        stream.guestAcknowledged = world.kernel.drawRandom.1 ∧
        stream.outsideNext = world.kernel.drawRandom.1 ∧
        later.gateway.mailbox.waiting sender = world.gateway.mailbox.waiting sender) ∧
      (¬ world.CanOpenStream flow → ∃ reset,
        RefusesStream sender frame reset world later ∧
        IsReset guest flow 0 (segment.header.sequence + UInt32.ofNat segment.marks) reset ∧
        later.gateway.mailbox.waiting sender = world.gateway.mailbox.waiting sender ++ [reset] ∧
        (world.gateway.streams.capacity ≤ world.gateway.streams.size ∨
            flow.outside.address = world.gateway.subnet.gateway →
          PassesOn sender frame [(sender, reset)] world.gateway.streams world later))) ∧
    (world.gateway.streams.size ≤ world.gateway.streams.capacity ∧
      world.gateway.streams.capacity = start.gateway.streams.capacity) ∧
    ∀ (operation : Operation) (flow : Flow) (stream : Stream),
      world.gateway.streams.get? flow = some stream →
      (operation.run world).2.gateway.streams.get? flow = none →
      ∃ happening ∈ operation.happenings world,
        happening.stream.flow = flow ∧ happening.ends = true := by
  intro world
  have sound : world.Sound := sound_after new operations
  refine ⟨?_, ⟨withinCapacity_after new operations, (steps_after operations start).capacity⟩, ?_⟩
  · intro sender frame guest flow segment submits opens absent later
    constructor
    · intro can
      obtain ⟨stream, grants⟩ := World.transmit_grants sound sender submits opens absent can
      have drawn := grants.begins
      refine ⟨stream, grants, ?_, ?_, ?_, ?_, ?_⟩
      · rw [drawn, Stream.opening]
      · rw [drawn, Stream.opening]
      · rw [drawn, Stream.opening]
      · rw [drawn, Stream.opening]
      · rw [grants.gateway, Gateway.waiting_passing]
        exact List.append_nil _
    · intro cannot
      obtain ⟨reset, refuses, isReset, atOnce⟩ :=
        World.transmit_refuses sound sender submits opens absent cannot
      refine ⟨reset, refuses, isReset, ?_, atOnce⟩
      rw [refuses.gateway, Gateway.waiting_passing_own]
  · intro operation flow stream found gone
    exact (steps_run operation world).ends_of_gone sound found gone

/-! ## One request, granted and refused -/

/-- Two controllers, after which the host lets the next connection fail. -/
def cutOff : List Operation :=
  registered ++ [.script [(.connect, .failure ⟨"ENETUNREACH"⟩)] []]

theorem canOpenStream_registered : (after related registered).CanOpenStream conversationFlow := by
  have answers : ((after related registered).kernel.next .socket,
      (after related registered).kernel.next .fcntl,
      (after related registered).kernel.next .connect) = (.ordinary, .ordinary, .ordinary) := by
    decide +kernel
  simp only [Prod.mk.injEq] at answers
  obtain ⟨given, settled, connected⟩ := answers
  refine ⟨by decide +kernel, by decide +kernel, ⟨fun errno => ?_, fun errno => ?_⟩,
    fun errno failed => ?_⟩
  · rw [given]
    nofun
  · rw [settled]
    nofun
  · rw [connected] at failed
    cases failed

theorem not_canOpenStream_cutOff : ¬ (after related cutOff).CanOpenStream conversationFlow := by
  intro can
  have failed : (after related cutOff).kernel.next .connect = .failure ⟨"ENETUNREACH"⟩ := by
    decide +kernel
  exact absurd (can.connects.connects _ failed) (by decide)

theorem request_is_granted_or_refused :
    related.IsNew ∧
      (∃ guest segment stream,
        Submits (after related registered).gateway.subnet requestFrame guest conversationFlow
          segment ∧
        segment.opens = true ∧
        (after related registered).gateway.streams.get? conversationFlow = none ∧
        (after related registered).CanOpenStream conversationFlow ∧
        GrantsStream ⟨1⟩ requestFrame guest conversationFlow segment stream
          (after related registered) ((after related registered).transmit ⟨1⟩ requestFrame)) ∧
      ∃ guest segment reset,
        Submits (after related cutOff).gateway.subnet requestFrame guest conversationFlow
          segment ∧
        segment.opens = true ∧
        (after related cutOff).gateway.streams.get? conversationFlow = none ∧
        ¬ (after related cutOff).CanOpenStream conversationFlow ∧
        RefusesStream ⟨1⟩ requestFrame reset (after related cutOff)
          ((after related cutOff).transmit ⟨1⟩ requestFrame) := by
  have new := related_isNew
  have asks : ∀ operations ∈ [registered, cutOff],
      (Request.submitted (after related operations).gateway.subnet requestFrame).any
        (fun found => found.2.1 = conversationFlow ∧ found.2.2.opens = true) = true ∧
      (after related operations).gateway.streams.get? conversationFlow = none := by
    decide +kernel
  have submitted : ∀ operations ∈ [registered, cutOff], ∃ guest segment,
      Submits (after related operations).gateway.subnet requestFrame guest conversationFlow
        segment ∧ segment.opens = true := by
    intro operations member
    obtain ⟨⟨guest, flow, segment⟩, found, which⟩ :=
      (Option.any_eq_true ..).mp (asks operations member).1
    obtain ⟨rfl, opens⟩ := of_decide_eq_true which
    exact ⟨guest, segment, submits_of_submitted found, opens⟩
  refine ⟨new, ?_, ?_⟩
  · obtain ⟨guest, segment, submits, opens⟩ := submitted registered (by simp)
    have absent := (asks registered (by simp)).2
    obtain ⟨stream, granted, _⟩ := ((streams_open_as_a_whole_or_not_at_all new registered).1
      submits opens absent).1 canOpenStream_registered
    exact ⟨guest, segment, stream, submits, opens, absent, canOpenStream_registered, granted⟩
  · obtain ⟨guest, segment, submits, opens⟩ := submitted cutOff (by simp)
    have absent := (asks cutOff (by simp)).2
    obtain ⟨reset, refused, _⟩ := ((streams_open_as_a_whole_or_not_at_all new cutOff).1
      submits opens absent).2 not_canOpenStream_cutOff
    exact ⟨guest, segment, reset, submits, opens, absent, not_canOpenStream_cutOff, refused⟩

end Masquerade.Session
