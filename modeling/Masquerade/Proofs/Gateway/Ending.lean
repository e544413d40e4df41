import Masquerade.Proofs.Gateway.Spread
import Masquerade.Proofs.Gateway.Streams
import Masquerade.Proofs.Stream.Ending

/-!
# How streams leave the table

A frame takes a stream out of the table by bringing a segment of its own flow that ends
it, and a round by finding out that it could not be connected.  A stream that is there
afterwards is the one that was there before.
-/

set_option autoImplicit false

namespace Masquerade

open Kernel (Makes)

/-- In a round that begins in this world the look succeeds and tells of the socket of a
stream that is being connected, but the look at its error finds one or fails. -/
structure FailsToConnect (world : World) (flow : Flow) (stream : Stream) (looked start : Kernel) :
    Prop where
  there : world.gateway.streams.get? flow = some stream
  connecting : stream.phase = .connecting
  look : ∃ ready, world.kernel.readiness (World.interests world.gateway) = (.ok ready, looked)
  reported : (looked.readinessOf ⟨stream.socket, true, true⟩).writable = true ∨
    (looked.readinessOf ⟨stream.socket, true, true⟩).error = true
  turn : ∃ rounds now, .turned (.ready rounds (looked.readinessOf ⟨stream.socket, true, true⟩)) now
    stream start ∈ world.pollHappenings
  failed : (start.takeError stream.socket).1 ≠ .ok none

theorem Happening.remains_eq_none_iff (happening : Happening) :
    happening.remains = none ↔ happening.ends = true := by
  rw [remains]
  split <;> simp_all

theorem Happening.remains_parties {cause : Stream.Cause} {now : Nat} {before still : Stream}
    {start : Kernel} (stays : (Happening.turned cause now before start).remains = some still) :
    Stream.SameParties before still := by
  obtain ⟨calls, _, move⟩ := before.turn_move now start cause
  rw [remains] at stays
  split at stays
  · cases stays
  · rw [← Option.some.inj stays]
    exact move.parties

/-! ## Rounds -/

namespace World

section Round

variable {world after : World} {flow : Flow}

/-- The turn that a stream gets after a look ends it just if it fails to connect. -/
theorem ends_iff_failsToConnect (sound : world.Sound) {stream : Stream}
    {ready : List Kernel.Readiness} {looked start : Kernel} {rounds now : Nat}
    (look : world.kernel.readiness (interests world.gateway) = (.ok ready, looked))
    (found : world.gateway.streams.get? flow = some stream)
    (turned : happeningsOf flow world.pollHappenings =
      [.turned (.ready rounds (looked.readinessOf ⟨stream.socket, true, true⟩)) now stream start]) :
    (stream.turn now start
        (.ready rounds (looked.readinessOf ⟨stream.socket, true, true⟩))).ends = true ↔
      ∃ stream looked start, FailsToConnect world flow stream looked start := by
  constructor
  · intro ends
    obtain ⟨connecting, reported, failed⟩ := (stream.onReady_ends_iff ..).mp ends
    have member : _ ∈ happeningsOf flow world.pollHappenings :=
      turned ▸ List.mem_singleton_self _
    exact ⟨stream, looked, start, found, connecting, ⟨ready, look⟩, reported,
      ⟨rounds, now, List.mem_of_mem_filter member⟩, failed⟩
  · rintro ⟨same, known, began, fails⟩
    obtain ⟨there, connecting, ⟨_, again⟩, reported, ⟨_, _, member⟩, failed⟩ := fails
    rw [found] at there
    rw [look] at again
    cases there
    cases again
    have about : _ ∈ happeningsOf flow world.pollHappenings :=
      List.mem_filter.mpr ⟨member, decide_eq_true
        ((Happening.flow_turned ..).trans (sound.streams.get found))⟩
    rw [turned, List.mem_singleton] at about
    cases about
    exact (stream.onReady_ends_iff ..).mpr ⟨connecting, reported, failed⟩

/-- In a round streams leave the table only where they could not be connected. -/
theorem get?_round_iff (sound : world.Sound) (steps : Steps world world.pollHappenings after) :
    after.gateway.streams.get? flow = none ↔ world.gateway.streams.get? flow = none ∨
      ∃ stream looked start, FailsToConnect world flow stream looked start := by
  cases found : world.gateway.streams.get? flow with
  | none =>
      have silent := happeningsOf_pollHappenings_of_none sound found
      rw [steps.get?_streams_of_nil sound silent, found]
      exact ⟨fun _ => Or.inl rfl, fun _ => rfl⟩
  | some stream =>
      cases world.round_outcome with
      | failed look _ silent =>
          rw [silent] at steps
          rw [steps.get?_streams_of_nil sound rfl, found]
          constructor
          · intro absent
            cases absent
          · rintro (absent | ⟨_, _, _, fails⟩)
            · cases absent
            · obtain ⟨_, other⟩ := fails.look
              rw [look] at other
              cases other
      | served look =>
          obtain ⟨now, start, turned⟩ := happeningsOf_pollHappenings sound look found
          rw [steps.get?_streams_of_singleton sound turned, Happening.remains_eq_none_iff]
          refine (ends_iff_failsToConnect sound look found turned).trans ⟨Or.inr, ?_⟩
          rintro (absent | fails)
          · cases absent
          · exact fails

theorem happeningsOf_round (sound : world.Sound) (flow : Flow) :
    happeningsOf flow world.pollHappenings = [] ∨
      ∃ cause now stream start, world.gateway.streams.get? flow = some stream ∧
        happeningsOf flow world.pollHappenings = [.turned cause now stream start] := by
  cases found : world.gateway.streams.get? flow with
  | none => exact Or.inl (happeningsOf_pollHappenings_of_none sound found)
  | some stream =>
      cases world.round_outcome with
      | failed _ _ silent =>
          rw [silent]
          exact Or.inl rfl
      | served look =>
          obtain ⟨now, start, turned⟩ := happeningsOf_pollHappenings sound look found
          exact Or.inr ⟨_, now, stream, start, rfl, turned⟩

theorem get?_round_parties (sound : world.Sound) (steps : Steps world world.pollHappenings after)
    {still : Stream} (stays : after.gateway.streams.get? flow = some still) :
    ∃ before, world.gateway.streams.get? flow = some before ∧ Stream.SameParties before still := by
  rcases happeningsOf_round sound flow with silent | ⟨_, _, stream, _, found, turned⟩
  · rw [steps.get?_streams_of_nil sound silent] at stays
    exact ⟨still, stays, rfl, rfl, rfl, rfl⟩
  · rw [steps.get?_streams_of_singleton sound turned] at stays
    exact ⟨stream, found, Happening.remains_parties stays⟩

end Round

structure RoundsFree (flow : Flow) (rounds : List World) (world after : World) : Prop where
  freed : after.gateway.streams.get? flow = none ↔ world.gateway.streams.get? flow = none ∨
    ∃ round ∈ rounds, ∃ stream looked start, FailsToConnect round flow stream looked start
  kept : ∀ still, after.gateway.streams.get? flow = some still →
    ∃ before, world.gateway.streams.get? flow = some before ∧ Stream.SameParties before still

namespace RoundsFree

variable {flow : Flow} {world between after : World} {rounds : List World}

theorem refl (world : World) : RoundsFree flow [] world world where
  freed := by simp
  kept := fun still stays => ⟨still, stays, rfl, rfl, rfl, rfl⟩

theorem aside (same : between.gateway.streams.get? flow = world.gateway.streams.get? flow)
    (rest : RoundsFree flow rounds between after) : RoundsFree flow rounds world after where
  freed := by rw [rest.freed, same]
  kept := by
    intro still stays
    rw [← same]
    exact rest.kept still stays

theorem cons (sound : world.Sound) (steps : Steps world world.pollHappenings between)
    (rest : RoundsFree flow rounds between after) :
    RoundsFree flow (world :: rounds) world after where
  freed := by
    rw [rest.freed, get?_round_iff sound steps, or_assoc, List.exists_mem_cons_iff]
  kept := by
    intro still stays
    obtain ⟨middle, there, later⟩ := rest.kept still stays
    obtain ⟨before, found, first⟩ := get?_round_parties sound steps there
    exact ⟨before, found, first.trans later⟩

end RoundsFree

/-! ## Segments of the guest -/

section Transmit

variable {world : World} {flow : Flow} {stream : Stream}

theorem happeningsOf_of_asked (sound : world.Sound)
    (found : world.gateway.streams.get? flow = some stream) (sender : NicId) {frame : Bytes}
    {guest : Mac} {segment : Segment}
    (asked : Request.asked world.gateway.subnet frame = some (.segment guest flow segment))
    (noOpening : segment.opens = false) :
    happeningsOf flow (world.transmitHappenings sender frame) =
      [.turned (.segment segment) (world.spread sender frame).gateway.clock stream
        (world.spread sender frame).kernel] := by
  have same := (Happening.flow_turned (.segment segment) (world.spread sender frame).gateway.clock
    stream (world.spread sender frame).kernel).trans (sound.streams.get found)
  rw [transmitHappenings_of_asked asked]
  simp only [requestHappenings, segmentHappenings, spread_streams, found, noOpening,
    Bool.false_eq_true, if_false]
  rw [happeningsOf, List.filter_singleton, same]
  simp

theorem flow_of_mem_segmentHappenings (sound : world.Sound) {sender : NicId} {guestMac : Mac}
    {segment : Segment} {happening : Happening}
    (member : happening ∈ world.segmentHappenings sender guestMac flow segment) :
    happening.stream.flow = flow := by
  have soundAfter := sound.steps (steps_onSegment world sender guestMac flow segment)
  cases broughtBy_of_mem member with
  | turned found => exact (Happening.flow_turned ..).trans (sound.streams.get found)
  | opened _ added => exact soundAfter.streams.get added

theorem asked_of_happening (sound : world.Sound) {sender : NicId} {frame : Bytes}
    (happens : happeningsOf flow (world.transmitHappenings sender frame) ≠ []) :
    ∃ guest segment happening,
      Request.asked world.gateway.subnet frame = some (.segment guest flow segment) ∧
        happening ∈ (world.spread sender frame).segmentHappenings sender guest flow segment := by
  have soundSpread := sound.steps (steps_spread world sender frame)
  obtain ⟨happening, member⟩ := List.exists_mem_of_ne_nil _ happens
  obtain ⟨inside, about⟩ := List.mem_filter.mp member
  obtain ⟨guest, other, segment, asked, brought⟩ := asked_of_mem_transmitHappenings inside
  have same : other = flow :=
    (flow_of_mem_segmentHappenings soundSpread brought).symm.trans (of_decide_eq_true about)
  subst same
  exact ⟨guest, segment, happening, asked, brought⟩

theorem asked_of_turn (sound : world.Sound)
    (found : world.gateway.streams.get? flow = some stream) {sender : NicId} {frame : Bytes}
    (happens : happeningsOf flow (world.transmitHappenings sender frame) ≠ []) :
    ∃ guest segment,
      Request.asked world.gateway.subnet frame = some (.segment guest flow segment) ∧
        segment.opens = false := by
  obtain ⟨guest, segment, happening, asked, brought⟩ := asked_of_happening sound happens
  refine ⟨guest, segment, asked, Bool.eq_false_iff.mpr fun opens => ?_⟩
  rw [← spread_streams world sender frame] at found
  cases broughtBy_of_mem brought with
  | turned _ carriesOn => cases opens.symm.trans carriesOn
  | opened absent => cases found.symm.trans absent

theorem makes_dropStream {kernel : Kernel} (here : world.kernel = kernel) (flow : Flow) :
    ∃ calls, Makes calls kernel (world.dropStream flow).kernel ∧
      ∀ call ∈ calls, ∃ socket, call = .close socket := by
  subst here
  simp only [dropStream]
  split
  · exact ⟨[], Makes.refl _, by simp⟩
  · exact ⟨_, Kernel.makes_close .., List.forall_mem_singleton.mpr ⟨_, rfl⟩⟩

theorem transmit_continues (found : world.gateway.streams.get? flow = some stream)
    (sender : NicId) {frame : Bytes} {guest : Mac} {segment : Segment}
    (asked : Request.asked world.gateway.subnet frame = some (.segment guest flow segment))
    (noOpening : segment.opens = false) :
    world.transmit sender frame =
      (world.spread sender frame).continueStream flow stream segment := by
  rw [transmit_of_asked asked]
  simp only [serve, onSegment, spread_streams, found, noOpening, Bool.false_eq_true, if_false]

/-- A segment for a stream is passed on, gives the stream its turn and may close its socket. -/
theorem callsSince_transmit_of_asked (found : world.gateway.streams.get? flow = some stream)
    (sender : NicId) {frame : Bytes} {guest : Mac} {segment : Segment}
    (asked : Request.asked world.gateway.subnet frame = some (.segment guest flow segment))
    (noOpening : segment.opens = false) {calls : List Call}
    (made : Makes calls (world.spread sender frame).kernel
      (stream.onSegment (world.spread sender frame).gateway.clock segment
        (world.spread sender frame).kernel).kernel) :
    ∃ passed closing,
      (world.transmit sender frame).kernel.callsSince world.kernel = passed ++ calls ++ closing ∧
      (∀ call ∈ passed, ∃ relay, world.gateway.relay = some relay ∧ relay.Passes frame call) ∧
      ∀ call ∈ closing, ∃ socket, call = .close socket := by
  obtain ⟨passed, left, passes⟩ := world.spread_leaves sender frame
  have rest : ∃ closing, Makes closing
      (stream.onSegment (world.spread sender frame).gateway.clock segment
        (world.spread sender frame).kernel).kernel (world.transmit sender frame).kernel ∧
      ∀ call ∈ closing, ∃ socket, call = .close socket := by
    rw [transmit_continues found sender asked noOpening, continueStream]
    split
    · refine makes_dropStream ?_ flow
      rfl
    · exact ⟨[], Makes.refl _, by simp⟩
  obtain ⟨closing, closed, closes⟩ := rest
  exact ⟨passed, closing, ((left.makes.trans made).trans closed).callsSince_eq, passes, closes⟩

theorem makes_transmit_of_asked (found : world.gateway.streams.get? flow = some stream)
    (sender : NicId) {frame : Bytes} {guest : Mac} {segment : Segment}
    (asked : Request.asked world.gateway.subnet frame = some (.segment guest flow segment))
    (noOpening : segment.opens = false) :
    ∃ calls, Makes calls (world.spread sender frame).kernel
        (stream.onSegment (world.spread sender frame).gateway.clock segment
          (world.spread sender frame).kernel).kernel ∧
      ∀ call, call.isSend = true →
        (call ∈ (world.transmit sender frame).kernel.callsSince world.kernel ↔ call ∈ calls) := by
  obtain ⟨calls, made, _⟩ := stream.onSegment_move (world.spread sender frame).gateway.clock segment
    (world.spread sender frame).kernel
  obtain ⟨passed, closing, whole, passes, closes⟩ :=
    callsSince_transmit_of_asked found sender asked noOpening made
  refine ⟨calls, made, fun call isSend => ?_⟩
  rw [whole, List.mem_append, List.mem_append]
  have notPassed : call ∉ passed := by
    intro member
    obtain ⟨relay, _, peer, _, result, rfl⟩ := passes call member
    cases isSend
  have notClosing : call ∉ closing := by
    intro member
    obtain ⟨socket, rfl⟩ := closes call member
    cases isSend
  simp [notPassed, notClosing]

/-- The frame brings a segment that ends the stream of a flow, given the calls that are
made for it. -/
def EndsStream (world : World) (flow : Flow) (stream : Stream) (frame : Bytes)
    (calls : List Call) : Prop :=
  ∃ guest segment, BringsSegment world.gateway.subnet frame guest flow segment ∧
    segment.opens = false ∧ stream.Admits segment ∧ stream.EndedBy segment calls

theorem get?_transmit_iff (sound : world.Sound) (settled : stream.IsSettled)
    (found : world.gateway.streams.get? flow = some stream) (sender : NicId) (frame : Bytes) :
    (world.transmit sender frame).gateway.streams.get? flow = none ↔
      Request.shortestFrame ≤ frame.length ∧ frame.length ≤ Request.longestFrame ∧
        EndsStream world flow stream frame
          ((world.transmit sender frame).kernel.callsSince world.kernel) := by
  have steps := steps_transmit world sender frame
  have decided : ∀ guest segment,
      Request.asked world.gateway.subnet frame = some (.segment guest flow segment) →
      segment.opens = false →
      ((world.transmit sender frame).gateway.streams.get? flow = none ↔ stream.Admits segment ∧
        stream.EndedBy segment
          ((world.transmit sender frame).kernel.callsSince world.kernel)) := by
    intro guest segment asked noOpening
    have one := happeningsOf_of_asked sound found sender asked noOpening
    obtain ⟨calls, made, sends⟩ := makes_transmit_of_asked found sender asked noOpening
    rw [steps.get?_streams_of_singleton sound one, Happening.remains_eq_none_iff]
    refine (stream.onSegment_ends_iff settled _ segment made).trans (and_congr_right fun _ => ?_)
    exact ⟨fun ended => ended.of_sends fun call isSend => (sends call isSend).mpr,
      fun ended => ended.of_sends fun call isSend => (sends call isSend).mp⟩
  constructor
  · intro freed
    have happens : happeningsOf flow (world.transmitHappenings sender frame) ≠ [] := by
      intro none
      rw [steps.get?_streams_of_nil sound none, found] at freed
      cases freed
    obtain ⟨guest, segment, asked, noOpening⟩ := asked_of_turn sound found happens
    have ended := (decided guest segment asked noOpening).mp freed
    obtain ⟨atLeast, atMost, request⟩ := asked_eq_some_iff.mp asked
    have brings := (ofFrame_segment_iff ..).mp request
    exact ⟨atLeast, atMost, guest, segment, brings, noOpening, ended⟩
  · rintro ⟨atLeast, atMost, guest, segment, brings, noOpening, ended⟩
    have request := (ofFrame_segment_iff ..).mpr brings
    have asked := asked_eq_some_iff.mpr ⟨atLeast, atMost, request⟩
    exact (decided guest segment asked noOpening).mpr ended

theorem get?_transmit_parties (sound : world.Sound)
    (found : world.gateway.streams.get? flow = some stream) (sender : NicId) (frame : Bytes)
    {still : Stream}
    (stays : (world.transmit sender frame).gateway.streams.get? flow = some still) :
    Stream.SameParties stream still := by
  have steps := steps_transmit world sender frame
  by_cases none : happeningsOf flow (world.transmitHappenings sender frame) = []
  · rw [steps.get?_streams_of_nil sound none, found] at stays
    cases stays
    exact ⟨rfl, rfl, rfl, rfl⟩
  · obtain ⟨guest, segment, asked, noOpening⟩ := asked_of_turn sound found none
    have one := happeningsOf_of_asked sound found sender asked noOpening
    rw [steps.get?_streams_of_singleton sound one] at stays
    exact Happening.remains_parties stays

end Transmit

end World

end Masquerade
