import Masquerade.Proofs.Gateway.Ending
import Masquerade.Proofs.Gateway.Rounds
import Masquerade.Proofs.Stream.Closing

/-!
# Closing a stream

A stream that is no longer in the table has had its socket closed, whatever it was that ended
it.  The frames by which a guest closes a stream take it to its last phase and then out of the
table, and no round in between does anything to it.
-/

set_option autoImplicit false

namespace Masquerade

def Request.segmentOf? (flow : Flow) : Option Request → Option Segment
  | some (Request.segment _ other brought) => if other = flow then some brought else none
  | _ => none

theorem segmentOf?_eq_some_iff {flow : Flow} {request : Option Request} {segment : Segment} :
    Request.segmentOf? flow request = some segment ↔
      ∃ guest, request = some (.segment guest flow segment) := by
  constructor
  · intro found
    cases request with
    | none => cases found
    | some request =>
        cases request with
        | hardwareAddress | ownAddress | echo | datagram => cases found
        | segment guest other brought =>
            simp only [Request.segmentOf?] at found
            split at found
            · rename_i same
              cases found
              exact ⟨guest, by rw [same]⟩
            · cases found
  · rintro ⟨guest, rfl⟩
    exact if_pos rfl

/-- A frame brings the last mark of the guest of a flow, in some place and without bytes. -/
def BringsLast (subnet : Subnet) (flow : Flow) (place : UInt32) (frame : Bytes) : Prop :=
  ∃ guest segment, Request.asked subnet frame = some (.segment guest flow segment) ∧
    segment.IsLastAt place

def BringsAcknowledgment (subnet : Subnet) (flow : Flow) (number : UInt32) (frame : Bytes) :
    Prop :=
  ∃ guest segment, Request.asked subnet frame = some (.segment guest flow segment) ∧
    segment.IsAcknowledgment ∧ segment.header.acknowledgment = number

namespace World

/-! ## Sockets of streams that are gone -/

section Gone

variable {world after : World} {flow : Flow} {stream : Stream} {happenings : List Happening}

theorem Step.stays_or_shut (step : Step world happenings after)
    (found : world.gateway.streams.get? flow = some stream) :
    (∃ still, after.gateway.streams.get? flow = some still ∧ still.socket = stream.socket) ∨
      ¬ after.kernel.IsOpen stream.socket := by
  cases step with
  | aside | looked | relayed | missed | mappingUsed | mappingNumbered | mappingTouched
  | mappingAdded | mappingReplaced => exact Or.inl ⟨stream, found, rfl⟩
  | @streamAdded _ other _ _ _ absent _ _ _ put =>
      have away : other.flow ≠ flow := by
        rintro rfl
        rw [found] at absent
        cases absent
      refine Or.inl ⟨stream, ?_, rfl⟩
      exact (FlowTable.get?_insert? put flow).trans ((if_neg away).trans found)
  | @streamTurned own turned cause now there =>
      by_cases same : own = flow
      · subst same
        rw [found] at there
        cases there
        exact Or.inl ⟨_, get?_set_turn found _, stream.turn_socket ..⟩
      · exact Or.inl ⟨stream, (FlowTable.get?_set ..).trans ((if_neg same).trans found), rfl⟩
  | streamTouched => exact Or.inl ⟨stream, (FlowTable.get?_touch ..).trans found, rfl⟩
  | @streamEnded own ended cause now there =>
      by_cases same : own = flow
      · subst same
        rw [found] at there
        cases there
        exact Or.inr (Kernel.not_isOpen_close _ _)
      · exact Or.inl ⟨stream, (FlowTable.get?_remove ..).trans ((if_neg same).trans found), rfl⟩

theorem Steps.stays_or_shut (sound : world.Sound) (steps : Steps world happenings after)
    (found : world.gateway.streams.get? flow = some stream) :
    (∃ still, after.gateway.streams.get? flow = some still ∧ still.socket = stream.socket) ∨
      ¬ after.kernel.IsOpen stream.socket := by
  induction steps generalizing stream with
  | refl => exact Or.inl ⟨stream, found, rfl⟩
  | more step rest ih =>
      rcases step.stays_or_shut found with ⟨still, stays, socket⟩ | shut
      · have later := ih (sound.step step) stays
        rwa [socket] at later
      · obtain ⟨calls, made⟩ := step.makes
        obtain ⟨_, later⟩ := rest.makes
        have given := sound.held.lt (stream_mem_holders (FlowTable.mem_rows_of_get? found))
        exact Or.inr (later.not_isOpen
          (Nat.lt_of_lt_of_le given (Kernel.length_sockets_le made)) shut)

/-- Whatever it was that took a stream out of the table, its socket is closed. -/
theorem Steps.shut_of_gone (sound : world.Sound) (steps : Steps world happenings after)
    (found : world.gateway.streams.get? flow = some stream)
    (gone : after.gateway.streams.get? flow = none) : ¬ after.kernel.IsOpen stream.socket := by
  rcases steps.stays_or_shut sound found with ⟨still, stays, _⟩ | shut
  · rw [gone] at stays
    cases stays
  · exact shut

end Gone

/-! ## The last frames of a guest -/

theorem segmentHappenings_of_absent {world : World} {flow : Flow}
    (absent : world.gateway.streams.get? flow = none) {segment : Segment}
    (noOpening : segment.opens = false) (sender : NicId) (guestMac : Mac) :
    world.segmentHappenings sender guestMac flow segment = [] := by
  have kept : (world.onSegment sender guestMac flow segment).gateway.streams =
      world.gateway.streams := by
    rw [onSegment, absent]
    simp only [noOpening, Bool.false_eq_true, if_false]
    split
    · rfl
    · exact streams_refuse ..
  rw [segmentHappenings, absent]
  dsimp only
  rw [kept, absent]

section Frames

variable {world : World} {flow : Flow} {stream : Stream} (sound : world.Sound)
include sound

/-- The last mark of the guest takes a stream to its last phase, if not at once to its end. -/
theorem transmit_last (found : world.gateway.streams.get? flow = some stream) (sender : NicId)
    {frame : Bytes} (brings : BringsLast world.gateway.subnet flow stream.guestNext frame) :
    ∀ still, (world.transmit sender frame).gateway.streams.get? flow = some still →
      still.AwaitsEnd ∧ still.socket = stream.socket := by
  intro still stays
  obtain ⟨guest, segment, asked, isLast⟩ := brings
  have one := happeningsOf_of_asked sound found sender asked isLast.opens
  rw [(steps_transmit world sender frame).get?_streams_of_singleton sound one] at stays
  simp only [Happening.remains] at stays
  split at stays
  · cases stays
  · cases stays
    exact ⟨Stream.onSegment_of_last isLast .., stream.turn_socket ..⟩

theorem transmit_absent (absent : world.gateway.streams.get? flow = none) (sender : NicId)
    {frame : Bytes} {guest : Mac} {segment : Segment}
    (asked : Request.asked world.gateway.subnet frame = some (.segment guest flow segment))
    (noOpening : segment.opens = false) :
    (world.transmit sender frame).gateway.streams.get? flow = none := by
  have silent : happeningsOf flow (world.transmitHappenings sender frame) = [] := by
    refine Classical.byContradiction fun happens => ?_
    obtain ⟨_, _, happening, askedToo, brought⟩ := asked_of_happening sound happens
    rw [asked] at askedToo
    cases askedToo
    have still : (world.spread sender frame).gateway.streams.get? flow = none := by
      rw [spread_streams]
      exact absent
    rw [segmentHappenings_of_absent still noOpening] at brought
    cases brought
  exact ((steps_transmit world sender frame).get?_streams_of_nil sound silent).trans absent

theorem transmit_acknowledgment (found : world.gateway.streams.get? flow = some stream)
    (awaits : stream.AwaitsEnd) (sender : NicId) {frame : Bytes}
    (brings : BringsAcknowledgment world.gateway.subnet flow stream.outsideNext frame) :
    (world.transmit sender frame).gateway.streams.get? flow = none := by
  obtain ⟨guest, segment, asked, bare, next⟩ := brings
  have one := happeningsOf_of_asked sound found sender asked bare.opens
  rw [(steps_transmit world sender frame).get?_streams_of_singleton sound one]
  exact if_pos (awaits.onSegment_ends bare next ..)

/-- After an acknowledgment of all that a stream in its last phase has sent, the flow has no
stream, whether it still had one or not. -/
theorem transmit_frees (sender : NicId) {frame : Bytes} {number : UInt32}
    (brings : BringsAcknowledgment world.gateway.subnet flow number frame)
    (awaits : ∀ stream, world.gateway.streams.get? flow = some stream →
      stream.AwaitsEnd ∧ number = stream.outsideNext) :
    (world.transmit sender frame).gateway.streams.get? flow = none := by
  cases found : world.gateway.streams.get? flow with
  | none =>
      obtain ⟨guest, segment, asked, bare, _⟩ := brings
      exact transmit_absent sound found sender asked bare.opens
  | some stream =>
      obtain ⟨last, rfl⟩ := awaits stream found
      exact transmit_acknowledgment sound found last sender brings

theorem get?_round_of_awaitsEnd {after : World} (steps : Steps world world.pollHappenings after)
    (awaits : ∀ stream, world.gateway.streams.get? flow = some stream → stream.AwaitsEnd) :
    after.gateway.streams.get? flow = world.gateway.streams.get? flow := by
  cases found : world.gateway.streams.get? flow with
  | none =>
      have silent := happeningsOf_pollHappenings_of_none sound found
      exact (steps.get?_streams_of_nil sound silent).trans found
  | some stream =>
      by_cases succeeds : world.looks = true
      · obtain ⟨own, start, turn⟩ := hasTurn_of_looks sound succeeds found
        obtain ⟨now, one⟩ := turn.turn
        have rests := (awaits stream found).onReady now world.gateway.retransmitRounds own start
        rw [steps.get?_streams_of_singleton sound one, Happening.remains, Happening.ends,
          Stream.turn, rests]
        exact congrArg some (congrArg Turn.stream rests)
      · have silent := pollHappenings_of_not_looks (Bool.eq_false_iff.mpr succeeds)
        rw [silent] at steps
        exact (steps.get?_streams_of_nil sound rfl).trans found

end Frames

end World

end Masquerade
