import Masquerade.Proofs.Gateway.Answers
import Masquerade.Proofs.Gateway.Ending

/-!
# Who a record is opened for

A stream or mapping that was not there before a frame came was opened for the sender of
that frame, and for the hardware address that the frame came from.  Nothing else opens
one, and whatever stays keeps its guest.
-/

set_option autoImplicit false

namespace Masquerade

def Mapping.Continues (before after : Mapping) : Prop :=
  after = { before with identification := after.identification }

theorem Mapping.Continues.trans {before between after : Mapping} (first : before.Continues between)
    (second : between.Continues after) : before.Continues after := by
  rw [Continues] at first second ⊢
  rw [second, first]

namespace World

variable {world : World} {flow : Flow}

/-! ## Streams -/

theorem get?_openStream (absent : world.gateway.streams.get? flow = none) {sender : NicId}
    {guestMac : Mac} {segment : Segment} {stream : Stream}
    (given : (world.openStream sender guestMac flow segment).gateway.streams.get? flow =
      some stream) : stream.owner = sender ∧ stream.guestMac = guestMac := by
  generalize leads : world.openStream sender guestMac flow segment = after at given
  cases openStream_outcome leads with
  | declined | failed =>
      rw [streams_refuse] at given
      cases absent.symm.trans given
  | taken => cases absent.symm.trans given
  | added _ _ put =>
      have placed := (FlowTable.get?_insert? put flow).trans (if_pos rfl)
      cases placed.symm.trans given
      exact ⟨rfl, rfl⟩

theorem get?_onSegment (absent : world.gateway.streams.get? flow = none) {sender : NicId}
    {guestMac : Mac} {segment : Segment} {stream : Stream}
    (given : (world.onSegment sender guestMac flow segment).gateway.streams.get? flow =
      some stream) :
    segment.opens = true ∧ stream.owner = sender ∧ stream.guestMac = guestMac := by
  generalize leads : world.onSegment sender guestMac flow segment = after at given
  cases onSegment_outcome leads with
  | opened _ opens => exact ⟨opens, get?_openStream absent given⟩
  | repeated | passedOver => cases absent.symm.trans given
  | continued found => cases absent.symm.trans found
  | refused =>
      rw [streams_refuse] at given
      cases absent.symm.trans given

theorem get?_transmit_opened (sound : world.Sound)
    (absent : world.gateway.streams.get? flow = none) {sender : NicId} {frame : Bytes}
    {stream : Stream}
    (given : (world.transmit sender frame).gateway.streams.get? flow = some stream) :
    stream.owner = sender ∧ ∃ segment,
      Request.asked world.gateway.subnet frame = some (.segment stream.guestMac flow segment) ∧
        segment.opens = true := by
  have steps := steps_transmit world sender frame
  have absentSpread : (world.spread sender frame).gateway.streams.get? flow = none := by
    rw [spread_streams, absent]
  have happens : happeningsOf flow (world.transmitHappenings sender frame) ≠ [] := by
    intro none
    rw [steps.get?_streams_of_nil sound none, absent] at given
    cases given
  obtain ⟨guest, segment, _, asked, _⟩ := asked_of_happening sound happens
  rw [transmit_of_asked asked] at given
  obtain ⟨opens, owner, rfl⟩ := get?_onSegment absentSpread given
  exact ⟨owner, segment, asked, opens⟩

/-! ## Mappings -/

theorem serveStreams_mappings (sound : world.Sound) (turns : List (Flow × Kernel.Readiness)) :
    (turns.foldl (fun world (flow, ready) => world.serveStream flow ready)
      world).gateway.mappings = world.gateway.mappings := by
  obtain ⟨_, _, _, same⟩ := serveStreams_leaves turns sound
  exact same

theorem serveRelay_mappings (world : World) (ready : List Kernel.Readiness) :
    (world.serveRelay ready).gateway.mappings = world.gateway.mappings := by
  obtain ⟨_, _, _, same⟩ := serveRelay_leaves world ready
  exact same

def KeepsMappings (before after : World) : Prop :=
  ∀ flow still, after.gateway.mappings.get? flow = some still →
    ∃ mapping, before.gateway.mappings.get? flow = some mapping ∧ mapping.Continues still

namespace KeepsMappings

theorem of_same {before after : World} (same : after.gateway.mappings = before.gateway.mappings) :
    KeepsMappings before after := by
  intro flow still stays
  rw [same] at stays
  exact ⟨still, stays, rfl⟩

theorem trans {before between after : World} (first : KeepsMappings before between)
    (second : KeepsMappings between after) : KeepsMappings before after := by
  intro flow still stays
  obtain ⟨middle, there, later⟩ := second flow still stays
  obtain ⟨mapping, found, early⟩ := first flow middle there
  exact ⟨mapping, found, early.trans later⟩

theorem serveMapping (world : World) (flow : Flow) (ready : Kernel.Readiness) :
    KeepsMappings world (world.serveMapping flow ready) := by
  generalize leads : world.serveMapping flow ready = after
  cases serveMapping_outcome leads with
  | idle | failed => exact of_same rfl
  | @replied mapping _ _ _ found =>
      intro other still stays
      rw [onReply_get?, FlowTable.get?_set, gateway_withKernel] at stays
      split at stays
      · rename_i same
        subst same
        rw [found] at stays
        cases stays
        exact ⟨mapping, found, rfl⟩
      · exact ⟨still, stays, rfl⟩

theorem serveMappings (turns : List (Flow × Kernel.Readiness)) (world : World) :
    KeepsMappings world
      (turns.foldl (fun world (flow, ready) => world.serveMapping flow ready) world) := by
  induction turns generalizing world with
  | nil => exact of_same rfl
  | cons turn rest ih => exact (serveMapping world turn.1 turn.2).trans (ih _)

theorem serveAll (sound : world.Sound) (ready : List Kernel.Readiness) :
    KeepsMappings world (world.serveAll ready) := by
  have soundMapped := sound.steps
    (steps_serveMappings (world.gateway.mappings.flows.zip ready) world)
  refine (serveMappings (world.gateway.mappings.flows.zip ready) world).trans (of_same ?_)
  exact (serveRelay_mappings ..).trans (serveStreams_mappings soundMapped _)

theorem poll (sound : world.Sound) : KeepsMappings world world.poll := by
  cases world.round_outcome with
  | failed _ _ _ leads => exact of_same (by rw [leads, gateway_withKernel])
  | served _ made _ leads =>
      rw [leads]
      exact serveAll (sound.looked made) _

end KeepsMappings

theorem get?_openMapping {other : Flow} (missing : world.gateway.mappings.get? other = none)
    (distinct : world.gateway.mappings.flows.Nodup) {owner : NicId} {guestMac : Mac}
    {mapping : Mapping}
    (given : (world.openMapping owner guestMac other).gateway.mappings.get? flow = some mapping) :
    world.gateway.mappings.get? flow = some mapping ∨
      other = flow ∧ mapping.owner = owner ∧ mapping.guestMac = guestMac := by
  have origin : ∀ (mappings : FlowTable Mapping) (evicted : Option (Flow × Mapping))
      (opened : Mapping),
      world.gateway.mappings.insertEvicting other opened = (evicted, mappings) →
      mappings.get? flow = some mapping →
      world.gateway.mappings.get? flow = some mapping ∨ other = flow ∧ mapping = opened := by
    intro mappings evicted opened put there
    by_cases here : other = flow
    · subst here
      rw [FlowTable.get?_insertEvicting missing put] at there
      cases there
      exact Or.inr ⟨rfl, rfl⟩
    · exact Or.inl (FlowTable.get?_of_insertEvicting missing distinct put here there)
  generalize leads : world.openMapping owner guestMac other = after at given
  cases openMapping_outcome leads with
  | aimless | failed => exact Or.inl given
  | added _ _ put | replaced _ _ put =>
      rcases origin _ _ _ put given with before | ⟨here, rfl⟩
      · exact Or.inl before
      · exact Or.inr ⟨here, rfl, rfl⟩

theorem get?_onDatagram (sound : world.Sound) {sender : NicId} {guestMac : Mac} {other : Flow}
    {payload : Bytes} {mapping : Mapping}
    (given : (world.onDatagram sender guestMac other payload).gateway.mappings.get? flow =
      some mapping) :
    world.gateway.mappings.get? flow = some mapping ∨
      world.gateway.mappings.get? flow = none ∧ other = flow ∧ mapping.owner = sender ∧
        mapping.guestMac = guestMac := by
  cases found : world.gateway.mappings.get? other with
  | some known =>
      rw [onDatagram_of_some found, mappings_sendDatagram, FlowTable.get?_touch] at given
      exact Or.inl given
  | none =>
      rw [onDatagram_of_none found, mappings_sendDatagram, FlowTable.get?_touch] at given
      rcases get?_openMapping found sound.mappings.distinct given with before | ⟨here, opened⟩
      · exact Or.inl before
      · exact Or.inr ⟨here ▸ found, here, opened⟩

theorem get?_transmit_mapping (sound : world.Sound) {sender : NicId} {frame : Bytes}
    {mapping : Mapping}
    (given : (world.transmit sender frame).gateway.mappings.get? flow = some mapping) :
    world.gateway.mappings.get? flow = some mapping ∨
      world.gateway.mappings.get? flow = none ∧ mapping.owner = sender ∧ ∃ payload,
        Request.asked world.gateway.subnet frame =
          some (.datagram mapping.guestMac flow payload) := by
  have soundSpread := sound.steps (steps_spread world sender frame)
  cases asked : Request.asked world.gateway.subnet frame with
  | none =>
      left
      rcases transmit_of_not_asked asked with same | same
      · rw [same] at given
        exact given
      · rw [same, spread_mappings] at given
        exact given
  | some request =>
      rw [transmit_of_asked asked] at given
      obtain ⟨_, _, _, _, ⟨_, same, _⟩ | ⟨guest, other, payload, _, rfl, _⟩⟩ :=
        serve_leaves soundSpread sender request
      · rw [same, spread_mappings] at given
        exact Or.inl given
      · rcases get?_onDatagram soundSpread given with before | ⟨absent, rfl, owner, rfl⟩
        · rw [spread_mappings] at before
          exact Or.inl before
        · rw [spread_mappings] at absent
          exact Or.inr ⟨absent, owner, payload, rfl⟩

end World

end Masquerade
