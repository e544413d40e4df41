import Masquerade.Proofs.Gateway.Buffers
import Masquerade.Proofs.Gateway.Made
import Masquerade.Proofs.Gateway.Stretches
import Masquerade.Proofs.Stream.Numbering

/-!
# Nothing stops the gateway

Frames and rounds are served here with everything checked that could stop the gateway or
make it fall short: stretches and copies, frames that must be built, and the place in the
table for a stream that is open on the host.  All checks pass, and what comes out is what
the gateway does without them.
-/

set_option autoImplicit false

namespace Masquerade

open Packet
open Kernel (Readiness)
open World (interests)

namespace Checked

/-! ## Frames -/

def refuse (world : World) (sender : NicId) (guestMac : Mac) (flow : Flow) (segment : Segment)
    (length : Nat) : Except Breach World := do
  return world.post sender [← reset guestMac flow segment.header length]

/-- A stream that is open on the host has to find a place in the table. -/
def openStream (world : World) (sender : NicId) (guestMac : Mac) (flow : Flow)
    (segment : Segment) : Except Breach World :=
  if world.gateway.streams.isFull ∨ flow.outside.address = world.gateway.subnet.gateway then
    refuse world sender guestMac flow segment 0
  else
    match world.kernel.openStream flow.outside with
    | (.error _, kernel) => refuse { world with kernel } sender guestMac flow segment 0
    | (.ok socket, kernel) =>
      let (initial, kernel) := kernel.drawRandom
      let stream := Stream.opening sender guestMac flow socket segment initial
      match world.gateway.streams.insert? flow stream with
      | none => .error (.unrecorded flow)
      | some streams => .ok { gateway := { world.gateway with streams }, kernel }

/-- A turn must not take a number for a packet that is not sent. -/
def turn (stream : Stream) (now : Nat) (kernel : Kernel) (cause : Stream.Cause) :
    Except Breach Turn :=
  let turn := stream.turn now kernel cause
  if stream.Numbers (turn.stream, turn.frames) then .ok turn
  else .error (.unsent turn.stream.identification)

def continueStream (world : World) (flow : Flow) (stream : Stream) (segment : Segment) :
    Except Breach World := do
  let turn ← turn stream world.gateway.clock world.kernel (.segment segment)
  let world :=
    ({ world with kernel := turn.kernel }.keepStream flow turn.stream).post stream.owner
      turn.frames
  return if turn.ends then world.dropStream flow else world.touchStream flow

def onSegment (world : World) (sender : NicId) (guestMac : Mac) (flow : Flow)
    (segment : Segment) : Except Breach World :=
  match world.gateway.streams.get? flow with
  | some stream =>
    if segment.opens then .ok world else continueStream world flow stream segment
  | none =>
    if segment.opens then openStream world sender guestMac flow segment
    else if segment.has .rst then .ok world
    else refuse world sender guestMac flow segment segment.payload.length

def serve (world : World) (sender : NicId) : Request → Except Breach World
  | .hardwareAddress guest packet => do
    return world.post sender [← hardwareAddress world.gateway.subnet guest packet]
  | .ownAddress guest packet => do
    return world.post sender [← ownAddress world.gateway.subnet guest packet]
  | .echo guest ip message => do
    return world.post sender [← echo world.gateway.subnet guest ip message]
  | .datagram guest flow payload => .ok (world.onDatagram sender guest flow payload)
  | .segment guest flow segment => onSegment world sender guest flow segment

def transmit (world : World) (sender : NicId) (frame : Bytes) : Except Breach World :=
  if frame.length < Request.shortestFrame ∨ Request.longestFrame < frame.length then .ok world
  else do
    let spread := world.spread sender frame
    match ← ofFrame world.gateway.subnet frame with
    | none => return spread
    | some request => serve spread sender request

/-! ## Rounds -/

def serveStream (world : World) (flow : Flow) (ready : Readiness) : Except Breach World :=
  match world.gateway.streams.get? flow with
  | none => .ok world
  | some stream => do
    let now := world.gateway.clock + 1
    let turn ← turn stream now world.kernel (.ready world.gateway.retransmitRounds ready)
    let kept := { world with kernel := turn.kernel }.keepStream flow turn.stream
    let sent :=
      if turn.frames.isEmpty then kept
      else
        { kept with gateway := { kept.gateway with clock := now } }.touchStream flow
          |>.post stream.owner turn.frames
    return if turn.ends then sent.dropStream flow else sent

def serveAll (world : World) (ready : List Readiness) : Except Breach World := do
  let mappings := world.gateway.mappings.flows
  let streams := world.gateway.streams.flows
  let (forMappings, rest) ← splitAt ready mappings.length
  let (forStreams, forRelay) ← splitAt rest streams.length
  let afterMappings := (mappings.zip forMappings).foldl
    (fun world (flow, ready) => world.serveMapping flow ready) world
  let afterStreams ← (streams.zip forStreams).foldlM
    (fun world (flow, ready) => serveStream world flow ready) afterMappings
  return afterStreams.serveRelay forRelay

def poll (world : World) : Except Breach World :=
  match world.kernel.readiness (interests world.gateway) with
  | (.error _, kernel) => .ok { world with kernel }
  | (.ok ready, kernel) => serveAll { world with kernel } ready

/-! ## Frames pass -/

theorem refuse_eq (world : World) (sender : NicId) (guestMac : Mac) (flow : Flow)
    (segment : Segment) (length : Nat) : refuse world sender guestMac flow segment length =
      .ok (world.refuse sender guestMac flow segment length) := by
  obtain ⟨frame, built⟩ := reset_isBuilt guestMac flow segment.header length
  rw [refuse, reset_eq, built, World.refuse, built]
  rfl

/-- Before a socket is opened, it is certain that the stream will have its place. -/
theorem openStream_eq {world : World} {flow : Flow} (absent : world.gateway.streams.get? flow = none)
    (sender : NicId) (guestMac : Mac) (segment : Segment) :
    openStream world sender guestMac flow segment =
      .ok (world.openStream sender guestMac flow segment) := by
  rw [openStream, World.openStream]
  by_cases refused : world.gateway.streams.isFull ∨
      flow.outside.address = world.gateway.subnet.gateway
  · rw [if_pos refused, if_pos refused, refuse_eq]
  · have room : world.gateway.streams.isFull = false :=
      Bool.eq_false_iff.mpr fun full => refused (Or.inl full)
    rw [if_neg refused, if_neg refused]
    cases world.kernel.openStream flow.outside with
    | mk result kernel =>
        cases result with
        | error errno => exact refuse_eq ..
        | ok socket =>
            dsimp only
            rw [FlowTable.insert?_of_room _ absent room]

theorem turn_eq {stream : Stream} (now : Nat) (kernel : Kernel) (cause : Stream.Cause)
    (fits : stream.unacknowledged.length ≤ Stream.mostRead) :
    turn stream now kernel cause = .ok (stream.turn now kernel cause) :=
  if_pos (stream.turn_numbers now kernel cause fits)

theorem continueStream_eq {stream : Stream} (world : World) (flow : Flow) (segment : Segment)
    (fits : stream.unacknowledged.length ≤ Stream.mostRead) :
    continueStream world flow stream segment =
      .ok (world.continueStream flow stream segment) := by
  rw [continueStream, turn_eq _ _ _ fits]
  rfl

theorem onSegment_eq {world : World} (bounded : world.Bounded) (sender : NicId) (guestMac : Mac)
    (flow : Flow) (segment : Segment) : onSegment world sender guestMac flow segment =
      .ok (world.onSegment sender guestMac flow segment) := by
  rw [onSegment, World.onSegment]
  cases found : world.gateway.streams.get? flow with
  | none =>
      dsimp only
      rw [openStream_eq found, refuse_eq, ok_ite, ok_ite]
  | some stream =>
      dsimp only
      rw [continueStream_eq world flow segment (bounded flow stream found), ok_ite]

theorem serve_eq {world : World} (bounded : world.Bounded) (sender : NicId) (request : Request)
    (echoed : ∀ guest ip message, request = .echo guest ip message →
      IcmpHeader.size ≤ message.length ∧ Ipv4Header.size + message.length ≤ 65535) :
    serve world sender request = .ok (world.serve sender request) := by
  cases request with
  | hardwareAddress guest packet =>
      rw [serve, hardwareAddress_eq]
      rfl
  | ownAddress guest packet =>
      rw [serve, ownAddress_eq]
      rfl
  | echo guest ip message =>
      obtain ⟨atLeast, fits⟩ := echoed guest ip message rfl
      obtain ⟨frame, built⟩ := echo_isBuilt world.gateway.subnet guest ip atLeast fits
      rw [serve, echo_eq _ _ _ atLeast, built, World.serve, built]
      rfl
  | datagram guest flow payload => rfl
  | segment guest flow segment => exact onSegment_eq bounded sender guest flow segment

theorem transmit_eq {world : World} (bounded : world.Bounded) (sender : NicId) (frame : Bytes) :
    transmit world sender frame = .ok (world.transmit sender frame) := by
  rw [transmit, World.transmit]
  by_cases unusable : frame.length < Request.shortestFrame ∨ Request.longestFrame < frame.length
  · rw [if_pos unusable, if_pos unusable]
  · have limits := frame_limits
    have still : (world.spread sender frame).Bounded := by
      intro flow stream found
      rw [World.spread_streams] at found
      exact bounded flow stream found
    rw [if_neg unusable, if_neg unusable, ofFrame_eq _ (by omega), ok_bind]
    cases asked : Request.ofFrame world.gateway.subnet frame with
    | none => rfl
    | some request =>
        refine serve_eq still sender request fun guest ip message echo => ?_
        subst echo
        obtain ⟨atLeast, fits⟩ := message_fits asked
        exact ⟨atLeast, by omega⟩

/-! ## Rounds pass -/

theorem serveStream_eq {world : World} {flow : Flow} (ready : Readiness)
    (fits : ∀ stream, world.gateway.streams.get? flow = some stream →
      stream.unacknowledged.length ≤ Stream.mostRead) :
    serveStream world flow ready = .ok (world.serveStream flow ready) := by
  rw [serveStream, World.serveStream]
  cases found : world.gateway.streams.get? flow with
  | none => rfl
  | some stream =>
      dsimp only
      rw [turn_eq _ _ _ (fits stream found)]
      rfl

/-- A stream has no turn before its own, so that it is then as it was at first. -/
theorem serveStreams_eq {turns : List (Flow × Readiness)} {world : World} (sound : world.Sound)
    (bounded : ∀ turn ∈ turns, ∀ stream, world.gateway.streams.get? turn.1 = some stream →
      stream.unacknowledged.length ≤ Stream.mostRead)
    (distinct : (turns.map Prod.fst).Nodup) :
    turns.foldlM (fun world (flow, ready) => serveStream world flow ready) world =
      .ok (turns.foldl (fun world (flow, ready) => world.serveStream flow ready) world) := by
  induction turns generalizing world with
  | nil => rfl
  | cons turn rest ih =>
      obtain ⟨flow, ready⟩ := turn
      rw [List.map_cons, List.nodup_cons] at distinct
      have steps := World.steps_serveStream world flow ready
      rw [List.foldlM_cons]
      dsimp only
      rw [serveStream_eq ready (bounded _ (List.mem_cons_self ..)), ok_bind]
      refine ih (sound.steps steps) (fun turn member stream found => ?_) distinct.2
      have away : flow ≠ turn.1 := fun same =>
        distinct.1 (List.mem_map.mpr ⟨turn, member, same.symm⟩)
      have silent := World.happeningsOf_streamHappenings sound flow turn.1 ready
      rw [if_neg away] at silent
      rw [steps.get?_streams_of_nil sound silent] at found
      exact bounded turn (List.mem_cons_of_mem _ member) stream found

theorem zip_take {Left Right : Type} (first : List Left) (second : List Right) :
    first.zip (second.take first.length) = first.zip second := by
  induction first generalizing second with
  | nil => rfl
  | cons item rest ih =>
      cases second with
      | nil => rfl
      | cons other others => exact congrArg (List.cons _) (ih others)

theorem serveAll_eq {world : World} (sound : world.Sound) (bounded : world.Bounded)
    {ready : List Readiness}
    (enough : world.gateway.mappings.flows.length + world.gateway.streams.flows.length ≤
      ready.length) : serveAll world ready = .ok (world.serveAll ready) := by
  have restEnough : world.gateway.streams.flows.length ≤
      (ready.drop world.gateway.mappings.flows.length).length := by
    rw [List.length_drop]
    omega
  have quiet := World.steps_serveMappings (world.gateway.mappings.flows.zip ready) world
  rw [serveAll, splitAt_eq (Nat.le_of_add_right_le enough), ok_bind]
  dsimp only
  rw [splitAt_eq restEnough, ok_bind]
  dsimp only
  rw [zip_take, zip_take, serveStreams_eq (sound.steps quiet)]
  · rfl
  · intro turn _ stream found
    rw [quiet.get?_streams_of_nil sound rfl] at found
    exact bounded turn.1 stream found
  · rw [List.map_fst_zip restEnough]
    exact sound.streams.distinct

theorem poll_eq {world : World} (sound : world.Sound) (bounded : world.Bounded) :
    poll world = .ok world.poll := by
  cases world.round_outcome with
  | failed look _ _ leads =>
      rw [poll, look, leads]
      rfl
  | @served ready _ look made _ leads =>
      have enough : world.gateway.mappings.flows.length +
          world.gateway.streams.flows.length ≤ ready.length := by
        simp only [World.readiness_ok look, interests, FlowTable.flows_eq, List.length_append,
          List.length_map]
        omega
      rw [poll, look, leads]
      exact serveAll_eq (sound.looked made) bounded enough

end Checked

end Masquerade
