import Masquerade.Proofs.Gateway.Datagrams
import Masquerade.Proofs.Stream.HostUse

/-!
# What is not touched

All streams and mappings stand in two tables and share one kernel.  What is done for one
flow leaves what carries any other as it was, and its socket alone; the only exception is
the mapping that makes room for a new one.
-/

set_option autoImplicit false

namespace Masquerade

open Kernel (LeavesAlone)

/-- Where something stands that carries a flow: its stream, or its mapping. -/
inductive Place
  | stream (flow : Flow)
  | mapping (flow : Flow)
  deriving DecidableEq

inductive Carrier
  | stream (stream : Stream)
  | mapping (mapping : Mapping)
  deriving DecidableEq

namespace Carrier

def socket : Carrier → SocketId
  | .stream record => record.socket
  | .mapping record => record.socket

def owner : Carrier → NicId
  | .stream record => record.owner
  | .mapping record => record.owner

end Carrier

namespace World

def carrier? (world : World) : Place → Option Carrier
  | .stream flow => (world.gateway.streams.get? flow).map .stream
  | .mapping flow => (world.gateway.mappings.get? flow).map .mapping

section Carriers

variable {world : World} {flow : Flow}

theorem carrier?_stream {stream : Stream} (found : world.gateway.streams.get? flow = some stream) :
    world.carrier? (.stream flow) = some (.stream stream) :=
  congrArg (Option.map Carrier.stream) found

theorem carrier?_mapping {mapping : Mapping}
    (found : world.gateway.mappings.get? flow = some mapping) :
    world.carrier? (.mapping flow) = some (.mapping mapping) :=
  congrArg (Option.map Carrier.mapping) found

end Carriers

/-- What stands at a place is as it was, and nothing has been done with its socket. -/
structure Spares (place : Place) (before after : World) : Prop where
  same : after.carrier? place = before.carrier? place
  alone : ∀ carrier, before.carrier? place = some carrier →
    LeavesAlone carrier.socket before.kernel after.kernel

namespace Spares

variable {place : Place} {before between after : World}

theorem refl (place : Place) (world : World) : Spares place world world :=
  ⟨rfl, fun carrier _ => .refl carrier.socket world.kernel⟩

theorem trans (first : Spares place before between) (second : Spares place between after) :
    Spares place before after where
  same := second.same.trans first.same
  alone := fun carrier there =>
    (first.alone carrier there).trans (second.alone carrier (first.same.trans there))

theorem of_same (streams : after.gateway.streams = before.gateway.streams)
    (mappings : after.gateway.mappings = before.gateway.mappings)
    (kernel : ∀ carrier, before.carrier? place = some carrier →
      LeavesAlone carrier.socket before.kernel after.kernel) : Spares place before after := by
  refine ⟨?_, kernel⟩
  cases place with
  | stream flow => rw [carrier?, carrier?, streams]
  | mapping flow => rw [carrier?, carrier?, mappings]

theorem of_posted (streams : after.gateway.streams = before.gateway.streams)
    (mappings : after.gateway.mappings = before.gateway.mappings)
    (kernel : after.kernel = before.kernel) : Spares place before after :=
  .of_same streams mappings fun _ _ => kernel ▸ .refl ..

end Spares

section Tables

variable {before after : World} {flow : Flow}

/-- Of the two tables, only the row of one stream has changed. -/
theorem carrier?_of_stream
    (streams : ∀ other, flow ≠ other →
      after.gateway.streams.get? other = before.gateway.streams.get? other)
    (mappings : after.gateway.mappings = before.gateway.mappings) {place : Place}
    (away : place ≠ .stream flow) : after.carrier? place = before.carrier? place := by
  cases place with
  | stream other => rw [carrier?, carrier?, streams other fun same => away (same ▸ rfl)]
  | mapping other => rw [carrier?, carrier?, mappings]

theorem carrier?_of_mapping (streams : after.gateway.streams = before.gateway.streams)
    {place : Place}
    (mappings : ∀ other, place = .mapping other →
      after.gateway.mappings.get? other = before.gateway.mappings.get? other) :
    after.carrier? place = before.carrier? place := by
  cases place with
  | stream other => rw [carrier?, carrier?, streams]
  | mapping other => rw [carrier?, carrier?, mappings other rfl]

end Tables

theorem carrier_mem_holders {world : World} {place : Place} {carrier : Carrier}
    (there : world.carrier? place = some carrier) : carrier.socket ∈ world.gateway.holders := by
  cases place with
  | stream flow =>
      obtain ⟨stream, found, rfl⟩ := Option.map_eq_some_iff.mp there
      exact stream_mem_holders (FlowTable.mem_rows_of_get? found)
  | mapping flow =>
      obtain ⟨mapping, found, rfl⟩ := Option.map_eq_some_iff.mp there
      exact mapping_mem_holders (FlowTable.mem_rows_of_get? found)

namespace Sound

variable {world : World} (sound : world.Sound)
include sound

theorem mapping_ne_mapping {row other : Flow × Mapping}
    (member : row ∈ world.gateway.mappings.rows) (there : other ∈ world.gateway.mappings.rows)
    (away : row.1 ≠ other.1) : row.2.socket ≠ other.2.socket := by
  intro same
  exact away (congrArg Prod.fst
    (List.inj_on_of_nodup_map sound.nodup_mappingSockets member there same))

theorem carrier_lt {place : Place} {carrier : Carrier}
    (there : world.carrier? place = some carrier) :
    carrier.socket < world.kernel.sockets.length := sound.held.lt (carrier_mem_holders there)

theorem carrier_ne_relay {place : Place} {carrier : Carrier}
    (there : world.carrier? place = some carrier) {relay : Relay}
    (here : world.gateway.relay = some relay) : relay.socket ≠ carrier.socket := by
  cases place with
  | stream flow =>
      obtain ⟨stream, found, rfl⟩ := Option.map_eq_some_iff.mp there
      exact (sound.stream_ne_relay (FlowTable.mem_rows_of_get? found) here).symm
  | mapping flow =>
      obtain ⟨mapping, found, rfl⟩ := Option.map_eq_some_iff.mp there
      exact (sound.mapping_ne_relay (FlowTable.mem_rows_of_get? found) here).symm

/-- No two carriers share a socket. -/
theorem carrier_ne_carrier {place other : Place} (away : place ≠ other) {carrier stranger : Carrier}
    (there : world.carrier? place = some carrier) (here : world.carrier? other = some stranger) :
    carrier.socket ≠ stranger.socket := by
  cases place with
  | stream flow =>
      obtain ⟨stream, found, rfl⟩ := Option.map_eq_some_iff.mp there
      have member := FlowTable.mem_rows_of_get? found
      cases other with
      | stream otherFlow =>
          obtain ⟨_, foundToo, rfl⟩ := Option.map_eq_some_iff.mp here
          exact sound.stream_ne_stream member (FlowTable.mem_rows_of_get? foundToo)
            fun same => away (congrArg Place.stream same)
      | mapping otherFlow =>
          obtain ⟨_, foundToo, rfl⟩ := Option.map_eq_some_iff.mp here
          exact sound.stream_ne_mapping member (FlowTable.mem_rows_of_get? foundToo)
  | mapping flow =>
      obtain ⟨mapping, found, rfl⟩ := Option.map_eq_some_iff.mp there
      have member := FlowTable.mem_rows_of_get? found
      cases other with
      | stream otherFlow =>
          obtain ⟨_, foundToo, rfl⟩ := Option.map_eq_some_iff.mp here
          exact (sound.stream_ne_mapping (FlowTable.mem_rows_of_get? foundToo) member).symm
      | mapping otherFlow =>
          obtain ⟨_, foundToo, rfl⟩ := Option.map_eq_some_iff.mp here
          exact sound.mapping_ne_mapping member (FlowTable.mem_rows_of_get? foundToo)
            fun same => away (congrArg Place.mapping same)

theorem spares {place other : Place} (away : other ≠ place) {carrier : Carrier}
    (here : world.carrier? place = some carrier) {after : World}
    (same : after.carrier? other = world.carrier? other)
    (alone : ∀ socket, carrier.socket ≠ socket → LeavesAlone socket world.kernel after.kernel) :
    Spares other world after :=
  ⟨same, fun _ there => alone _ (sound.carrier_ne_carrier away there here).symm⟩

end Sound

/-! ## Frames -/

theorem leavesAlone_relayOut {world : World} (frame : Bytes) {socket : SocketId}
    (away : ∀ relay, world.gateway.relay = some relay → relay.socket ≠ socket) :
    LeavesAlone socket world.kernel (world.relayOut frame).kernel := by
  unfold relayOut
  split
  · exact .refl socket world.kernel
  · rename_i relay here
    have sent : ∀ (peers : List Endpoint) (kernel : Kernel), LeavesAlone socket kernel
        (peers.foldl (fun kernel peer => (kernel.sendTo relay.socket peer frame).2) kernel) := by
      intro peers
      induction peers with
      | nil => exact fun kernel => .refl socket kernel
      | cons peer rest ih =>
          exact fun kernel =>
            (Kernel.leavesAlone_sendTo kernel (away relay here) peer frame).trans (ih _)
    exact sent relay.peers world.kernel

theorem leavesAlone_spread {world : World} (sender : NicId) (frame : Bytes) {socket : SocketId}
    (away : ∀ relay, world.gateway.relay = some relay → relay.socket ≠ socket) :
    LeavesAlone socket world.kernel (world.spread sender frame).kernel := by
  let counted : World :=
    { world with gateway := { world.gateway with clock := world.gateway.clock + 1 } }
  let others := world.gateway.nics.filter fun nic => nic.id ≠ sender
  have posted := postToAll_kernel others frame counted
  obtain ⟨mailbox, gateway⟩ := postToAll_gateway others frame counted
  have relayed : LeavesAlone socket (counted.postToAll others frame).kernel
      ((counted.postToAll others frame).relayOut frame).kernel :=
    leavesAlone_relayOut frame (by rw [gateway]; exact away)
  rw [posted] at relayed
  exact relayed

theorem spares_spread {world : World} (sound : world.Sound) (sender : NicId) (frame : Bytes)
    (place : Place) : Spares place world (world.spread sender frame) :=
  .of_same (spread_streams ..) (spread_mappings ..) fun _ there =>
    leavesAlone_spread sender frame fun _ here => sound.carrier_ne_relay there here

/-! ## Segments -/

section Segments

variable {world : World} {flow : Flow} {place : Place}

theorem leavesAlone_dropped {kernel : Kernel} {stream : Stream} {socket : SocketId}
    (alone : LeavesAlone socket kernel world.kernel)
    (found : world.gateway.streams.get? flow = some stream) (away : stream.socket ≠ socket) :
    LeavesAlone socket kernel (world.dropStream flow).kernel := by
  rw [dropStream_eq found]
  exact alone.trans (Kernel.leavesAlone_close world.kernel away)

theorem get?_dropStream (world : World) {other : Flow} (away : flow ≠ other) :
    (world.dropStream flow).gateway.streams.get? other = world.gateway.streams.get? other := by
  unfold dropStream
  split
  · rfl
  · rename_i stream streams removed
    have rest : (world.gateway.streams.remove flow).2 = streams := congrArg Prod.snd removed
    rw [← rest]
    exact (FlowTable.get?_remove ..).trans (if_neg away)

theorem spares_postBuilt (world : World) (nic : NicId) (frame : Except Packet.WireError Bytes)
    (place : Place) : Spares place world (world.postBuilt nic frame) := by
  unfold postBuilt
  split <;> exact .of_posted rfl rfl rfl

theorem leavesAlone_postBuilt (socket : SocketId) (world : World) (nic : NicId)
    (frame : Except Packet.WireError Bytes) :
    LeavesAlone socket world.kernel (world.postBuilt nic frame).kernel := by
  unfold postBuilt
  split <;> exact .refl socket world.kernel

theorem leavesAlone_continueStream {stream : Stream}
    (found : world.gateway.streams.get? flow = some stream) (segment : Segment)
    {socket : SocketId} (away : stream.socket ≠ socket) :
    LeavesAlone socket world.kernel (world.continueStream flow stream segment).kernel := by
  have turned : LeavesAlone socket world.kernel
      (stream.turn world.gateway.clock world.kernel (.segment segment)).kernel :=
    stream.leavesAlone_turn world.gateway.clock world.kernel away (.segment segment)
  have kept := stream.turn_socket world.gateway.clock world.kernel (.segment segment)
  rw [continueStream]
  split
  · exact leavesAlone_dropped turned (get?_set_turn found _)
      fun same => away (kept.symm.trans same)
  · exact turned

theorem spares_continueStream (sound : world.Sound) {stream : Stream}
    (found : world.gateway.streams.get? flow = some stream) (segment : Segment)
    (away : place ≠ .stream flow) :
    Spares place world (world.continueStream flow stream segment) := by
  let turn := stream.turn world.gateway.clock world.kernel (.segment segment)
  let sent : World :=
    ({ world with kernel := turn.kernel }.keepStream flow turn.stream).post stream.owner turn.frames
  have inPlace : ∀ other, flow ≠ other →
      sent.gateway.streams.get? other = world.gateway.streams.get? other :=
    fun other apart => (FlowTable.get?_set ..).trans (if_neg apart)
  refine sound.spares away (carrier?_stream found)
    (carrier?_of_stream (fun other apart => ?_) ?_ away)
    fun socket apart => leavesAlone_continueStream found segment apart
  · rw [continueStream]
    split
    · exact (get?_dropStream sent apart).trans (inPlace other apart)
    · exact (FlowTable.get?_touch ..).trans (inPlace other apart)
  · rw [continueStream]
    split
    · exact dropStream_mappings sent flow
    · rfl

theorem leavesAlone_openStream {socket : SocketId} (known : socket < world.kernel.sockets.length)
    (sender : NicId) (guestMac : Mac) (flow : Flow) (segment : Segment) :
    LeavesAlone socket world.kernel
      (world.openStream sender guestMac flow segment).kernel := by
  have opening := Kernel.leavesAlone_openStream known flow.outside
  have drawn : ∀ kernel : Kernel, LeavesAlone socket kernel kernel.drawRandom.2 := fun kernel => by
    unfold Kernel.drawRandom
    split <;> exact ⟨rfl, rfl⟩
  generalize leads : world.openStream sender guestMac flow segment = after
  cases openStream_outcome leads with
  | declined => exact leavesAlone_postBuilt ..
  | @failed _ kernel _ missed =>
      rw [missed] at opening
      exact opening.trans (leavesAlone_postBuilt socket (world.withKernel kernel) ..)
  | @taken number kernel _ opened =>
      have fresh : number ≠ socket := by
        rw [(Kernel.openStream_ok opened).1]
        exact (Nat.ne_of_lt known).symm
      rw [opened] at opening
      exact (opening.trans (drawn kernel)).trans (Kernel.leavesAlone_close _ fresh)
  | @added _ kernel _ _ opened =>
      rw [opened] at opening
      exact opening.trans (drawn kernel)

theorem spares_openStream (sound : world.Sound) (sender : NicId) (guestMac : Mac)
    (segment : Segment) (away : place ≠ .stream flow) :
    Spares place world (world.openStream sender guestMac flow segment) := by
  refine ⟨?_, fun carrier there =>
    leavesAlone_openStream (sound.carrier_lt there) sender guestMac flow segment⟩
  generalize leads : world.openStream sender guestMac flow segment = after
  cases openStream_outcome leads with
  | declined => exact (spares_postBuilt ..).same
  | @failed _ kernel => exact (spares_postBuilt (world.withKernel kernel) ..).same
  | taken => rfl
  | added _ _ put =>
      refine carrier?_of_stream (fun other apart => ?_) ?_ away
      · exact (FlowTable.get?_insert? put other).trans (if_neg apart)
      · rfl

theorem spares_onSegment (sound : world.Sound) (sender : NicId) (guestMac : Mac)
    (segment : Segment) (away : place ≠ .stream flow) :
    Spares place world (world.onSegment sender guestMac flow segment) := by
  generalize leads : world.onSegment sender guestMac flow segment = after
  cases onSegment_outcome leads with
  | repeated | passedOver => exact .refl place world
  | continued found => exact spares_continueStream sound found segment away
  | opened => exact spares_openStream sound sender guestMac segment away
  | refused => exact spares_postBuilt ..

end Segments

/-! ## Datagrams -/

section Datagrams

variable {world : World} {flow : Flow} {place : Place}

/-- The mapping of another flow has made room for a new one of this flow, which had none, in
the full table. -/
structure MakesRoom (flow : Flow) (before after : World) (evicted : Flow) : Prop where
  unmapped : before.gateway.mappings.get? flow = none
  full : before.gateway.mappings.isFull = true
  away : flow ≠ evicted
  there : (before.gateway.mappings.get? evicted).isSome = true
  gone : after.gateway.mappings.get? evicted = none

/-- A datagram of a flow touches nothing but its mapping and at most one that makes room. -/
def TouchesMapping (flow : Flow) (before after : World) : Prop :=
  ∃ evicted : Option Flow, (∀ other ∈ evicted, MakesRoom flow before after other) ∧
    ∀ place, place ≠ .mapping flow → (∀ other ∈ evicted, place ≠ .mapping other) →
      Spares place before after

theorem leavesAlone_sendDatagram (payload : Bytes) {socket : SocketId}
    (away : ∀ mapping, world.gateway.mappings.get? flow = some mapping → mapping.socket ≠ socket) :
    LeavesAlone socket world.kernel (world.sendDatagram flow payload).kernel := by
  cases found : world.gateway.mappings.get? flow with
  | none =>
      rw [sendDatagram_of_none found]
      exact .refl socket world.kernel
  | some mapping =>
      simp only [sendDatagram, found]
      exact Kernel.leavesAlone_sendTo world.kernel (away mapping found) mapping.target payload

theorem spares_sendDatagram (sound : world.Sound) (payload : Bytes)
    (away : place ≠ .mapping flow) :
    Spares place world (world.sendDatagram flow payload) where
  same := by
    refine carrier?_of_mapping ?_ fun other there => ?_
    · unfold sendDatagram
      split <;> rfl
    · rw [mappings_sendDatagram]
      exact FlowTable.get?_touch ..
  alone := fun carrier there => leavesAlone_sendDatagram payload fun mapping found =>
    (sound.carrier_ne_carrier away there (carrier?_mapping found)).symm

theorem openMapping_touches (sound : world.Sound) (owner : NicId) (guestMac : Mac)
    (absent : world.gateway.mappings.get? flow = none) :
    TouchesMapping flow world (world.openMapping owner guestMac flow) := by
  have opening : ∀ {place carrier}, world.carrier? place = some carrier →
      LeavesAlone carrier.socket world.kernel world.kernel.openDatagram.2 :=
    fun there => Kernel.leavesAlone_openSocket (sound.carrier_lt there) .datagram
  generalize leads : world.openMapping owner guestMac flow = after
  cases openMapping_outcome leads with
  | aimless => exact ⟨none, by simp, fun place _ _ => .refl place world⟩
  | failed missed =>
      rw [missed] at opening
      exact ⟨none, by simp, fun place _ _ => .of_same rfl rfl fun _ there => opening there⟩
  | added _ opened put =>
      rw [opened] at opening
      refine ⟨none, by simp, fun place away _ => ⟨?_, fun _ there => opening there⟩⟩
      refine carrier?_of_mapping ?_ fun other same => ?_
      · rfl
      · exact FlowTable.get?_insertEvicting_away absent put
          (fun apart => away (by rw [same, apart])) (by simp)
  | @replaced _ _ kernel evictedFlow _ _ _ opened put =>
      rw [opened] at opening
      obtain ⟨full, away, there, gone⟩ :=
        FlowTable.evicted_of_insertEvicting absent sound.mappings.distinct put
      refine ⟨some evictedFlow, ?_, fun place apart spared => ⟨?_, ?_⟩⟩
      · intro other same
        obtain rfl := Option.some.inj same
        exact ⟨absent, full, away, Option.isSome_of_eq_some there, gone⟩
      · refine carrier?_of_mapping ?_ fun other same => ?_
        · rfl
        · refine FlowTable.get?_insertEvicting_away absent put
            (fun equal => apart (by rw [same, equal])) ?_
          intro row given equal
          obtain rfl := Option.some.inj given
          exact spared evictedFlow rfl (by rw [same, ← equal])
      · intro carrier here
        have other := sound.carrier_ne_carrier (spared evictedFlow rfl) here
          (carrier?_mapping there)
        exact (opening here).trans (Kernel.leavesAlone_close kernel other.symm)

theorem onDatagram_touches (sound : world.Sound) (sender : NicId) (guestMac : Mac)
    (payload : Bytes) :
    TouchesMapping flow world (world.onDatagram sender guestMac flow payload) := by
  cases found : world.gateway.mappings.get? flow with
  | some mapping =>
      rw [onDatagram_of_some found]
      exact ⟨none, by simp, fun place away _ => spares_sendDatagram sound payload away⟩
  | none =>
      rw [onDatagram_of_none found]
      have soundOpened := sound.steps (steps_openMapping sender guestMac found)
      obtain ⟨evicted, room, others⟩ := openMapping_touches sound sender guestMac found
      refine ⟨evicted, fun other same => ?_, fun place away spared =>
        (others place away spared).trans (spares_sendDatagram soundOpened payload away)⟩
      have made := room other same
      refine { made with gone := ?_ }
      rw [mappings_sendDatagram, FlowTable.get?_touch]
      exact made.gone

end Datagrams

/-! ## The relay -/

section Relay

variable {world : World} (sound : world.Sound) {relay : Relay}
  (here : world.gateway.relay = some relay)
include sound here

theorem relay_lt : relay.socket < world.kernel.sockets.length :=
  sound.held.lt (relay_mem_holders here)

theorem leavesAlone_relay_sendDatagram (flow : Flow) (payload : Bytes) :
    LeavesAlone relay.socket world.kernel (world.sendDatagram flow payload).kernel :=
  leavesAlone_sendDatagram payload fun _ found =>
    sound.mapping_ne_relay (FlowTable.mem_rows_of_get? found) here

theorem leavesAlone_relay_openMapping (owner : NicId) (guestMac : Mac) {flow : Flow}
    (absent : world.gateway.mappings.get? flow = none) :
    LeavesAlone relay.socket world.kernel (world.openMapping owner guestMac flow).kernel := by
  have opening : LeavesAlone relay.socket world.kernel world.kernel.openDatagram.2 :=
    Kernel.leavesAlone_openSocket (relay_lt sound here) .datagram
  generalize leads : world.openMapping owner guestMac flow = after
  cases openMapping_outcome leads with
  | aimless => exact .refl relay.socket world.kernel
  | failed missed => rwa [missed] at opening
  | added _ opened => rwa [opened] at opening
  | replaced _ opened put =>
      obtain ⟨_, _, there, _⟩ :=
        FlowTable.evicted_of_insertEvicting absent sound.mappings.distinct put
      have away := sound.mapping_ne_relay (FlowTable.mem_rows_of_get? there) here
      rw [opened] at opening
      exact opening.trans (Kernel.leavesAlone_close _ away)

theorem leavesAlone_relay_onDatagram (sender : NicId) (guestMac : Mac) (flow : Flow)
    (payload : Bytes) :
    LeavesAlone relay.socket world.kernel
      (world.onDatagram sender guestMac flow payload).kernel := by
  cases found : world.gateway.mappings.get? flow with
  | some mapping =>
      rw [onDatagram_of_some found]
      exact leavesAlone_relay_sendDatagram sound here flow payload
  | none =>
      rw [onDatagram_of_none found]
      have steps := steps_openMapping sender guestMac found
      exact (leavesAlone_relay_openMapping sound here sender guestMac found).trans
        (leavesAlone_relay_sendDatagram (sound.steps steps) (steps.sameSetUp.relay.trans here)
          flow payload)

theorem leavesAlone_relay_serve (sender : NicId) (request : Request) :
    LeavesAlone relay.socket world.kernel (world.serve sender request).kernel := by
  cases request with
  | hardwareAddress | ownAddress => exact .refl relay.socket world.kernel
  | echo => exact leavesAlone_postBuilt ..
  | datagram => exact leavesAlone_relay_onDatagram sound here ..
  | segment guest flow segment =>
      simp only [serve, onSegment]
      split
      · rename_i found
        split
        · exact .refl relay.socket world.kernel
        · exact leavesAlone_continueStream found segment
            (sound.stream_ne_relay (FlowTable.mem_rows_of_get? found) here)
      · split
        · exact leavesAlone_openStream (relay_lt sound here) ..
        · split
          · exact .refl relay.socket world.kernel
          · exact leavesAlone_postBuilt ..

end Relay

/-! ## All frames -/

/-- What a frame may touch, by what it asks for: a segment the stream of its flow, a datagram
the mapping of its flow, and any other frame nothing. -/
structure Confines (frame : Bytes) (before after : World) : Prop where
  segment : ∀ guest flow segment,
    Request.asked before.gateway.subnet frame = some (.segment guest flow segment) →
      ∀ place, place ≠ .stream flow → Spares place before after
  datagram : ∀ guest flow payload,
    Request.asked before.gateway.subnet frame = some (.datagram guest flow payload) →
      TouchesMapping flow before after
  rest : (∀ guest flow segment,
      Request.asked before.gateway.subnet frame ≠ some (.segment guest flow segment)) →
    (∀ guest flow payload,
      Request.asked before.gateway.subnet frame ≠ some (.datagram guest flow payload)) →
    ∀ place, Spares place before after

theorem TouchesMapping.of_spares {flow : Flow} {world before after : World}
    (first : ∀ place, Spares place world before)
    (mappings : before.gateway.mappings = world.gateway.mappings)
    (touches : TouchesMapping flow before after) : TouchesMapping flow world after := by
  obtain ⟨evicted, room, others⟩ := touches
  refine ⟨evicted, fun other same => ?_, fun place away spared =>
    (first place).trans (others place away spared)⟩
  obtain ⟨unmapped, full, away, there, gone⟩ := room other same
  rw [mappings] at unmapped full there
  exact ⟨unmapped, full, away, there, gone⟩

theorem spares_serve (world : World) (sender : NicId) {request : Request}
    (noSegment : ∀ guest flow segment, request ≠ .segment guest flow segment)
    (noDatagram : ∀ guest flow payload, request ≠ .datagram guest flow payload) (place : Place) :
    Spares place world (world.serve sender request) := by
  cases request with
  | hardwareAddress | ownAddress => exact .of_posted rfl rfl rfl
  | echo => exact spares_postBuilt ..
  | datagram guest flow payload => exact absurd rfl (noDatagram guest flow payload)
  | segment guest flow segment => exact absurd rfl (noSegment guest flow segment)

theorem transmit_confines {world : World} (sound : world.Sound) (sender : NicId) (frame : Bytes) :
    Confines frame world (world.transmit sender frame) := by
  have copied := spares_spread sound sender frame
  have soundSpread := sound.steps (steps_spread world sender frame)
  cases asked : Request.asked world.gateway.subnet frame with
  | none =>
      refine ⟨by simp [asked], by simp [asked], fun _ _ place => ?_⟩
      have outcome : world.transmit sender frame = world ∨
          world.transmit sender frame = world.spread sender frame := transmit_of_not_asked asked
      rcases outcome with ignored | spread
      · rw [ignored]
        exact .refl place world
      · rw [spread]
        exact copied place
  | some request =>
      rw [transmit_of_asked asked]
      refine ⟨fun guest flow segment same => ?_, fun guest flow payload same => ?_,
        fun noSegment noDatagram place => ?_⟩
      · obtain rfl := Option.some.inj (asked.symm.trans same)
        exact fun place away =>
          (copied place).trans (spares_onSegment soundSpread sender guest segment away)
      · obtain rfl := Option.some.inj (asked.symm.trans same)
        exact (onDatagram_touches soundSpread sender guest payload).of_spares copied
          (spread_mappings ..)
      · rw [asked] at noSegment noDatagram
        exact (copied place).trans (spares_serve _ sender
          (fun guest flow segment same => noSegment guest flow segment (congrArg some same))
          (fun guest flow payload same => noDatagram guest flow payload (congrArg some same)) place)

end World

end Masquerade
