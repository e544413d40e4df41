import Masquerade.Proofs.Gateway.Rounds
import Masquerade.Proofs.Gateway.Spared

/-!
# Turns

A round is a look at all sockets, one turn for each carrier in the tables, and what the
relay brings.  A turn is the business of one place: only what stands there changes, only
its socket is used and only its owner is left frames.
-/

set_option autoImplicit false

namespace Masquerade

open Kernel (LeavesAlone Readiness)

namespace World

def serveTurn (world : World) (turn : Place × Readiness) : World :=
  match turn.1 with
  | .stream flow => world.serveStream flow turn.2
  | .mapping flow => world.serveMapping flow turn.2

def placesOf (gateway : Gateway) : List Place :=
  gateway.mappings.flows.map .mapping ++ gateway.streams.flows.map .stream

def turnsOf (gateway : Gateway) (ready : List Readiness) : List (Place × Readiness) :=
  (placesOf gateway).zip ready

def serveTurns (world : World) (turns : List (Place × Readiness)) : World :=
  turns.foldl serveTurn world

/-! ## The rounds are made of turns -/

theorem zip_append_drop {Left Right : Type} (first second : List Left) (others : List Right) :
    (first ++ second).zip others = first.zip others ++ second.zip (others.drop first.length) := by
  induction first generalizing others with
  | nil => rfl
  | cons item rest ih =>
      cases others with
      | nil => simp
      | cons other others => exact congrArg (List.cons _) (ih others)

theorem serveAll_eq (world : World) (ready : List Readiness) :
    world.serveAll ready = (world.serveTurns (turnsOf world.gateway ready)).serveRelay
      (ready.drop (placesOf world.gateway).length) := by
  rw [serveAll, serveTurns, turnsOf, placesOf, zip_append_drop, List.foldl_append,
    List.zip_map_left, List.foldl_map, List.zip_map_left, List.foldl_map, List.length_append,
    List.length_map, List.length_map, List.drop_drop]
  rfl

theorem poll_of_look {world : World} {ready : List Readiness} {looked : Kernel}
    (look : world.kernel.readiness (interests world.gateway) = (.ok ready, looked)) :
    world.poll = ((world.withKernel looked).serveTurns (turnsOf world.gateway ready)).serveRelay
      (ready.drop (placesOf world.gateway).length) := by
  rw [poll, look]
  exact serveAll_eq (world.withKernel looked) ready

theorem places_of_look {world : World} {ready : List Readiness} {looked : Kernel}
    (look : world.kernel.readiness (interests world.gateway) = (.ok ready, looked)) :
    (turnsOf world.gateway ready).map Prod.fst = placesOf world.gateway := by
  refine List.map_fst_zip ?_
  simp only [readiness_ok look, placesOf, interests, FlowTable.flows_eq, List.length_append,
    List.length_map]
  omega

/-! ## One turn -/

/-- What happens is the business of one place.  If nothing stands there nothing happens;
else all calls are about its socket and all frames are left for its owner, and what stands
at other places is untouched.  A mapping is not dropped. -/
structure Serves (place : Place) (before after : World) : Prop where
  idle : before.carrier? place = none → after = before
  own : ∀ carrier, before.carrier? place = some carrier → ∃ calls posts,
    Leaves calls posts before after ∧ (∀ call ∈ calls, call.socket? = some carrier.socket) ∧
      ∀ post ∈ posts, post.1 = carrier.owner
  alone : ∀ carrier, before.carrier? place = some carrier → ∀ socket, carrier.socket ≠ socket →
    LeavesAlone socket before.kernel after.kernel
  others : ∀ other, other ≠ place → Spares other before after
  keeps : ∀ flow, place = .mapping flow →
    (after.carrier? place).isSome = (before.carrier? place).isSome

theorem Serves.nothing {place : Place} {world : World} (absent : world.carrier? place = none) :
    Serves place world world where
  idle := fun _ => rfl
  own := fun carrier there => by simp [absent] at there
  alone := fun carrier there => by simp [absent] at there
  others := fun other _ => .refl other world
  keeps := fun _ _ => rfl

theorem Sound.serves {place : Place} {world after : World} {carrier : Carrier}
    {calls : List Call} {posts : List (NicId × Bytes)} (sound : world.Sound)
    (here : world.carrier? place = some carrier) (leaves : Leaves calls posts world after)
    (about : ∀ call ∈ calls, call.socket? = some carrier.socket)
    (owned : ∀ post ∈ posts, post.1 = carrier.owner)
    (alone : ∀ socket, carrier.socket ≠ socket → LeavesAlone socket world.kernel after.kernel)
    (same : ∀ other, other ≠ place → after.carrier? other = world.carrier? other)
    (keeps : ∀ flow, place = .mapping flow → (after.carrier? place).isSome = true) :
    Serves place world after where
  idle := fun absent => by simp [absent] at here
  own := fun other there => by
    obtain rfl := Option.some.inj (here.symm.trans there)
    exact ⟨calls, posts, leaves, about, owned⟩
  alone := fun other there => by
    obtain rfl := Option.some.inj (here.symm.trans there)
    exact alone
  others := fun other away => sound.spares away here (same other away) alone
  keeps := fun flow same => by rw [keeps flow same, here, Option.isSome_some]

section Mappings

variable {world : World} {flow : Flow} {mapping : Mapping}

theorem leavesAlone_onReply (world : World) (payload : Bytes) (socket : SocketId) :
    LeavesAlone socket world.kernel (world.onReply flow mapping payload).kernel := by
  rw [onReply_kernel]
  exact .refl socket world.kernel

theorem leavesAlone_serveMapping (ready : Readiness) {socket : SocketId}
    (found : world.gateway.mappings.get? flow = some mapping) (away : mapping.socket ≠ socket) :
    LeavesAlone socket world.kernel (world.serveMapping flow ready).kernel := by
  have alone := Kernel.leavesAlone_receiveFrom world.kernel away Mapping.mostReceived
  generalize leads : world.serveMapping flow ready = after
  cases serveMapping_outcome leads with
  | idle => exact .refl socket world.kernel
  | failed there missed =>
      obtain rfl := Option.some.inj (found.symm.trans there)
      rwa [missed] at alone
  | @replied _ payload _ kernel there received =>
      obtain rfl := Option.some.inj (found.symm.trans there)
      rw [received] at alone
      exact alone.trans (leavesAlone_onReply (world.withKernel kernel) payload socket)

theorem owner_of_mem_postsOn {calls : List Call} {post : NicId × Bytes}
    (member : post ∈ mapping.postsOn flow calls) : post.1 = mapping.owner := by
  obtain ⟨payload, _, inside⟩ := List.mem_flatMap.mp member
  obtain ⟨frame, _, rfl⟩ := List.mem_map.mp inside
  rfl

theorem serveMapping_serves (sound : world.Sound) (flow : Flow) (ready : Readiness) :
    Serves (.mapping flow) world (world.serveMapping flow ready) := by
  cases found : world.gateway.mappings.get? flow with
  | none =>
      rw [serveMapping_of_none found]
      exact .nothing (congrArg (Option.map Carrier.mapping) found)
  | some mapping =>
      obtain ⟨calls, leaves, takes, served, others⟩ := serveMapping_leaves ready found
      refine sound.serves (carrier?_mapping found) leaves
        (fun call member => (takes call member).about)
        (fun _ => owner_of_mem_postsOn)
        (fun socket away => leavesAlone_serveMapping ready found away)
        (fun other away => ?_) (fun _ _ => ?_)
      · cases other with
        | stream otherFlow =>
            rw [carrier?, carrier?,
              (steps_serveMapping world flow ready).get?_streams_of_nil sound rfl]
        | mapping otherFlow =>
            rw [carrier?, carrier?, others otherFlow fun same => away (congrArg Place.mapping same)]
      · rw [carrier?_mapping served.stays, Option.isSome_some]

end Mappings

section Streams

variable {world : World} {flow : Flow} {stream : Stream}

theorem leavesAlone_serveStream (ready : Readiness) {socket : SocketId}
    (found : world.gateway.streams.get? flow = some stream) (away : stream.socket ≠ socket) :
    LeavesAlone socket world.kernel (world.serveStream flow ready).kernel := by
  have alone := stream.leavesAlone_turn (world.gateway.clock + 1) world.kernel away
    (.ready world.gateway.retransmitRounds ready)
  generalize leads : world.serveStream flow ready = after
  cases serveStream_outcome leads with
  | idle absent => cases absent.symm.trans found
  | kept there turned =>
      obtain rfl := Option.some.inj (there.symm.trans found)
      rwa [kernel_keepTurn, ← turned]
  | dropped there turned =>
      obtain rfl := Option.some.inj (there.symm.trans found)
      subst turned
      refine leavesAlone_dropped ?_ (get?_keepTurn there) ?_
      · rwa [kernel_keepTurn]
      · rwa [Stream.turn_socket]

theorem owner_of_mem_posts {ready : Readiness}
    (found : world.gateway.streams.get? flow = some stream) {post : NicId × Bytes}
    (member : post ∈ (world.streamHappenings flow ready).flatMap Happening.posts) :
    post.1 = stream.owner := by
  rw [streamHappenings_of_some found, List.flatMap_singleton, turned_posts] at member
  obtain ⟨frame, _, rfl⟩ := List.mem_map.mp member
  rfl

theorem serveStream_serves (sound : world.Sound) (flow : Flow) (ready : Readiness) :
    Serves (.stream flow) world (world.serveStream flow ready) := by
  cases found : world.gateway.streams.get? flow with
  | none =>
      rw [serveStream_of_none found]
      exact .nothing (congrArg (Option.map Carrier.stream) found)
  | some stream =>
      obtain ⟨calls, leaves, about, mappings⟩ := serveStream_leaves world flow ready
      refine sound.serves (carrier?_stream found) leaves (fun call member => ?_)
        (fun _ => owner_of_mem_posts found)
        (fun socket away => leavesAlone_serveStream ready found away)
        (fun other away => carrier?_of_stream (fun otherFlow apart => ?_) mappings away) (by simp)
      · obtain ⟨same, there, its⟩ := about call member
        obtain rfl := Option.some.inj (found.symm.trans there)
        exact its
      · have silent := happeningsOf_streamHappenings sound flow otherFlow ready
        rw [if_neg apart] at silent
        exact (steps_serveStream world flow ready).get?_streams_of_nil sound silent

end Streams

theorem serveTurn_serves {world : World} (sound : world.Sound) (turn : Place × Readiness) :
    Serves turn.1 world (world.serveTurn turn) := by
  obtain ⟨place, ready⟩ := turn
  cases place with
  | stream flow => exact serveStream_serves sound flow ready
  | mapping flow => exact serveMapping_serves sound flow ready

theorem Sound.serveTurn {world : World} (sound : world.Sound) (turn : Place × Readiness) :
    (world.serveTurn turn).Sound := by
  obtain ⟨place, ready⟩ := turn
  cases place with
  | stream flow => exact sound.steps (steps_serveStream world flow ready)
  | mapping flow => exact sound.steps (steps_serveMapping world flow ready)

theorem Sound.serveTurns {world : World} (sound : world.Sound)
    (turns : List (Place × Readiness)) : (world.serveTurns turns).Sound := by
  induction turns generalizing world with
  | nil => exact sound
  | cons turn rest ih => exact ih (sound.serveTurn turn)

/-! ## The relay -/

theorem leavesAlone_receiveAll {socket other : SocketId} (away : socket ≠ other) (rounds : Nat)
    (kernel : Kernel) : LeavesAlone other kernel (receiveAll socket rounds kernel).2 := by
  induction rounds generalizing kernel with
  | zero => exact .refl other kernel
  | succ rounds ih =>
      have alone := Kernel.leavesAlone_receiveFrom kernel away mostRelayed
      unfold receiveAll
      split
      · rename_i received
        rwa [received] at alone
      · rename_i frame sender between received
        rw [received] at alone
        exact alone.trans (ih between)

theorem postAllToAll_kernel (frames : List Bytes) (world : World) :
    (frames.foldl (fun world frame => world.postToAll world.gateway.nics frame) world).kernel =
      world.kernel := by
  induction frames generalizing world with
  | nil => rfl
  | cons frame rest ih => exact (ih _).trans (postToAll_kernel ..)

theorem postAllToAll_gateway (frames : List Bytes) (world : World) :
    ∃ mailbox,
      (frames.foldl (fun world frame => world.postToAll world.gateway.nics frame) world).gateway =
        { world.gateway with mailbox } := by
  induction frames generalizing world with
  | nil => exact ⟨world.gateway.mailbox, rfl⟩
  | cons frame rest ih =>
      obtain ⟨_, first⟩ := postToAll_gateway world.gateway.nics frame world
      obtain ⟨mailbox, later⟩ := ih (world.postToAll world.gateway.nics frame)
      rw [first] at later
      exact ⟨mailbox, later⟩

theorem leavesAlone_serveRelay {world : World} {socket : SocketId} (ready : List Readiness)
    (away : ∀ relay, world.gateway.relay = some relay → relay.socket ≠ socket) :
    LeavesAlone socket world.kernel (world.serveRelay ready).kernel := by
  unfold serveRelay
  split
  · exact .refl socket world.kernel
  · rename_i relay here
    split
    · rw [relayIn, postAllToAll_kernel]
      exact leavesAlone_receiveAll (away relay here) ..
    · exact .refl socket world.kernel

theorem spares_serveRelay {world : World} (sound : world.Sound) (ready : List Readiness)
    (place : Place) : Spares place world (world.serveRelay ready) := by
  obtain ⟨_, _, _, mappings⟩ := serveRelay_leaves world ready
  refine ⟨?_, fun carrier there =>
    leavesAlone_serveRelay ready fun relay here => sound.carrier_ne_relay there here⟩
  cases place with
  | stream flow =>
      rw [carrier?, carrier?, (steps_serveRelay world ready).get?_streams_of_nil sound rfl]
  | mapping flow => rw [carrier?, carrier?, mappings]

/-! ## Rounds -/

/-- A round whose look has told what the sockets are ready for is a row of turns, and then
the relay is served.  The look touches nothing, each place has one turn, which is its own
business, and the relay touches nothing. -/
structure RoundServes (world : World) (ready : List Readiness) (looked : Kernel) : Prop where
  run : world.poll = ((world.withKernel looked).serveTurns (turnsOf world.gateway ready)).serveRelay
    (ready.drop (placesOf world.gateway).length)
  look : ∀ place, Spares place world (world.withKernel looked)
  places : (turnsOf world.gateway ready).map Prod.fst = placesOf world.gateway
  turn : ∀ done turn rest, turnsOf world.gateway ready = done ++ turn :: rest →
    Serves turn.1 ((world.withKernel looked).serveTurns done)
      (((world.withKernel looked).serveTurns done).serveTurn turn)
  relay : ∀ place, Spares place
    ((world.withKernel looked).serveTurns (turnsOf world.gateway ready)) world.poll

structure Retains (before after : World) : Prop where
  absent : ∀ place, before.carrier? place = none → after.carrier? place = none
  mapping : ∀ flow, (before.carrier? (.mapping flow)).isSome = true →
    (after.carrier? (.mapping flow)).isSome = true

namespace Retains

variable {before between after : World}

theorem trans (first : Retains before between) (second : Retains between after) :
    Retains before after where
  absent := fun place absent => second.absent place (first.absent place absent)
  mapping := fun flow there => second.mapping flow (first.mapping flow there)

theorem of_spares (spares : ∀ place, Spares place before after) :
    Retains before after where
  absent := fun place absent => (spares place).same.trans absent
  mapping := fun flow there => by rw [(spares _).same]; exact there

theorem of_serves {place : Place} (serves : Serves place before after) : Retains before after where
  absent := fun other absent => by
    by_cases same : other = place
    · rw [serves.idle (same ▸ absent)]
      exact absent
    · exact (serves.others other same).same.trans absent
  mapping := fun flow there => by
    by_cases same : Place.mapping flow = place
    · subst same
      rw [serves.keeps flow rfl]
      exact there
    · rw [(serves.others _ same).same]
      exact there

end Retains

theorem serveTurns_retains {world : World} (sound : world.Sound)
    (turns : List (Place × Readiness)) : Retains world (world.serveTurns turns) := by
  induction turns generalizing world with
  | nil => exact ⟨fun _ absent => absent, fun _ there => there⟩
  | cons turn rest ih =>
      exact (Retains.of_serves (serveTurn_serves sound turn)).trans (ih (sound.serveTurn turn))

theorem spares_look (world : World) (place : Place) : Spares place world
    (world.withKernel (world.kernel.readiness (interests world.gateway)).2) :=
  .of_same rfl rfl fun carrier _ => Kernel.leavesAlone_readiness carrier.socket ..

theorem spares_poll_of_fails {world : World} (fails : world.looks = false) (place : Place) :
    Spares place world world.poll := by
  have spares := world.spares_look place
  cases world.round_outcome with
  | served look =>
      rw [looks, look] at fails
      cases fails
  | failed look _ _ leads =>
      rw [look] at spares
      rw [leads]
      exact spares

section Rounds

variable {world : World} (sound : world.Sound)
include sound

theorem poll_serves {ready : List Readiness} {looked : Kernel}
    (look : world.kernel.readiness (interests world.gateway) = (.ok ready, looked)) :
    RoundServes world ready looked := by
  have soundLooked := sound.looked (makes_of_look look)
  refine ⟨poll_of_look look, fun place => ?_, places_of_look look, fun done turn rest _ =>
    serveTurn_serves (soundLooked.serveTurns done) turn, fun place => ?_⟩
  · have spares := world.spares_look place
    rwa [look] at spares
  · rw [poll_of_look look]
    exact spares_serveRelay (soundLooked.serveTurns _) _ place

theorem poll_retains : Retains world world.poll := by
  by_cases succeeds : world.looks = true
  · obtain ⟨ready, looked, look⟩ := exists_look succeeds
    have served := poll_serves sound look
    have turned := serveTurns_retains (sound.looked (makes_of_look look))
      (turnsOf world.gateway ready)
    exact ((Retains.of_spares served.look).trans turned).trans (.of_spares served.relay)
  · exact .of_spares (spares_poll_of_fails (Bool.eq_false_iff.mpr succeeds))

end Rounds

end World

end Masquerade
