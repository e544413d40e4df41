import Masquerade.Proofs.Gateway.Poll
import Masquerade.Proofs.Gateway.Replies
import Masquerade.Proofs.Gateway.Sound

/-!
# What a round leaves in the mailbox

A round puts frames behind those that wait already: first the replies of the
mappings, in the order of the table, then what the streams send, and last what came
through the relay.  The calls of the round say which replies there were.
-/

set_option autoImplicit false

namespace Masquerade

open Kernel (Makes Readiness)

/-! ## Ledgers -/

/-- From one world to the other these calls were made and these frames were left for
controllers; who is on the network is the same. -/
structure Leaves (calls : List Call) (posts : List (NicId × Bytes)) (before after : World) :
    Prop where
  makes : Makes calls before.kernel after.kernel
  mailbox : after.gateway.mailbox.entries = before.gateway.mailbox.entries ++ posts
  nics : after.gateway.nics = before.gateway.nics
  relay : after.gateway.relay = before.gateway.relay

namespace Leaves

theorem refl (world : World) : Leaves [] [] world world :=
  ⟨Makes.refl _, (List.append_nil _).symm, rfl, rfl⟩

theorem trans {first second : List Call} {early late : List (NicId × Bytes)}
    {before between after : World} (start : Leaves first early before between)
    (rest : Leaves second late between after) :
    Leaves (first ++ second) (early ++ late) before after where
  makes := start.makes.trans rest.makes
  mailbox := by rw [rest.mailbox, start.mailbox, List.append_assoc]
  nics := rest.nics.trans start.nics
  relay := rest.relay.trans start.relay

theorem called {calls : List Call} {world : World} {kernel : Kernel}
    (makes : Makes calls world.kernel kernel) : Leaves calls [] world (world.withKernel kernel) :=
  ⟨makes, (List.append_nil _).symm, rfl, rfl⟩

theorem posted (world : World) (nic : NicId) (frames : List Bytes) :
    Leaves [] (frames.map (nic, ·)) world (world.post nic frames) := ⟨Makes.refl _, rfl, rfl, rfl⟩

end Leaves

/-! ## Mappings -/

def Mapping.posts (mapping : Mapping) (flow : Flow) (payload : Bytes) : List (NicId × Bytes) :=
  (mapping.answers flow payload).map (mapping.owner, ·)

def Mapping.postsOn (mapping : Mapping) (flow : Flow) (calls : List Call) :
    List (NicId × Bytes) :=
  (datagramsOn calls mapping.socket).flatMap (mapping.posts flow)

/-- A mapping has taken at most one datagram; it stays as it was but for the number of
its next reply. -/
structure Mapping.Served (flow : Flow) (mapping : Mapping) (calls : List Call) (after : World) :
    Prop where
  once : (datagramsOn calls mapping.socket).length ≤ 1
  stays : after.gateway.mappings.get? flow = some
    { mapping with
      identification :=
        mapping.identification + UInt16.ofNat (datagramsOn calls mapping.socket).length }

theorem Mapping.Served.of_eq {flow : Flow} {mapping : Mapping} {calls others : List Call}
    {world after : World} (served : mapping.Served flow calls world)
    (same : datagramsOn others mapping.socket = datagramsOn calls mapping.socket)
    (kept : after.gateway.mappings.get? flow = world.gateway.mappings.get? flow) :
    mapping.Served flow others after := by
  constructor
  · rw [same]
    exact served.once
  · rw [kept, same]
    exact served.stays

namespace World

section Mappings

variable {world after : World} {flow : Flow} {mapping : Mapping} {calls : List Call}

theorem unserved (found : world.gateway.mappings.get? flow = some mapping)
    (none : datagramsOn calls mapping.socket = []) : mapping.Served flow calls world := by
  constructor
  · simp [none]
  · rw [found, none]
    simp

theorem onReply_leaves (world : World) (flow : Flow) (mapping : Mapping) (payload : Bytes) :
    Leaves [] (mapping.posts flow payload) world (world.onReply flow mapping payload) := by
  unfold onReply Mapping.posts Mapping.answers
  cases mapping.replyFrames flow payload with
  | error fault => exact ⟨Makes.refl _, (List.append_nil _).symm, rfl, rfl⟩
  | ok frames => exact ⟨Makes.refl _, rfl, rfl, rfl⟩

theorem onReply_get? (payload : Bytes) (other : Flow) :
    (world.onReply flow mapping payload).gateway.mappings.get? other =
      (world.gateway.mappings.set flow
        { mapping with identification := mapping.identification + 1 }).get? other := by
  unfold onReply
  dsimp only
  split
  · rfl
  · exact FlowTable.get?_touch ..

theorem serveMapping_of_none (absent : world.gateway.mappings.get? flow = none)
    (ready : Readiness) : world.serveMapping flow ready = world := by
  simp [serveMapping, absent]

theorem serveMapping_leaves (ready : Readiness)
    (found : world.gateway.mappings.get? flow = some mapping) :
    ∃ calls, Leaves calls (mapping.postsOn flow calls) world (world.serveMapping flow ready) ∧
      (∀ call ∈ calls, call.TakesFrom mapping.socket) ∧
      mapping.Served flow calls (world.serveMapping flow ready) ∧
      ∀ other, other ≠ flow → (world.serveMapping flow ready).gateway.mappings.get? other =
        world.gateway.mappings.get? other := by
  generalize leads : world.serveMapping flow ready = after
  cases serveMapping_outcome leads with
  | idle => exact ⟨[], .refl world, by simp, unserved found rfl, fun _ _ => rfl⟩
  | @failed _ errno _ there missed =>
      obtain rfl := Option.some.inj (found.symm.trans there)
      have none : datagramsOn [Call.receiveFrom mapping.socket Mapping.mostReceived (.error errno)]
          mapping.socket = [] := datagramsOn_of_about (by simp [Call.socket?])
      refine ⟨_, ?_, List.forall_mem_singleton.mpr ⟨_, _, rfl⟩, unserved found none, fun _ _ => rfl⟩
      rw [Mapping.postsOn, none]
      exact .called (Kernel.makes_receiveFrom missed)
  | @replied _ payload sender kernel there received =>
      obtain rfl := Option.some.inj (found.symm.trans there)
      have made := Kernel.makes_receiveFrom received
      have one : datagramsOn [Call.receiveFrom mapping.socket Mapping.mostReceived
          (.ok (payload, sender))] mapping.socket = [payload] :=
        datagramsOn_of_about (by simp [Call.socket?])
      refine ⟨[.receiveFrom mapping.socket Mapping.mostReceived (.ok (payload, sender))],
        ?_, List.forall_mem_singleton.mpr ⟨_, _, rfl⟩, ⟨?_, ?_⟩, ?_⟩
      · rw [Mapping.postsOn, one, List.flatMap_singleton]
        exact (Leaves.called made).trans (onReply_leaves (world.withKernel kernel) ..)
      · rw [one]
        exact Nat.le_refl 1
      · rw [onReply_get?, FlowTable.get?_set, if_pos rfl, gateway_withKernel, found, one]
        rfl
      · intro other away
        rw [onReply_get?, FlowTable.get?_set, if_neg away.symm, gateway_withKernel]

theorem serveMapping_takes (world : World) (flow : Flow) (ready : Readiness) :
    ∃ calls, Makes calls world.kernel (world.serveMapping flow ready).kernel ∧
      ∀ call ∈ calls, ∃ socket, call.TakesFrom socket := by
  cases found : world.gateway.mappings.get? flow with
  | none =>
      rw [serveMapping_of_none found]
      exact ⟨[], Makes.refl _, by simp⟩
  | some mapping =>
      obtain ⟨calls, leaves, takes, _, _⟩ := serveMapping_leaves ready found
      exact ⟨calls, leaves.makes, fun call member => ⟨mapping.socket, takes call member⟩⟩

end Mappings

/-- Of calls for one row and then for others, each mapping has its own. -/
theorem datagramsOn_served {row : Flow × Mapping} {rest : List (Flow × Mapping)}
    {first later : List Call} (about : ∀ call ∈ first, call.socket? = some row.2.socket)
    (aboutLater : ∀ call ∈ later, ∃ other ∈ rest, call.socket? = some other.2.socket)
    (apart : ∀ other ∈ rest, other.2.socket ≠ row.2.socket) :
    datagramsOn (first ++ later) row.2.socket = datagramsOn first row.2.socket ∧
      ∀ other ∈ rest,
        datagramsOn (first ++ later) other.2.socket = datagramsOn later other.2.socket := by
  constructor
  · apply datagramsOn_append_left
    intro call member same
    obtain ⟨other, there, aboutOther⟩ := aboutLater call member
    rw [aboutOther] at same
    exact apart other there (Option.some.inj same)
  · intro other there
    apply datagramsOn_append_right
    intro call member same
    rw [about call member] at same
    exact apart other there (Option.some.inj same).symm

theorem serveMappings_leaves {rows : List (Flow × Mapping)} (ready : List Readiness)
    {world : World} (flows : (rows.map Prod.fst).Nodup)
    (sockets : (rows.map fun row => row.2.socket).Nodup)
    (there : ∀ row ∈ rows, world.gateway.mappings.get? row.1 = some row.2) :
    let after := ((rows.map Prod.fst).zip ready).foldl
      (fun world (flow, ready) => world.serveMapping flow ready) world
    ∃ calls, Leaves calls (rows.flatMap fun row => row.2.postsOn row.1 calls) world after ∧
      (∀ call ∈ calls, ∃ row ∈ rows, call.socket? = some row.2.socket) ∧
      (∀ row ∈ rows, row.2.Served row.1 calls after) ∧
      ∀ other, other ∉ rows.map Prod.fst →
        after.gateway.mappings.get? other = world.gateway.mappings.get? other := by
  -- Neither the flow nor the socket of a row comes again, so that it is done with in its turn.
  induction rows generalizing ready world with
  | nil => exact ⟨[], .refl world, by simp, by simp, fun _ _ => rfl⟩
  | cons row rest ih =>
      cases ready with
      | nil =>
          have none : ∀ socket, datagramsOn [] socket = [] := fun _ => rfl
          refine ⟨[], ?_, by simp, fun row member => unserved (there row member) rfl,
            fun _ _ => rfl⟩
          have quiet : ((row :: rest).flatMap fun row => row.2.postsOn row.1 []) = [] := by
            simp [Mapping.postsOn, none]
          rw [quiet]
          exact .refl world
      | cons turn turns =>
          rw [List.map_cons, List.nodup_cons] at flows sockets
          obtain ⟨first, leaves, takes, served, others⟩ :=
            serveMapping_leaves turn (there row (List.mem_cons_self ..))
          have about : ∀ call ∈ first, call.socket? = some row.2.socket :=
            fun call member => (takes call member).about
          have away : ∀ other ∈ rest, other.1 ≠ row.1 := fun other member same =>
            flows.1 (same ▸ List.mem_map_of_mem member)
          have apart : ∀ other ∈ rest, other.2.socket ≠ row.2.socket := fun other member same =>
            sockets.1 (List.mem_map.mpr ⟨other, member, same⟩)
          have still : ∀ other ∈ rest,
              (world.serveMapping row.1 turn).gateway.mappings.get? other.1 = some other.2 := by
            intro other member
            rw [others other.1 (away other member)]
            exact there other (List.mem_cons_of_mem _ member)
          obtain ⟨later, leavesLater, aboutLater, servedLater, othersLater⟩ :=
            ih turns flows.2 sockets.2 still
          obtain ⟨own, theirs⟩ := datagramsOn_served about aboutLater apart
          refine ⟨first ++ later, ?_, ?_, ?_, ?_⟩
          · have early : row.2.postsOn row.1 (first ++ later) = row.2.postsOn row.1 first := by
              rw [Mapping.postsOn, own, Mapping.postsOn]
            have late : (rest.flatMap fun row => row.2.postsOn row.1 (first ++ later)) =
                rest.flatMap fun row => row.2.postsOn row.1 later := by
              refine List.flatMap_congr fun other there => ?_
              rw [Mapping.postsOn, theirs other there, Mapping.postsOn]
            rw [List.flatMap_cons, early, late]
            exact leaves.trans leavesLater
          · intro call member
            rcases List.mem_append.mp member with early | late
            · exact ⟨row, List.mem_cons_self .., about call early⟩
            · obtain ⟨other, there, same⟩ := aboutLater call late
              exact ⟨other, List.mem_cons_of_mem _ there, same⟩
          · refine List.forall_mem_cons.mpr ⟨served.of_eq own (othersLater row.1 flows.1), ?_⟩
            exact fun other there => (servedLater other there).of_eq (theirs other there) rfl
          · intro other absent
            rw [List.map_cons, List.mem_cons, not_or] at absent
            exact (othersLater other absent.2).trans (others other absent.1)

end World

/-! ## Streams -/

def Happening.posts (happening : Happening) : List (NicId × Bytes) :=
  happening.frames.map (happening.stream.owner, ·)

def Spare (sockets : List SocketId) (calls : List Call) : Prop :=
  ∀ call ∈ calls, ∀ socket ∈ sockets, call.socket? ≠ some socket

theorem Spare.append {sockets : List SocketId} {first second : List Call}
    (start : Spare sockets first) (rest : Spare sockets second) : Spare sockets (first ++ second) := by
  intro call member
  rcases List.mem_append.mp member with early | late
  · exact start call early
  · exact rest call late

theorem spare_of_about {sockets : List SocketId} {calls : List Call} {socket : SocketId}
    (about : ∀ call ∈ calls, call.socket? = some socket) (away : socket ∉ sockets) :
    Spare sockets calls := by
  intro call member other inside same
  rw [about call member] at same
  exact away (Option.some.inj same ▸ inside)

namespace World

theorem dropStream_mappings (world : World) (flow : Flow) :
    (world.dropStream flow).gateway.mappings = world.gateway.mappings := by
  unfold dropStream
  split <;> rfl

theorem leaves_ended {calls : List Call} {posts : List (NicId × Bytes)} {before after : World}
    {flow : Flow} {stream : Stream} {socket : SocketId} (leaves : Leaves calls posts before after)
    (found : after.gateway.streams.get? flow = some stream)
    (mappings : after.gateway.mappings = before.gateway.mappings)
    (own : stream.socket = socket) (about : ∀ call ∈ calls, call.socket? = some socket) :
    ∃ calls, Leaves calls posts before (after.dropStream flow) ∧
      (∀ call ∈ calls, call.socket? = some socket) ∧
      (after.dropStream flow).gateway.mappings = before.gateway.mappings := by
  subst own
  refine ⟨calls ++ [.close stream.socket], ?_, ?_, (dropStream_mappings ..).trans mappings⟩
  · rw [dropStream_eq found]
    exact ⟨leaves.makes.trans (Kernel.makes_close ..), leaves.mailbox, leaves.nics, leaves.relay⟩
  · exact List.forall_mem_append.mpr ⟨about, List.forall_mem_singleton.mpr rfl⟩

theorem turned_posts (cause : Stream.Cause) (now : Nat) (stream : Stream) (kernel : Kernel) :
    Happening.posts (.turned cause now stream kernel) =
      (stream.turn now kernel cause).frames.map (stream.owner, ·) := by
  obtain ⟨_, _, move⟩ := stream.turn_move now kernel cause
  exact congrArg (fun owner => List.map (owner, ·) _) move.parties.owner

theorem leaves_kept {calls : List Call} {world : World} {turn : Turn}
    (made : Makes calls world.kernel turn.kernel) (flow : Flow) (owner : NicId) :
    Leaves calls (turn.frames.map (owner, ·)) world (world.keepTurn flow owner turn) := by
  unfold keepTurn
  split
  · rename_i none
    rw [List.isEmpty_iff.mp none]
    exact ⟨made, (List.append_nil _).symm, rfl, rfl⟩
  · exact ⟨made, rfl, rfl, rfl⟩

theorem serveStream_leaves (world : World) (flow : Flow) (ready : Readiness) :
    ∃ calls, Leaves calls ((world.streamHappenings flow ready).flatMap Happening.posts) world
        (world.serveStream flow ready) ∧
      (∀ call ∈ calls, ∃ stream, world.gateway.streams.get? flow = some stream ∧
        call.socket? = some stream.socket) ∧
      (world.serveStream flow ready).gateway.mappings = world.gateway.mappings := by
  generalize leads : world.serveStream flow ready = after
  cases serveStream_outcome leads with
  | idle absent =>
      rw [streamHappenings_of_none absent]
      exact ⟨[], .refl world, by simp, rfl⟩
  | @kept stream _ found turned =>
      subst turned
      rw [streamHappenings_of_some found, List.flatMap_singleton, turned_posts]
      obtain ⟨calls, made, move⟩ := stream.turn_move (world.gateway.clock + 1) world.kernel
        (.ready world.gateway.retransmitRounds ready)
      exact ⟨calls, leaves_kept made flow stream.owner,
        fun call member => ⟨stream, found, (move.about_socket call member).1⟩, mappings_keepTurn⟩
  | @dropped stream _ found turned =>
      subst turned
      rw [streamHappenings_of_some found, List.flatMap_singleton, turned_posts]
      obtain ⟨_, made, move⟩ := stream.turn_move (world.gateway.clock + 1) world.kernel
        (.ready world.gateway.retransmitRounds ready)
      obtain ⟨calls, leaves, about, mappings⟩ := leaves_ended (leaves_kept made flow stream.owner)
        (get?_keepTurn found) mappings_keepTurn move.parties.socket
        fun call member => (move.about_socket call member).1
      exact ⟨calls, leaves, fun call member => ⟨stream, found, about call member⟩, mappings⟩

theorem serveStreams_leaves (turns : List (Flow × Readiness)) {world : World}
    (sound : world.Sound) :
    let after := turns.foldl (fun world (flow, ready) => world.serveStream flow ready) world
    ∃ calls, Leaves calls ((serveHappenings turns world).flatMap Happening.posts) world after ∧
      Spare world.gateway.datagramSockets calls ∧
      after.gateway.mappings = world.gateway.mappings := by
  induction turns generalizing world with
  | nil => exact ⟨[], .refl world, by simp [Spare], rfl⟩
  | cons turn rest ih =>
      obtain ⟨flow, ready⟩ := turn
      obtain ⟨first, leaves, about, mappings⟩ := serveStream_leaves world flow ready
      have spare : Spare world.gateway.datagramSockets first := by
        intro call member socket inside same
        obtain ⟨stream, found, its⟩ := about call member
        rw [its] at same
        exact sound.stream_not_mem_datagramSockets (FlowTable.mem_rows_of_get? found)
          (Option.some.inj same ▸ inside)
      obtain ⟨later, leavesLater, spareLater, mappingsLater⟩ :=
        ih (sound.steps (steps_serveStream world flow ready))
      have same : (world.serveStream flow ready).gateway.datagramSockets =
          world.gateway.datagramSockets := by
        rw [Gateway.datagramSockets, mappings, leaves.relay]
        rfl
      rw [same] at spareLater
      rw [serveHappenings, List.flatMap_append]
      exact ⟨first ++ later, leaves.trans leavesLater, spare.append spareLater,
        mappingsLater.trans mappings⟩

end World

/-! ## The relay -/

def Gateway.relayPosts (gateway : Gateway) (frames : List Bytes) : List (NicId × Bytes) :=
  (frames.filter (fun frame => Packet.EthernetHeader.size ≤ frame.length)).flatMap fun frame =>
    gateway.nics.map fun nic => (nic.id, frame)

def Gateway.relayPostsOn (gateway : Gateway) (calls : List Call) : List (NicId × Bytes) :=
  gateway.relay.toList.flatMap fun relay => gateway.relayPosts (datagramsOn calls relay.socket)

namespace World

theorem postToAll_leaves (nics : List Nic) (frame : Bytes) (world : World) :
    Leaves [] (nics.map fun nic => (nic.id, frame)) world (world.postToAll nics frame) ∧
      (world.postToAll nics frame).gateway.mappings = world.gateway.mappings := by
  unfold postToAll
  induction nics generalizing world with
  | nil => exact ⟨.refl world, rfl⟩
  | cons nic rest ih =>
      obtain ⟨leaves, mappings⟩ := ih (world.post nic.id [frame])
      exact ⟨(Leaves.posted world nic.id [frame]).trans leaves, mappings⟩

theorem postAllToAll_leaves (frames : List Bytes) (world : World) :
    let after := frames.foldl (fun world frame => world.postToAll world.gateway.nics frame) world
    Leaves [] (frames.flatMap fun frame => world.gateway.nics.map fun nic => (nic.id, frame)) world
        after ∧
      after.gateway.mappings = world.gateway.mappings := by
  induction frames generalizing world with
  | nil => exact ⟨.refl world, rfl⟩
  | cons frame rest ih =>
      obtain ⟨first, mappings⟩ := postToAll_leaves world.gateway.nics frame world
      obtain ⟨later, mappingsLater⟩ := ih (world.postToAll world.gateway.nics frame)
      rw [first.nics] at later
      rw [List.flatMap_cons]
      exact ⟨first.trans later, mappingsLater.trans mappings⟩

theorem makes_receiveAll (socket : SocketId) (rounds : Nat) (kernel : Kernel) :
    ∃ calls, Makes calls kernel (receiveAll socket rounds kernel).2 ∧
      (∀ call ∈ calls, call.TakesFrom socket) ∧
      calls.flatMap Call.datagrams = (receiveAll socket rounds kernel).1 := by
  induction rounds generalizing kernel with
  | zero => exact ⟨[], Makes.refl kernel, by simp, rfl⟩
  | succ rounds ih =>
      unfold receiveAll
      split
      · rename_i received
        exact ⟨_, Kernel.makes_receiveFrom received,
          List.forall_mem_singleton.mpr ⟨_, _, rfl⟩, rfl⟩
      · rename_i frame sender kernel received
        obtain ⟨later, made, takes, datagrams⟩ := ih kernel
        refine ⟨_, (Kernel.makes_receiveFrom received).trans made, ?_, ?_⟩
        · exact List.forall_mem_cons.mpr ⟨⟨_, _, rfl⟩, takes⟩
        · rw [List.flatMap_append, datagrams]
          rfl

theorem relayIn_leaves (world : World) (relay : Relay) :
    ∃ calls, Leaves calls (world.gateway.relayPosts (datagramsOn calls relay.socket)) world
        (world.relayIn relay) ∧
      (∀ call ∈ calls, call.TakesFrom relay.socket) ∧
      (world.relayIn relay).gateway.mappings = world.gateway.mappings := by
  obtain ⟨calls, made, takes, datagrams⟩ :=
    makes_receiveAll relay.socket (waitingOn world.kernel relay.socket + 1) world.kernel
  obtain ⟨leaves, mappings⟩ := postAllToAll_leaves
    ((calls.flatMap Call.datagrams).filter fun frame =>
      Packet.EthernetHeader.size ≤ frame.length)
    (world.withKernel (receiveAll relay.socket (waitingOn world.kernel relay.socket + 1)
      world.kernel).2)
  have whole := (Leaves.called made).trans leaves
  rw [List.append_nil, List.nil_append, datagrams] at whole
  rw [datagrams] at mappings
  refine ⟨calls, ?_, takes, mappings⟩
  rw [Gateway.relayPosts, datagramsOn_of_about fun call member => (takes call member).about,
    datagrams]
  exact whole

theorem serveRelay_leaves (world : World) (ready : List Readiness) :
    ∃ calls, Leaves calls (world.gateway.relayPostsOn calls) world (world.serveRelay ready) ∧
      (∀ call ∈ calls, ∃ relay, world.gateway.relay = some relay ∧
        call.TakesFrom relay.socket) ∧
      (world.serveRelay ready).gateway.mappings = world.gateway.mappings := by
  unfold serveRelay Gateway.relayPostsOn
  cases here : world.gateway.relay with
  | none => exact ⟨[], .refl world, by simp, rfl⟩
  | some relay =>
      dsimp only
      rw [Option.toList_some]
      split
      · obtain ⟨calls, leaves, takes, mappings⟩ := relayIn_leaves world relay
        refine ⟨calls, ?_, fun call member => ⟨relay, rfl, takes call member⟩, mappings⟩
        rw [List.flatMap_singleton]
        exact leaves
      · exact ⟨[], .refl world, by simp, rfl⟩

theorem serveRelay_takes (world : World) (ready : List Readiness) :
    ∃ calls, Makes calls world.kernel (world.serveRelay ready).kernel ∧
      ∀ call ∈ calls, ∃ socket, call.TakesFrom socket := by
  obtain ⟨calls, leaves, takes, _⟩ := serveRelay_leaves world ready
  refine ⟨calls, leaves.makes, fun call member => ?_⟩
  obtain ⟨relay, _, its⟩ := takes call member
  exact ⟨relay.socket, its⟩

end World

/-! ## Rounds -/

def Gateway.replyPostsOn (gateway : Gateway) (calls : List Call) : List (NicId × Bytes) :=
  gateway.mappings.rows.flatMap fun row => row.2.postsOn row.1 calls

/-- What the relay and the mappings leave depends only on the calls about their sockets. -/
theorem Gateway.replyPostsOn_congr {gateway : Gateway} {calls others : List Call}
    (same : ∀ row ∈ gateway.mappings.rows,
      datagramsOn calls row.2.socket = datagramsOn others row.2.socket) :
    gateway.replyPostsOn calls = gateway.replyPostsOn others := by
  refine List.flatMap_congr fun row member => ?_
  rw [Mapping.postsOn, same row member, Mapping.postsOn]

theorem Gateway.replyPostsOn_nil (gateway : Gateway) : gateway.replyPostsOn [] = [] := by
  have none : ∀ socket, datagramsOn [] socket = [] := fun _ => rfl
  simp [replyPostsOn, Mapping.postsOn, none]

theorem Gateway.relayPostsOn_congr {gateway : Gateway} {calls others : List Call}
    (same : ∀ relay, gateway.relay = some relay →
      datagramsOn calls relay.socket = datagramsOn others relay.socket) :
    gateway.relayPostsOn calls = gateway.relayPostsOn others := by
  refine List.flatMap_congr fun relay member => ?_
  rw [same relay (Option.mem_toList.mp member)]

theorem Gateway.relayPostsOn_of_same {before after : Gateway} {calls : List Call}
    (nics : after.nics = before.nics) (relay : after.relay = before.relay) :
    after.relayPostsOn calls = before.relayPostsOn calls := by
  unfold relayPostsOn relayPosts
  rw [nics, relay]

theorem Gateway.relayPostsOn_nil (gateway : Gateway) : gateway.relayPostsOn [] = [] := by
  have none : ∀ socket, datagramsOn [] socket = [] := fun _ => rfl
  simp [relayPostsOn, relayPosts, none]

namespace World

/-- The mappings come first, then the streams, then the relay; none makes calls on the
sockets of the others. -/
theorem serveAll_leaves {world : World} (sound : world.Sound) (ready : List Readiness) :
    let afterMappings := (world.gateway.mappings.flows.zip ready).foldl
      (fun world (flow, ready) => world.serveMapping flow ready) world
    let happenings := serveHappenings
      (world.gateway.streams.flows.zip (ready.drop world.gateway.mappings.flows.length))
      afterMappings
    ∃ calls, Leaves calls (world.gateway.replyPostsOn calls ++
        happenings.flatMap Happening.posts ++ world.gateway.relayPostsOn calls)
        world (world.serveAll ready) ∧
      ∀ row ∈ world.gateway.mappings.rows, row.2.Served row.1 calls (world.serveAll ready) := by
  intro afterMappings happenings
  have there : ∀ row ∈ world.gateway.mappings.rows,
      world.gateway.mappings.get? row.1 = some row.2 :=
    fun row member => FlowTable.get?_of_mem_rows sound.mappings.distinct member
  obtain ⟨first, leavesMappings, about, served, _⟩ :=
    serveMappings_leaves ready sound.mappings.distinct sound.nodup_mappingSockets there
  have soundMappings : afterMappings.Sound := sound.steps (steps_serveMappings _ world)
  obtain ⟨second, leavesStreams, spare, kept⟩ := serveStreams_leaves
    (world.gateway.streams.flows.zip (ready.drop world.gateway.mappings.flows.length))
    soundMappings
  have leaves := leavesMappings.trans leavesStreams
  obtain ⟨third, leavesRelay, takesRelay, keptRelay⟩ := serveRelay_leaves
    ((world.gateway.streams.flows.zip (ready.drop world.gateway.mappings.flows.length)).foldl
      (fun world (flow, ready) => world.serveStream flow ready) afterMappings)
    ((ready.drop world.gateway.mappings.flows.length).drop world.gateway.streams.flows.length)
  have own : ∀ row ∈ world.gateway.mappings.rows,
      datagramsOn (first ++ second ++ third) row.2.socket = datagramsOn first row.2.socket := by
    intro row member
    have now := FlowTable.mem_rows_of_get? (served row member).stays
    have inside : row.2.socket ∈ afterMappings.gateway.datagramSockets :=
      List.mem_append_left _ (List.mem_map.mpr ⟨_, now, rfl⟩)
    rw [datagramsOn_append_left _ fun call late same => ?_,
      datagramsOn_append_left _ fun call late => spare call late _ inside]
    obtain ⟨relay, here, takes⟩ := takesRelay call late
    rw [takes.about] at same
    exact sound.mapping_ne_relay member (leaves.relay.symm.trans here) (Option.some.inj same).symm
  have its : ∀ relay, world.gateway.relay = some relay →
      datagramsOn (first ++ second ++ third) relay.socket = datagramsOn third relay.socket := by
    intro relay here
    have still : afterMappings.gateway.relay = some relay := leavesMappings.relay.trans here
    have inside : relay.socket ∈ afterMappings.gateway.datagramSockets :=
      List.mem_append_right _ (List.mem_map.mpr ⟨relay, Option.mem_toList.mpr still, rfl⟩)
    refine datagramsOn_append_right third fun call early same => ?_
    rcases List.mem_append.mp early with mapped | streamed
    · obtain ⟨row, member, aboutIt⟩ := about call mapped
      rw [aboutIt] at same
      exact sound.mapping_ne_relay member here (Option.some.inj same)
    · exact spare call streamed _ inside same
  refine ⟨first ++ second ++ third, ?_, ?_⟩
  · have whole := leaves.trans leavesRelay
    rw [Gateway.relayPostsOn_of_same leaves.nics leaves.relay] at whole
    rw [Gateway.replyPostsOn_congr own, Gateway.relayPostsOn_congr its]
    exact whole
  · intro row member
    exact (served row member).of_eq (own row member)
      (congrArg (FlowTable.get? · row.1) (keptRelay.trans kept))

/-- The calls of a round say what the mappings and the relay leave, and how the
mappings stay. -/
theorem poll_leaves {world : World} (sound : world.Sound) :
    ∃ calls, Leaves calls (world.gateway.replyPostsOn calls ++
        world.pollHappenings.flatMap Happening.posts ++ world.gateway.relayPostsOn calls)
        world world.poll ∧
      ∀ row ∈ world.gateway.mappings.rows, row.2.Served row.1 calls world.poll := by
  cases world.round_outcome with
  | failed _ made silent leads =>
      rw [silent, leads]
      refine ⟨[], ?_, fun row member => ?_⟩
      · rw [Gateway.replyPostsOn_nil, Gateway.relayPostsOn_nil]
        exact .called made
      · exact unserved (FlowTable.get?_of_mem_rows sound.mappings.distinct member) rfl
  | @served ready _ _ made turns leads =>
      obtain ⟨calls, leaves, served⟩ := serveAll_leaves (sound.looked made) ready
      rw [turns, leads]
      exact ⟨calls, (Leaves.called made).trans leaves, served⟩

end World

end Masquerade
