import Masquerade.Proofs.Gateway.Turns
import Masquerade.Proofs.Kernel.Looking

/-!
# One look serves all sockets

A round looks once, at all sockets together.  What it finds out about a socket is used for
whatever holds the socket and for nothing else, however much the turns before have moved
and dropped in the tables; and where nothing was found out, nothing is done.
-/

set_option autoImplicit false

namespace Masquerade

open Kernel (LeavesAlone LooksOnce Readiness)

/-! ## Turns do not look -/

namespace Stream

theorem Listens.looksAhead {socket : SocketId} {before after : Kernel}
    (listens : Listens socket before after) : after.looksAhead = before.looksAhead := by
  induction listens with
  | nothing => rfl
  | tookError _ ih => rw [Kernel.looksAhead_takeError, ih]
  | received _ _ ih => rw [Kernel.looksAhead_receive, ih]

end Stream

namespace World

theorem looksAhead_dropStream (world : World) (flow : Flow) :
    (world.dropStream flow).kernel.looksAhead = world.kernel.looksAhead := by
  unfold dropStream
  split
  · rfl
  · exact world.kernel.looksAhead_close _

theorem looksAhead_serveTurn (world : World) (turn : Place × Readiness) :
    (world.serveTurn turn).kernel.looksAhead = world.kernel.looksAhead := by
  obtain ⟨place, ready⟩ := turn
  cases place with
  | stream flow =>
      simp only [serveTurn]
      generalize leads : world.serveStream flow ready = after
      cases serveStream_outcome leads with
      | idle => rfl
      | @kept stream _ _ turned =>
          rw [kernel_keepTurn, ← turned]
          exact (stream.listens_onReady _ _ ready world.kernel).looksAhead
      | @dropped stream _ _ turned =>
          rw [looksAhead_dropStream, kernel_keepTurn, ← turned]
          exact (stream.listens_onReady _ _ ready world.kernel).looksAhead
  | mapping flow =>
      simp only [serveTurn]
      generalize leads : world.serveMapping flow ready = after
      cases serveMapping_outcome leads with
      | idle => rfl
      | @failed mapping _ _ _ missed =>
          have kept := world.kernel.looksAhead_receiveFrom mapping.socket Mapping.mostReceived
          rwa [missed] at kept
      | @replied mapping _ _ _ _ received =>
          have kept := world.kernel.looksAhead_receiveFrom mapping.socket Mapping.mostReceived
          rw [received] at kept
          rw [onReply_kernel]
          exact kept

theorem looksAhead_serveTurns (turns : List (Place × Readiness)) (world : World) :
    (world.serveTurns turns).kernel.looksAhead = world.kernel.looksAhead := by
  induction turns generalizing world with
  | nil => rfl
  | cons turn rest ih => exact (ih (world.serveTurn turn)).trans (world.looksAhead_serveTurn turn)

theorem looksAhead_receiveAll (socket : SocketId) (rounds : Nat) (kernel : Kernel) :
    (receiveAll socket rounds kernel).2.looksAhead = kernel.looksAhead := by
  induction rounds generalizing kernel with
  | zero => rfl
  | succ rounds ih =>
      have kept := kernel.looksAhead_receiveFrom socket mostRelayed
      unfold receiveAll
      split
      · rename_i received
        rwa [received] at kept
      · rename_i received
        rw [received] at kept
        exact (ih _).trans kept

theorem looksAhead_serveRelay (world : World) (ready : List Readiness) :
    (world.serveRelay ready).kernel.looksAhead = world.kernel.looksAhead := by
  unfold serveRelay
  split
  · rfl
  · split
    · rw [relayIn, postAllToAll_kernel]
      exact looksAhead_receiveAll ..
    · rfl

/-! ## The turns of a round -/

def roundTurns (gateway : Gateway) (kernel : Kernel) : List (Place × Readiness) :=
  gateway.mappings.rows.map (fun row =>
      (.mapping row.1, kernel.readinessOf ⟨row.2.socket, true, false⟩)) ++
    gateway.streams.rows.map fun row =>
      (.stream row.1, kernel.readinessOf ⟨row.2.socket, true, true⟩)

def relayReadiness (gateway : Gateway) (kernel : Kernel) : List Readiness :=
  gateway.relay.toList.map fun relay => kernel.readinessOf ⟨relay.socket, true, false⟩

section Order

variable (gateway : Gateway) (kernel : Kernel)

theorem zip_map_append {Row Left Right : Type} (left : Row → Left) (right : Row → Right)
    (rows : List Row) (others : List Right) :
    (rows.map left).zip (rows.map right ++ others) = rows.map fun row => (left row, right row) := by
  induction rows with
  | nil => rfl
  | cons row rest ih => exact congrArg (List.cons _) ih

/-- What is found out in one row is matched with the places by their order alone. -/
theorem turnsOf_interests :
    turnsOf gateway ((interests gateway).map kernel.readinessOf) = roundTurns gateway kernel := by
  simp only [turnsOf, placesOf, interests, roundTurns, FlowTable.flows_eq, List.map_append,
    List.map_map, List.append_assoc]
  rw [zip_append_drop, zip_map_append, List.drop_left' (by simp), zip_map_append]
  rfl

theorem relay_interests :
    ((interests gateway).map kernel.readinessOf).drop (placesOf gateway).length =
      relayReadiness gateway kernel := by
  simp only [placesOf, interests, relayReadiness, FlowTable.flows_eq, List.map_append, List.map_map]
  exact List.drop_left' (by simp)

theorem places_roundTurns : (roundTurns gateway kernel).map Prod.fst = placesOf gateway := by
  simp only [roundTurns, placesOf, FlowTable.flows_eq, List.map_append, List.map_map]
  rfl

end Order

theorem nodup_placesOf {world : World} (sound : world.Sound) :
    (placesOf world.gateway).Nodup := by
  refine List.Nodup.append ?_ ?_ ?_
  · exact sound.mappings.distinct.map fun _ _ same => Place.mapping.inj same
  · exact sound.streams.distinct.map fun _ _ same => Place.stream.inj same
  · intro place mapped streamed
    obtain ⟨flow, _, rfl⟩ := List.mem_map.mp mapped
    obtain ⟨other, _, same⟩ := List.mem_map.mp streamed
    cases same

/-! ## Turns are apart -/

section Turns

variable {world : World}

/-- Turns of other places neither change what stands at a place nor use its socket. -/
theorem spares_serveTurns (sound : world.Sound) {turns : List (Place × Readiness)} {place : Place}
    (absent : place ∉ turns.map Prod.fst) : Spares place world (world.serveTurns turns) := by
  induction turns generalizing world with
  | nil => exact .refl place world
  | cons turn rest ih =>
      rw [List.map_cons, List.mem_cons, not_or] at absent
      exact ((serveTurn_serves sound turn).others place absent.1).trans
        (ih (sound.serveTurn turn) absent.2)

theorem leavesAlone_relay_serveTurn (sound : world.Sound) (turn : Place × Readiness)
    {relay : Relay} (here : world.gateway.relay = some relay) :
    LeavesAlone relay.socket world.kernel (world.serveTurn turn).kernel ∧
      (world.serveTurn turn).gateway.relay = some relay := by
  have serves := serveTurn_serves sound turn
  cases there : world.carrier? turn.1 with
  | none =>
      rw [serves.idle there]
      exact ⟨.refl relay.socket world.kernel, here⟩
  | some carrier =>
      obtain ⟨_, _, leaves, _⟩ := serves.own carrier there
      exact ⟨serves.alone carrier there relay.socket (sound.carrier_ne_relay there here).symm,
        leaves.relay.trans here⟩

theorem leavesAlone_relay_serveTurns (sound : world.Sound) (turns : List (Place × Readiness))
    {relay : Relay} (here : world.gateway.relay = some relay) :
    LeavesAlone relay.socket world.kernel (world.serveTurns turns).kernel ∧
      (world.serveTurns turns).gateway.relay = some relay := by
  induction turns generalizing world with
  | nil => exact ⟨.refl relay.socket world.kernel, here⟩
  | cons turn rest ih =>
      obtain ⟨alone, still⟩ := leavesAlone_relay_serveTurn sound turn here
      obtain ⟨later, there⟩ := ih (sound.serveTurn turn) still
      exact ⟨alone.trans later, there⟩

end Turns

/-- A round serves every socket once and by its own readiness: first the mappings and then
the streams that are there when it begins, in the order of their last use, and last the
relay.  Before its turn nothing is done with what stands at a place and with its socket,
and nothing after it. -/
structure ServesEach (world : World) (looked : Kernel) : Prop where
  run : world.poll =
    ((world.withKernel looked).serveTurns (roundTurns world.gateway world.kernel)).serveRelay
      (relayReadiness world.gateway world.kernel)
  once : ((roundTurns world.gateway world.kernel).map Prod.fst).Nodup
  before : ∀ done turn rest, roundTurns world.gateway world.kernel = done ++ turn :: rest →
    Spares turn.1 world ((world.withKernel looked).serveTurns done)
  after : ∀ done turn rest, roundTurns world.gateway world.kernel = done ++ turn :: rest →
    Spares turn.1 ((world.withKernel looked).serveTurns (done ++ [turn])) world.poll
  relay : ∀ relay, world.gateway.relay = some relay →
    LeavesAlone relay.socket world.kernel
      ((world.withKernel looked).serveTurns (roundTurns world.gateway world.kernel)).kernel

theorem servesEach_of_look {world : World} (sound : world.Sound) {ready : List Readiness}
    {looked : Kernel}
    (look : world.kernel.readiness (interests world.gateway) = (.ok ready, looked)) :
    ServesEach world looked := by
  have untouched : ∀ socket, LeavesAlone socket world.kernel looked := by
    intro socket
    have alone := world.kernel.leavesAlone_readiness socket (interests world.gateway)
    rwa [look] at alone
  have found : ready = (interests world.gateway).map world.kernel.readinessOf :=
    (readiness_ok look).trans (List.map_congr_left fun interest _ =>
      Kernel.readinessOf_of_same (untouched interest.socket).same)
  have run := poll_of_look look
  rw [found, turnsOf_interests, relay_interests] at run
  have soundLooked := sound.looked (makes_of_look look)
  have once : ((roundTurns world.gateway world.kernel).map Prod.fst).Nodup := by
    rw [places_roundTurns]
    exact nodup_placesOf sound
  -- A place has one turn, so that those before it and behind it are of other places.
  have apart : ∀ done turn rest, roundTurns world.gateway world.kernel = done ++ turn :: rest →
      turn.1 ∉ done.map Prod.fst ∧ turn.1 ∉ rest.map Prod.fst := by
    intro done turn rest split
    rw [split, List.map_append, List.map_cons, List.nodup_append, List.nodup_cons] at once
    obtain ⟨_, ⟨later, _⟩, disjoint⟩ := once
    exact ⟨fun early => disjoint _ early _ (List.mem_cons_self ..) rfl, later⟩
  refine ⟨run, once, fun done turn rest split => ?_, fun done turn rest split => ?_,
    fun relay here => ?_⟩
  · have spares := world.spares_look turn.1
    rw [look] at spares
    exact spares.trans (spares_serveTurns soundLooked (apart done turn rest split).1)
  · have served := soundLooked.serveTurns (done ++ [turn])
    have later := spares_serveTurns served (apart done turn rest split).2
    have whole : (world.withKernel looked).serveTurns (done ++ turn :: rest) =
        ((world.withKernel looked).serveTurns (done ++ [turn])).serveTurns rest := by
      rw [serveTurns, serveTurns, serveTurns, ← List.foldl_append, List.append_assoc]
      rfl
    rw [run, split, whole]
    exact later.trans (spares_serveRelay (served.serveTurns rest) _ turn.1)
  · exact (untouched relay.socket).trans (leavesAlone_relay_serveTurns soundLooked _ here).1

/-! ## Rounds without work -/

/-- No socket is ready for anything, and no connected stream has bytes that wait to be
acknowledged. -/
structure Idle (world : World) : Prop where
  unready : ∀ interest ∈ interests world.gateway,
    world.kernel.readinessOf interest = ⟨false, false, false⟩
  settled : ∀ row ∈ world.gateway.streams.rows, row.2.phase = .connected →
    row.2.unacknowledged = []

end World

theorem FlowTable.set_self {Record : Type} {table : FlowTable Record} {flow : Flow}
    {record : Record} (distinct : table.flows.Nodup) (found : table.get? flow = some record) :
    table.set flow record = table := by
  have same : ∀ row ∈ table.rows, (if row.1 = flow then (flow, record) else row) = row := by
    intro row member
    split
    · rename_i here
      have its := FlowTable.get?_of_mem_rows distinct member
      rw [here, found] at its
      rw [← here, Option.some.inj its]
    · rfl
  rw [FlowTable.set_eq, List.map_congr_left same, List.map_id']

theorem Stream.onReady_of_unready {stream : Stream}
    (settled : stream.phase = .connected → stream.unacknowledged = []) (now rounds : Nat)
    (kernel : Kernel) : stream.onReady now rounds ⟨false, false, false⟩ kernel =
      stream.rest kernel := by
  unfold onReady
  split
  · rfl
  · rename_i phase
    simp [onConnected, findError, settled phase]
  · rfl
  · rfl

namespace World

theorem serveStream_of_unready {world : World} {flow : Flow} {stream : Stream}
    (distinct : world.gateway.streams.flows.Nodup)
    (found : world.gateway.streams.get? flow = some stream)
    (settled : stream.phase = .connected → stream.unacknowledged = []) :
    world.serveStream flow ⟨false, false, false⟩ = world := by
  simp only [serveStream, found, Stream.onReady_of_unready settled, Stream.rest, keepStream,
    FlowTable.set_self distinct found, List.isEmpty_nil, if_true, Bool.false_eq_true, if_false]

theorem serveTurns_of_still {world : World} {turns : List (Place × Readiness)}
    (still : ∀ turn ∈ turns, world.serveTurn turn = world) : world.serveTurns turns = world := by
  induction turns with
  | nil => rfl
  | cons turn rest ih =>
      rw [serveTurns, List.foldl_cons, still turn (List.mem_cons_self ..)]
      exact ih fun other member => still other (List.mem_cons_of_mem _ member)

section Idle

variable {world : World} (sound : world.Sound) (idle : world.Idle)
include sound idle

theorem serveTurns_of_idle (looked : Kernel) :
    (world.withKernel looked).serveTurns (roundTurns world.gateway world.kernel) =
      world.withKernel looked := by
  refine serveTurns_of_still fun turn member => ?_
  rcases List.mem_append.mp member with mapped | streamed
  · obtain ⟨row, inside, rfl⟩ := List.mem_map.mp mapped
    have unready := idle.unready ⟨row.2.socket, true, false⟩
      (List.mem_append_left _ (List.mem_append_left _ (List.mem_map.mpr ⟨row, inside, rfl⟩)))
    rw [unready]
    rfl
  · obtain ⟨row, inside, rfl⟩ := List.mem_map.mp streamed
    have unready := idle.unready ⟨row.2.socket, true, true⟩
      (List.mem_append_left _ (List.mem_append_right _ (List.mem_map.mpr ⟨row, inside, rfl⟩)))
    have found : (world.withKernel looked).gateway.streams.get? row.1 = some row.2 :=
      FlowTable.get?_of_mem_rows sound.streams.distinct inside
    rw [unready]
    exact serveStream_of_unready sound.streams.distinct found (idle.settled row inside)

omit sound in
theorem serveRelay_of_idle (looked : Kernel) :
    (world.withKernel looked).serveRelay (relayReadiness world.gateway world.kernel) =
      world.withKernel looked := by
  unfold serveRelay
  split
  · rfl
  · rename_i relay found
    have here : world.gateway.relay = some relay := found
    have unready := idle.unready ⟨relay.socket, true, false⟩
      (List.mem_append_right _ (List.mem_map.mpr ⟨relay, Option.mem_toList.mpr here, rfl⟩))
    rw [relayReadiness, here, Option.toList_some, List.map_singleton, unready]
    rfl

/-- Without work, a round does nothing but look. -/
theorem poll_of_idle :
    world.poll = world.withKernel (world.kernel.readiness (interests world.gateway)).2 := by
  cases world.round_outcome with
  | failed look _ _ leads => rw [look, leads]
  | served look =>
      rw [look, (servesEach_of_look sound look).run, serveTurns_of_idle sound idle,
        serveRelay_of_idle idle]

end Idle

/-! ## How often a round looks -/

theorem poll_of_no_sockets {world : World} (none : interests world.gateway = []) :
    world.poll = world := by
  have rows := none
  simp only [interests, List.append_eq_nil_iff, List.map_eq_nil_iff] at rows
  obtain ⟨⟨mappings, streams⟩, relay⟩ := rows
  have absent : world.gateway.relay = Option.none := Option.toList_eq_nil_iff.mp relay
  rw [poll, none, Kernel.readiness_of_none]
  simp only [serveAll, FlowTable.flows_eq, mappings, streams, List.map_nil, List.zip_nil_left,
    List.foldl_nil, serveRelay, absent]

theorem servesEach_of_nextLook {world : World} (sound : world.Sound)
    (succeeds : ∀ errno, world.kernel.nextLook ≠ .failure errno) :
    ServesEach world (world.kernel.readiness (interests world.gateway)).2 := by
  have told : ∃ ready, (world.kernel.readiness (interests world.gateway)).1 = .ok ready := by
    by_cases sockets : interests world.gateway = []
    · exact ⟨[], by rw [sockets, Kernel.readiness_of_none]⟩
    · rw [(world.kernel.readiness_of_some sockets).2]
      cases outcome : world.kernel.nextLook with
      | failure errno => exact absurd outcome (succeeds errno)
      | ordinary | count => exact ⟨_, rfl⟩
  obtain ⟨ready, found⟩ := told
  exact servesEach_of_look sound (Prod.ext found rfl)

theorem poll_of_sockets (world : World) (sockets : interests world.gateway ≠ []) :
    let looked := (world.kernel.readiness (interests world.gateway)).2
    LooksOnce world.kernel looked ∧ world.poll.kernel.looksAhead = looked.looksAhead ∧
      ∀ errno, world.kernel.nextLook = .failure errno → world.poll = world.withKernel looked := by
  obtain ⟨once, told⟩ := world.kernel.readiness_of_some sockets
  refine ⟨once, ?_, fun errno fails => ?_⟩
  · cases world.round_outcome with
    | failed look _ _ leads =>
        rw [look, leads]
        rfl
    | served look =>
        rw [look, poll_of_look look, looksAhead_serveRelay, looksAhead_serveTurns]
        rfl
  · rw [fails] at told
    cases world.round_outcome with
    | failed look _ _ leads => rw [look, leads]
    | served look =>
        rw [look] at told
        cases told

end World

end Masquerade
