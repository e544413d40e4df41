import Mathlib.Data.List.Nodup
import Masquerade.Proofs.Gateway.Step
import Masquerade.Proofs.Kernel.Held

/-!
# Sound worlds

In a sound world the gateway holds exactly the open sockets, each once; no table
repeats a flow; every mapping goes where its flow says; and no call was about a
socket that had not been given yet.  A new network is sound and every step keeps
it so.
-/

set_option autoImplicit false

namespace Masquerade

def Gateway.holders (gateway : Gateway) : List SocketId :=
  gateway.mappings.rows.map (fun row => row.2.socket) ++
    gateway.streams.rows.map (fun row => row.2.socket) ++
    gateway.relay.toList.map Relay.socket

def Gateway.datagramSockets (gateway : Gateway) : List SocketId :=
  gateway.mappings.rows.map (fun row => row.2.socket) ++ gateway.relay.toList.map Relay.socket

namespace World

open Kernel (Makes)

def Numbered (kernel : Kernel) : Prop :=
  ∀ call ∈ kernel.log, ∀ socket, call.socket? = some socket → socket < kernel.sockets.length

structure Sound (world : World) : Prop where
  held : world.kernel.Held world.gateway.holders
  mappings : world.gateway.mappings.Holds (Directs world.gateway.subnet world.gateway.nameService)
  streams : world.gateway.streams.Holds fun flow stream => stream.flow = flow
  numbered : Numbered world.kernel

/-! ## Calls about sockets that have been given -/

theorem Numbered.makes {calls : List Call} {before after : Kernel} (numbered : Numbered before)
    (made : Makes calls before after)
    (given : ∀ call ∈ calls, ∀ socket, call.socket? = some socket → socket < after.sockets.length) :
    Numbered after := by
  intro call member socket about
  rw [made.log, List.mem_append, List.mem_reverse] at member
  rcases member with new | old
  · exact given call new socket about
  · exact Nat.lt_of_lt_of_le (numbered call old socket about) (Kernel.length_sockets_le made)

theorem Numbered.about {calls : List Call} {before after : Kernel} {socket : SocketId}
    (numbered : Numbered before) (made : Makes calls before after)
    (about : ∀ call ∈ calls, call.socket? = some socket) (given : socket < after.sockets.length) :
    Numbered after := by
  refine numbered.makes made fun call member other same => ?_
  rw [about call member] at same
  exact Option.some.inj same ▸ given

theorem Numbered.missed {calls : List Call} {before after : Kernel} (numbered : Numbered before)
    (made : Makes calls before after)
    (fruitless : Call.Fruitless before.sockets.length calls) : Numbered after := by
  refine numbered.makes made fun call member socket about => ?_
  rcases fruitless.flags before.length_openFlags with ⟨_, silent⟩ | extra
  · rw [silent call member] at about
    cases about
  · have longer : after.sockets.length = before.sockets.length + 1 := by
      rw [← Kernel.length_openFlags, made.flags, extra]
      simp
    rcases fruitless.about call member with none | same
    · rw [none] at about
      cases about
    · rw [same] at about
      rw [longer, ← Option.some.inj about]
      exact Nat.lt_succ_self _

/-! ## What tables and sockets have to do with each other -/

section Holders

variable {gateway : Gateway}

theorem holders_mappings_perm {mappings : FlowTable Mapping}
    (same : (mappings.rows.map fun row => row.2.socket).Perm
      (gateway.mappings.rows.map fun row => row.2.socket)) :
    gateway.holders.Perm { gateway with mappings }.holders :=
  (same.symm.append_right _).append_right _

theorem holders_streams_perm {streams : FlowTable Stream}
    (same : (streams.rows.map fun row => row.2.socket).Perm
      (gateway.streams.rows.map fun row => row.2.socket)) :
    gateway.holders.Perm { gateway with streams }.holders :=
  (same.symm.append_left _).append_right _

theorem holders_cons_mapping {mappings : FlowTable Mapping} {flow : Flow} {mapping : Mapping}
    (rows : mappings.rows = (flow, mapping) :: gateway.mappings.rows) :
    { gateway with mappings }.holders = mapping.socket :: gateway.holders := by
  simp only [Gateway.holders, rows, List.map_cons, List.cons_append]

theorem holders_cons_stream {streams : FlowTable Stream} {flow : Flow} {stream : Stream}
    (rows : streams.rows = (flow, stream) :: gateway.streams.rows) :
    (stream.socket :: gateway.holders).Perm { gateway with streams }.holders := by
  simp only [Gateway.holders, rows, List.map_cons, List.append_assoc, List.cons_append]
  exact List.perm_middle.symm

theorem holders_replace_mapping {mappings : FlowTable Mapping} {flow : Flow} {mapping : Mapping}
    {evicted : Flow × Mapping} {front : List (Flow × Mapping)}
    (before : gateway.mappings.rows = front ++ [evicted])
    (rows : mappings.rows = (flow, mapping) :: front) :
    (mapping.socket :: gateway.holders).Perm
      (evicted.2.socket :: { gateway with mappings }.holders) := by
  simp only [Gateway.holders, before, rows, List.map_append, List.map_cons, List.map_nil,
    List.append_assoc, List.cons_append, List.nil_append]
  exact (List.perm_middle.cons _).trans (List.Perm.swap ..)

theorem holders_remove_stream {flow : Flow} {stream : Stream}
    (distinct : gateway.streams.flows.Nodup) (found : gateway.streams.get? flow = some stream) :
    gateway.holders.Perm
      (stream.socket :: { gateway with streams := (gateway.streams.remove flow).2 }.holders) := by
  have rows := (FlowTable.rows_perm_others distinct found).map fun row => row.2.socket
  rw [List.map_cons] at rows
  have whole := (rows.append_left (gateway.mappings.rows.map fun row => row.2.socket)).append_right
    (gateway.relay.toList.map Relay.socket)
  refine whole.trans ?_
  simp only [Gateway.holders, FlowTable.remove_eq, List.append_assoc, List.cons_append]
  exact List.perm_middle

end Holders

theorem mapping_mem_holders {gateway : Gateway} {row : Flow × Mapping}
    (member : row ∈ gateway.mappings.rows) : row.2.socket ∈ gateway.holders :=
  List.mem_append_left _ (List.mem_append_left _ (List.mem_map.mpr ⟨row, member, rfl⟩))

theorem stream_mem_holders {gateway : Gateway} {row : Flow × Stream}
    (member : row ∈ gateway.streams.rows) : row.2.socket ∈ gateway.holders :=
  List.mem_append_left _ (List.mem_append_right _ (List.mem_map.mpr ⟨row, member, rfl⟩))

theorem relay_mem_holders {gateway : Gateway} {relay : Relay}
    (here : gateway.relay = some relay) : relay.socket ∈ gateway.holders := by
  refine List.mem_append_right _ ?_
  rw [here]
  exact List.mem_singleton_self _

namespace Sound

variable {world : World}

/-! ## Streams have sockets of their own -/

theorem stream_ne_mapping (sound : world.Sound) {row : Flow × Stream} {other : Flow × Mapping}
    (member : row ∈ world.gateway.streams.rows) (there : other ∈ world.gateway.mappings.rows) :
    row.2.socket ≠ other.2.socket := by
  obtain ⟨_, _, apart⟩ := List.nodup_append.mp (List.nodup_append.mp sound.held.distinct).1
  have away := apart _ (List.mem_map.mpr ⟨other, there, rfl⟩) _ (List.mem_map.mpr ⟨row, member, rfl⟩)
  exact fun same => away same.symm

theorem stream_ne_relay (sound : world.Sound) {row : Flow × Stream} {relay : Relay}
    (member : row ∈ world.gateway.streams.rows) (here : world.gateway.relay = some relay) :
    row.2.socket ≠ relay.socket := by
  obtain ⟨_, _, apart⟩ := List.nodup_append.mp sound.held.distinct
  refine apart _ (List.mem_append_right _ (List.mem_map.mpr ⟨row, member, rfl⟩)) _ ?_
  rw [here]
  exact List.mem_singleton_self _

theorem stream_not_mem_datagramSockets (sound : world.Sound) {row : Flow × Stream}
    (member : row ∈ world.gateway.streams.rows) :
    row.2.socket ∉ world.gateway.datagramSockets := by
  intro inside
  rcases List.mem_append.mp inside with mapped | relayed
  · obtain ⟨other, there, same⟩ := List.mem_map.mp mapped
    exact sound.stream_ne_mapping member there same.symm
  · obtain ⟨relay, here, same⟩ := List.mem_map.mp relayed
    exact sound.stream_ne_relay member (Option.mem_toList.mp here) same.symm

theorem nodup_mappingSockets (sound : world.Sound) :
    (world.gateway.mappings.rows.map fun row => row.2.socket).Nodup :=
  (List.nodup_append.mp (List.nodup_append.mp sound.held.distinct).1).1

theorem mapping_ne_relay (sound : world.Sound) {row : Flow × Mapping} {relay : Relay}
    (member : row ∈ world.gateway.mappings.rows) (here : world.gateway.relay = some relay) :
    row.2.socket ≠ relay.socket := by
  obtain ⟨_, _, apart⟩ := List.nodup_append.mp sound.held.distinct
  refine apart _ (List.mem_append_left _ (List.mem_map.mpr ⟨row, member, rfl⟩)) _ ?_
  rw [here]
  exact List.mem_singleton_self _

theorem stream_ne_stream (sound : world.Sound) {row other : Flow × Stream}
    (member : row ∈ world.gateway.streams.rows) (there : other ∈ world.gateway.streams.rows)
    (away : row.1 ≠ other.1) : row.2.socket ≠ other.2.socket := by
  obtain ⟨_, distinct, _⟩ := List.nodup_append.mp (List.nodup_append.mp sound.held.distinct).1
  intro same
  exact away (congrArg Prod.fst (List.inj_on_of_nodup_map distinct member there same))

theorem stream_lt (sound : world.Sound) {row : Flow × Stream}
    (member : row ∈ world.gateway.streams.rows) :
    row.2.socket < world.kernel.sockets.length := sound.held.lt (stream_mem_holders member)

theorem callsOn_fresh (sound : world.Sound) :
    world.kernel.callsOn world.kernel.sockets.length = [] := by
  refine List.filter_eq_nil_iff.mpr fun call member => ?_
  rw [decide_eq_true_eq]
  intro about
  exact Nat.lt_irrefl _ (sound.numbered call (List.mem_reverse.mp member) _ about)

/-! ## Every step keeps a world sound -/

/-- Calls about a socket that is held, none of which opens or closes one. -/
theorem used {calls : List Call} {kernel : Kernel} {socket : SocketId} (sound : world.Sound)
    (made : Makes calls world.kernel kernel) (holder : socket ∈ world.gateway.holders)
    (about : ∀ call ∈ calls, call.socket? = some socket ∧ call.keepsSockets = true) :
    (world.withKernel kernel).Sound where
  held := sound.held.kept made fun call member => (about call member).2
  mappings := sound.mappings
  streams := sound.streams
  numbered := sound.numbered.about made (fun call member => (about call member).1)
    (Nat.lt_of_lt_of_le (sound.held.lt holder) (Kernel.length_sockets_le made))

theorem looked {kernel : Kernel} (sound : world.Sound) (made : Makes [] world.kernel kernel) :
    (world.withKernel kernel).Sound where
  held := sound.held.kept made (by simp)
  mappings := sound.mappings
  streams := sound.streams
  numbered := sound.numbered.makes made (by simp)

theorem missed {calls : List Call} {kernel : Kernel} (sound : world.Sound)
    (made : Makes calls world.kernel kernel)
    (fruitless : Call.Fruitless world.kernel.sockets.length calls) :
    (world.withKernel kernel).Sound where
  held := sound.held.missed made fruitless
  mappings := sound.mappings
  streams := sound.streams
  numbered := sound.numbered.missed made fruitless

theorem mappingsMoved {mappings : FlowTable Mapping} (sound : world.Sound)
    (holds : mappings.Holds (Directs world.gateway.subnet world.gateway.nameService))
    (same : world.gateway.holders.Perm { world.gateway with mappings }.holders) :
    (world.withMappings mappings).Sound where
  held := sound.held.perm same
  mappings := holds
  streams := sound.streams
  numbered := sound.numbered

theorem streamsMoved {streams : FlowTable Stream} (sound : world.Sound)
    (holds : streams.Holds fun flow stream => stream.flow = flow)
    (same : world.gateway.holders.Perm { world.gateway with streams }.holders) :
    (world.withStreams streams).Sound where
  held := sound.held.perm same
  mappings := sound.mappings
  streams := holds
  numbered := sound.numbered

theorem mappingAdded {kernel : Kernel} {flow : Flow} {mapping : Mapping}
    {mappings : FlowTable Mapping} (sound : world.Sound)
    (absent : world.gateway.mappings.get? flow = none)
    (directs : Directs world.gateway.subnet world.gateway.nameService flow mapping)
    (fresh : mapping.socket = world.kernel.sockets.length)
    (made : Makes [.socket .datagram (.ok mapping.socket)] world.kernel kernel)
    (put : world.gateway.mappings.insertEvicting flow mapping = (none, mappings)) :
    ((world.withKernel kernel).withMappings mappings).Sound where
  held := by
    have given := sound.held.given fresh made (by simp)
    have rows := FlowTable.rows_of_insertEvicting_none absent put
    rwa [← holders_cons_mapping rows] at given
  mappings := sound.mappings.insertEvicting absent directs put
  streams := sound.streams
  numbered := by
    have given := sound.held.given fresh made (by simp)
    exact sound.numbered.about made (by simp [Call.socket?]) (given.lt (List.mem_cons_self ..))

theorem mappingReplaced {kernel : Kernel} {flow : Flow} {mapping : Mapping}
    {evicted : Flow × Mapping} {mappings : FlowTable Mapping} (sound : world.Sound)
    (absent : world.gateway.mappings.get? flow = none)
    (directs : Directs world.gateway.subnet world.gateway.nameService flow mapping)
    (fresh : mapping.socket = world.kernel.sockets.length)
    (made : Makes [.socket .datagram (.ok mapping.socket)] world.kernel kernel)
    (put : world.gateway.mappings.insertEvicting flow mapping = (some evicted, mappings)) :
    ((world.withKernel (kernel.close evicted.2.socket)).withMappings mappings).Sound := by
  obtain ⟨front, before, rows⟩ := FlowTable.rows_of_insertEvicting_some absent put
  have given := sound.held.given fresh made (by simp)
  have moved := given.perm (holders_replace_mapping before rows)
  have numbered := sound.numbered.about made (by simp [Call.socket?])
    (given.lt (List.mem_cons_self ..))
  have closing := Kernel.makes_close kernel evicted.2.socket
  exact {
    held := moved.closed
    mappings := sound.mappings.insertEvicting absent directs put
    streams := sound.streams
    numbered := numbered.about closing (by simp [Call.socket?])
      (Nat.lt_of_lt_of_le (moved.lt (List.mem_cons_self ..)) (Kernel.length_sockets_le closing)) }

theorem streamAdded {kernel : Kernel} {stream : Stream} {result : Except Errno Unit}
    {streams : FlowTable Stream} (sound : world.Sound)
    (absent : world.gateway.streams.get? stream.flow = none)
    (fresh : stream.socket = world.kernel.sockets.length)
    (made : Makes [.socket .stream (.ok stream.socket),
      .connect stream.socket stream.flow.outside result] world.kernel kernel)
    (put : world.gateway.streams.insert? stream.flow stream = some streams) :
    ((world.withKernel kernel).withStreams streams).Sound := by
  have given := sound.held.given fresh made (by simp [Call.keepsSockets])
  exact {
    held := given.perm (holders_cons_stream (FlowTable.rows_of_insert? put))
    mappings := sound.mappings
    streams := sound.streams.insert? absent rfl put
    numbered := sound.numbered.about made (by simp [Call.socket?])
      (given.lt (List.mem_cons_self ..)) }

theorem streamEnded {calls : List Call} {kernel : Kernel} {flow : Flow} {stream : Stream}
    (sound : world.Sound) (found : world.gateway.streams.get? flow = some stream)
    (made : Makes calls world.kernel kernel)
    (about : ∀ call ∈ calls, call.socket? = some stream.socket ∧ call.keepsSockets = true) :
    ((world.withKernel (kernel.close stream.socket)).withStreams
      (world.gateway.streams.remove flow).2).Sound := by
  have used := sound.used made (stream_mem_holders (FlowTable.mem_rows_of_get? found)) about
  have moved := used.held.perm (holders_remove_stream sound.streams.distinct found)
  have closing := Kernel.makes_close kernel stream.socket
  exact {
    held := moved.closed
    mappings := sound.mappings
    streams := sound.streams.remove flow
    numbered := used.numbered.about closing (by simp [Call.socket?])
      (Nat.lt_of_lt_of_le (moved.lt (List.mem_cons_self ..)) (Kernel.length_sockets_le closing)) }

theorem step {happenings : List Happening} {after : World} (sound : world.Sound)
    (step : Step world happenings after) : after.Sound := by
  cases step with
  | aside => exact ⟨sound.held, sound.mappings, sound.streams, sound.numbered⟩
  | looked made => exact sound.looked made
  | relayed here made about keeps =>
      exact sound.used made (relay_mem_holders here) (by simp [about, keeps])
  | missed made fruitless => exact sound.missed made fruitless
  | mappingUsed found made about keeps =>
      exact sound.used made (mapping_mem_holders (FlowTable.mem_rows_of_get? found))
        (by simp [about, keeps])
  | mappingNumbered found identification =>
      have directs := sound.mappings.get found
      refine sound.mappingsMoved
        (sound.mappings.set ⟨directs.forNameServer, directs.outside, directs.nameServer⟩)
        (holders_mappings_perm ?_)
      exact .of_eq (FlowTable.map_rows_set _ sound.mappings.distinct found rfl)
  | mappingTouched flow =>
      refine sound.mappingsMoved (sound.mappings.touch flow) (holders_mappings_perm ?_)
      exact (FlowTable.rows_touch_perm flow sound.mappings.distinct).map _
  | mappingAdded absent directs fresh made put =>
      exact sound.mappingAdded absent directs fresh made put
  | mappingReplaced absent directs fresh made put =>
      exact sound.mappingReplaced absent directs fresh made put
  | streamAdded absent opens opening made put =>
      exact sound.streamAdded absent (congrArg Stream.socket opening) made put
  | @streamTurned flow stream cause now found goesOn =>
      obtain ⟨calls, made, move⟩ := stream.turn_move now world.kernel cause
      have used := sound.used made (stream_mem_holders (FlowTable.mem_rows_of_get? found))
        move.about_socket
      refine used.streamsMoved (used.streams.set ?_) (holders_streams_perm ?_)
      · exact move.parties.flow.trans (sound.streams.get found)
      · exact .of_eq (FlowTable.map_rows_set _ sound.streams.distinct found move.parties.socket)
  | streamTouched flow =>
      refine sound.streamsMoved (sound.streams.touch flow) (holders_streams_perm ?_)
      exact (FlowTable.rows_touch_perm flow sound.streams.distinct).map _
  | @streamEnded flow stream cause now found ends =>
      obtain ⟨calls, made, move⟩ := stream.turn_move now world.kernel cause
      exact sound.streamEnded found made move.about_socket

theorem steps {happenings : List Happening} {after : World} (sound : world.Sound)
    (steps : Steps world happenings after) : after.Sound := by
  induction steps with
  | refl => exact sound
  | more first _ ih => exact ih (sound.step first)

end Sound

end World

end Masquerade
