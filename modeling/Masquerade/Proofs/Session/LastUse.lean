import Masquerade.Proofs.Gateway.LastUse
import Masquerade.Proofs.Gateway.Opened
import Masquerade.Proofs.Session.Ending

/-!
# Mappings make room

The table of mappings stands in the order of their last use, whatever is done on a network
and however the host answers.  A mapping is given up for another only, where the table is
full, and then it is the one that was used longest ago.
-/

set_option autoImplicit false

namespace Masquerade

namespace World

def LosesNoMapping (before after : World) : Prop :=
  ∀ flow mapping, before.gateway.mappings.get? flow = some mapping →
    ∃ still, after.gateway.mappings.get? flow = some still ∧ mapping.Continues still

namespace LosesNoMapping

variable {before between after : World}

theorem of_same (same : after.gateway.mappings = before.gateway.mappings) :
    LosesNoMapping before after := by
  intro flow mapping found
  exact ⟨mapping, by rw [same]; exact found, rfl⟩

theorem trans (first : LosesNoMapping before between) (second : LosesNoMapping between after) :
    LosesNoMapping before after := by
  intro flow mapping found
  obtain ⟨middle, there, early⟩ := first flow mapping found
  obtain ⟨still, stays, late⟩ := second flow middle there
  exact ⟨still, stays, early.trans late⟩

theorem poll (sound : before.Sound) : LosesNoMapping before before.poll := by
  intro flow mapping found
  obtain ⟨calls, _, served⟩ := poll_leaves sound
  exact ⟨_, (served _ (FlowTable.mem_rows_of_get? found)).stays, rfl⟩

theorem course {rounds : List World} (course : Course before rounds [] after)
    (sound : before.Sound) : LosesNoMapping before after :=
  course.keepsStill (LosesNoMapping before) (fun same _ kept => kept.trans (.of_same same))
    (fun sound kept => kept.trans (.poll sound)) sound (.of_same rfl)

end LosesNoMapping

def UsedLongestAgo (world : World) (flow : Flow) (mapping : Mapping) : Prop :=
  ∀ row ∈ world.gateway.mappings.rows, row.1 ≠ flow →
    world.kernel.lastUse mapping.socket < world.kernel.lastUse row.2.socket

variable {world : World} {flow : Flow}

theorem usedLongestAgo_of_last (order : world.InOrderOfUse) {others : List (Flow × Mapping)}
    {mapping : Mapping} (rows : world.gateway.mappings.rows = others ++ [(flow, mapping)]) :
    world.UsedLongestAgo flow mapping := by
  intro row member away
  rw [InOrderOfUse, Gateway.mappingSockets, rows, List.map_append] at order
  have earlier := (List.pairwise_append.mp order).2.2
  rw [rows] at member
  rcases List.mem_append.mp member with inside | last
  · exact earlier _ (List.mem_map.mpr ⟨row, inside, rfl⟩) _ (List.mem_singleton_self _)
  · rw [List.mem_singleton.mp last] at away
    exact absurd rfl away

/-- A frame takes a mapping away for that of a new flow only, and only the one that was used
longest ago, in a full table. -/
theorem transmit_keeps_or_evicts (sound : world.Sound)
    (positive : 0 < world.gateway.mappings.capacity)
    (within : world.gateway.mappings.WithinCapacity) (order : world.InOrderOfUse)
    (sender : NicId) (frame : Bytes) {mapping : Mapping}
    (found : world.gateway.mappings.get? flow = some mapping) :
    (world.transmit sender frame).gateway.mappings.get? flow = some mapping ∨
      ∃ other payload, world.Carried frame other payload ∧
        world.gateway.mappings.get? other = none ∧
        world.gateway.mappings.size = world.gateway.mappings.capacity ∧
        world.UsedLongestAgo flow mapping := by
  by_cases brings : ∃ other payload, world.Carried frame other payload
  · obtain ⟨other, payload, carried⟩ := brings
    obtain ⟨carrier, others, picks, uses⟩ := transmit_uses sound positive sender carried
    have soundAfter := sound.steps (steps_transmit world sender frame)
    have stays : (flow, mapping) ∈ (other, carrier) :: others →
        (world.transmit sender frame).gateway.mappings.get? flow = some mapping := by
      rw [← uses.rows]
      exact fun member => FlowTable.get?_of_mem_rows soundAfter.mappings.distinct member
    have member := FlowTable.mem_rows_of_get? found
    unfold Picks at picks
    cases mapped : world.gateway.mappings.get? other with
    | some old =>
        rw [mapped] at picks
        obtain ⟨rfl, rfl⟩ := picks
        left
        refine stays ((FlowTable.rows_perm_others sound.mappings.distinct mapped).mem_iff.mp member)
    | none =>
        rw [mapped] at picks
        obtain ⟨_, _, makesRoom⟩ := picks
        rcases Nat.lt_or_ge world.gateway.mappings.size world.gateway.mappings.capacity with
          free | full
        · left
          rw [makesRoom.room free] at stays
          exact stays (List.mem_cons_of_mem _ member)
        · obtain ⟨last, rows⟩ := makesRoom.full full
          rw [rows] at member
          rcases List.mem_append.mp member with inside | gone
          · exact Or.inl (stays (List.mem_cons_of_mem _ inside))
          · rw [← List.mem_singleton.mp gone] at rows
            exact Or.inr ⟨other, payload, carried, mapped, Nat.le_antisymm within full,
              usedLongestAgo_of_last order rows⟩
  · left
    rw [(transmit_spares sound sender fun other payload carried =>
      brings ⟨other, payload, carried⟩).1]
    exact found

theorem not_carried_of_unopened (sound : world.Sound) {frame : Bytes} {guest : Mac}
    {payload : Bytes} (brings : BringsDatagram world.gateway.subnet frame guest flow payload)
    (unopened : (flow.outside.address = world.gateway.subnet.gateway ∧
        world.gateway.nameService.nameserver = none) ∨
      (world.gateway.mappings.get? flow = none ∧ ¬ world.kernel.CanOpen)) :
    ∀ other bytes, ¬ world.Carried frame other bytes := by
  intro other bytes carried
  obtain ⟨⟨_, asked⟩, carries⟩ := carried_iff.mp carried
  have request := (ofFrame_datagram_iff ..).mpr brings
  rw [(asked_eq_some_iff.mp asked).2.2] at request
  cases request
  rcases unopened with ⟨toGateway, nameless⟩ | ⟨absent, cannot⟩
  · rcases carries with ⟨mapping, found⟩ | can
    · have named := ((sound.mappings.get found).nameServer toGateway).1
      rw [nameless] at named
      cases named
    · have named := can.target toGateway
      rw [nameless] at named
      cases named
  · rcases carries with ⟨mapping, found⟩ | can
    · rw [absent] at found
      cases found
    · exact cannot can.socket

theorem Course.inOrder {after : World} {rounds : List World} {frames : List (NicId × Bytes)}
    (course : Course world rounds frames after) (sound : world.Sound)
    (positive : 0 < world.gateway.mappings.capacity) (order : world.InOrderOfUse) :
    after.InOrderOfUse := by
  have kept : 0 < after.gateway.mappings.capacity ∧ after.InOrderOfUse := by
    refine course.keeps (fun world => 0 < world.gateway.mappings.capacity ∧ world.InOrderOfUse)
      ?_ ?_ ?_ sound ⟨positive, order⟩
    · rintro before after same made ⟨positive, order⟩
      refine ⟨by rwa [same], order.spared (Gateway.mappingSockets_of_same same) made (by simp)⟩
    · rintro world sound ⟨positive, order⟩
      exact ⟨by rwa [(steps_poll world).capacity_mappings], poll_inOrder sound order⟩
    · rintro world sender frame _ sound ⟨positive, order⟩
      exact ⟨by rwa [(steps_transmit world sender frame).capacity_mappings],
        transmit_inOrder sound positive order sender frame⟩
  exact kept.2

end World

namespace Session

open Packet

theorem room_after {start : World} (new : start.IsNew) (operations : List Operation) :
    0 < (after start operations).gateway.mappings.capacity := by
  rw [(steps_after operations start).capacity_mappings]
  exact new.room_for_mapping

/-- In whatever world a session comes to, the table of mappings has one for each flow at most,
no more than it may hold, and in the order of their last use.  Of the datagrams from outside
just those are uses to which a round leaves a reply.  A mapping stays, unless a datagram of a
new flow is carried while the table is full, and it is the one that was used longest ago.  The
mapping of a new flow then stands in front of all that were there, but for the last one of a
full table.  A datagram for which no mapping can be opened changes nothing of the table. -/
theorem mappings_make_room_by_last_use {start : World} (new : start.IsNew)
    (operations : List Operation) :
    let world := after start operations
    let mappings := world.gateway.mappings
    (mappings.flows.Nodup ∧ mappings.WithinCapacity ∧
      mappings.capacity = start.gateway.mappings.capacity ∧ world.InOrderOfUse) ∧
    ((∃ rest, world.poll.gateway.mailbox.entries = world.gateway.mailbox.entries ++
        (world.gateway.replyPostsOn (world.poll.kernel.callsSince world.kernel) ++ rest)) ∧
      ∀ (mapping : Mapping) (flow : Flow) (payload : Bytes),
        mapping.answers flow payload ≠ [] ↔ payload.length ≤ Mapping.longestReply) ∧
    (∀ (operation : Operation) (flow : Flow) (mapping : Mapping),
      mappings.get? flow = some mapping →
      (∃ still, (operation.run world).2.gateway.mappings.get? flow = some still ∧
        mapping.Continues still) ∨
      ∃ sender frame other payload, operation = .transmit sender frame ∧
        world.Carried frame other payload ∧ mappings.get? other = none ∧
        mappings.size = mappings.capacity ∧ world.UsedLongestAgo flow mapping) ∧
    (∀ (sender : NicId) (frame : Bytes) (flow : Flow) (payload : Bytes),
      world.Carried frame flow payload → mappings.get? flow = none →
      ∃ mapping others, (world.transmit sender frame).gateway.mappings.rows =
        (flow, mapping) :: others ∧ mappings.MakesRoom others) ∧
    ∀ (sender : NicId) (frame : Bytes) (guest : Mac) (flow : Flow) (payload : Bytes),
      BringsDatagram world.gateway.subnet frame guest flow payload →
      (flow.outside.address = world.gateway.subnet.gateway ∧
          world.gateway.nameService.nameserver = none) ∨
        (mappings.get? flow = none ∧ ¬ world.kernel.CanOpen) →
      (world.transmit sender frame).gateway.mappings = mappings := by
  intro world mappings
  have sound : world.Sound := sound_after new operations
  have steps := steps_after operations start
  have positive : 0 < mappings.capacity := room_after new operations
  have within : mappings.WithinCapacity := by
    refine steps.withinCapacity_mappings new.sound new.room_for_mapping ?_
    rw [FlowTable.WithinCapacity, FlowTable.size_eq, new.no_records.2]
    exact Nat.zero_le _
  have order : world.InOrderOfUse := by
    refine (course_after operations start).inOrder new.sound new.room_for_mapping ?_
    rw [World.InOrderOfUse, Gateway.mappingSockets, new.no_records.2]
    exact List.Pairwise.nil
  refine ⟨⟨sound.mappings.distinct, within, steps.capacity_mappings, order⟩, ⟨?_, ?_⟩, ?_, ?_, ?_⟩
  · obtain ⟨calls, leaves, _⟩ := World.poll_leaves sound
    rw [leaves.makes.callsSince_eq, leaves.mailbox]
    exact ⟨_, congrArg _ (List.append_assoc ..)⟩
  · intro mapping flow payload
    rw [Ne, mapping.answers_eq_nil_iff flow, Nat.not_lt]
  · intro operation flow mapping found
    rcases operation.frame_or_not with ⟨sender, frame, rfl⟩ | noFrame
    · rcases World.transmit_keeps_or_evicts sound positive within order sender frame found with
        stays | ⟨other, payload, evicts⟩
      · exact Or.inl ⟨mapping, stays, rfl⟩
      · exact Or.inr ⟨sender, frame, other, payload, rfl, evicts⟩
    · exact Or.inl (World.LosesNoMapping.course (course_of_no_frame world noFrame) sound
        flow mapping found)
  · intro sender frame flow payload carried absent
    obtain ⟨mapping, others, picks, uses⟩ := World.transmit_uses sound positive sender carried
    unfold World.Picks at picks
    rw [absent] at picks
    exact ⟨mapping, others, uses.rows, picks.2.2⟩
  · intro sender frame guest flow payload brings unopened
    exact (World.transmit_spares sound sender
      (World.not_carried_of_unopened sound brings unopened)).1

/-! ## A network that holds two mappings -/

def datagramFrame (flow : Flow) (payload : Bytes) : Bytes :=
  let datagram := udpDatagram flow.guest.address flow.outside.address
    (.between flow.guest.port flow.outside.port) payload
  let frame := datagram.bind <|
    ipv4Frame ⟨Settings.gatewayMac, ⟨2, 0, 0, 0, 0, 1⟩, EthernetHeader.ipv4⟩
      (.between flow.guest.address flow.outside.address Transport.udp.protocol 0 64)
  frame.toOption.getD []

def crowded : World where
  gateway := { (World.plain (.load none)).gateway with mappings := .empty 2 }
  kernel := .fresh

def serviceFlow (port : UInt16) : Flow :=
  ⟨⟨.ofOctets 10 0 0 5, port⟩, ⟨.ofOctets 1 2 3 4, 53⟩⟩

def crowding : List Operation :=
  [.register ⟨⟨1⟩, ⟨2, 0, 0, 0, 0, 1⟩⟩, .transmit ⟨1⟩ (datagramFrame (serviceFlow 4000) [1]),
    .transmit ⟨1⟩ (datagramFrame (serviceFlow 4001) [2]),
    .change 0 { arrivals := [.data [3] ⟨.ofOctets 1 2 3 4, 53⟩] }, .poll 1]

def unanswered : Mapping := ⟨⟨1⟩, ⟨2, 0, 0, 0, 0, 1⟩, 1, 0, false, ⟨.ofOctets 1 2 3 4, 53⟩⟩

/-- The mapping that has no answer makes room, although it is the newer one. -/
theorem unanswered_makes_room :
    crowded.IsNew ∧
      ((after crowded crowding).transmit ⟨1⟩
        (datagramFrame (serviceFlow 4002) [4])).gateway.mappings.get? (serviceFlow 4001) = none ∧
      (after crowded crowding).UsedLongestAgo (serviceFlow 4001) unanswered := by
  have new : crowded.IsNew := ⟨{ udpCapacity := 2 }, [], none, [], [], rfl⟩
  have here : (after crowded crowding).gateway.mappings.get? (serviceFlow 4001) =
      some unanswered := by
    decide +kernel
  have gone : ((after crowded crowding).transmit ⟨1⟩
      (datagramFrame (serviceFlow 4002) [4])).gateway.mappings.get? (serviceFlow 4001) = none := by
    decide +kernel
  obtain ⟨_, _, stays, _⟩ := mappings_make_room_by_last_use new crowding
  rcases stays (.transmit ⟨1⟩ (datagramFrame (serviceFlow 4002) [4])) _ _ here with
    ⟨still, stayed, _⟩ | ⟨_, _, _, _, _, _, _, _, oldest⟩
  · cases gone.symm.trans stayed
  · exact ⟨new, gone, oldest⟩

end Session

end Masquerade
