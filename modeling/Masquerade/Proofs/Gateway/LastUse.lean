import Masquerade.Proofs.Gateway.Answers
import Masquerade.Proofs.Gateway.Spared

/-!
# The last use of a mapping

A mapping is used when a datagram of its guest is sent, whatever comes of it, and when a
datagram comes to its socket of which a reply can be built.  The log tells when that was
last, and the table of mappings stands in the order of these times: whatever is no use
leaves the order alone, and a use puts its mapping in front.
-/

set_option autoImplicit false

namespace Masquerade

open Kernel (Makes Readiness)

def Call.uses (socket : SocketId) : Call → Bool
  | .sendTo handle _ _ _ => decide (handle = socket)
  | .receiveFrom handle _ (.ok (payload, _)) =>
    decide (handle = socket) && decide (payload.length ≤ Mapping.longestReply)
  | _ => false

theorem Call.about_of_uses {socket : SocketId} {call : Call} (uses : call.uses socket = true) :
    call.socket? = some socket := by
  cases call with
  | sendTo handle target bytes result =>
      rw [← of_decide_eq_true uses]
      rfl
  | receiveFrom handle most result =>
      cases result with
      | error errno => cases uses
      | ok found =>
          rw [← of_decide_eq_true (Bool.and_eq_true_iff.mp uses).1]
          rfl
  | _ => cases uses

theorem Call.unused_of_keepsSockets {call : Call} (giving : call.keepsSockets = false)
    (socket : SocketId) : call.uses socket = false := by
  cases call with
  | socket | close => rfl
  | _ => cases giving

theorem Spare.unused {sockets : List SocketId} {calls : List Call} (spare : Spare sockets calls) :
    ∀ call ∈ calls, ∀ socket ∈ sockets, call.uses socket = false :=
  fun call member socket inside => Bool.eq_false_iff.mpr fun uses =>
    spare call member socket inside (Call.about_of_uses uses)

namespace Kernel

/-- How many calls there were when a socket was last used, with that use; none if it never
was. -/
def lastUse (kernel : Kernel) (socket : SocketId) : Nat :=
  (kernel.log.dropWhile fun call => !call.uses socket).length

def InOrderOfUse (kernel : Kernel) (sockets : List SocketId) : Prop :=
  sockets.Pairwise fun newer older => kernel.lastUse older < kernel.lastUse newer

section LastUse

variable {before after : Kernel} {calls : List Call} {socket : SocketId}

theorem lastUse_le (kernel : Kernel) (socket : SocketId) :
    kernel.lastUse socket ≤ kernel.log.length :=
  (List.dropWhile_sublist _).length_le

theorem Makes.lastUse_of_unused (made : Makes calls before after)
    (unused : ∀ call ∈ calls, call.uses socket = false) :
    after.lastUse socket = before.lastUse socket := by
  have passed : ∀ call ∈ calls.reverse, (!call.uses socket) = true := by
    intro call member
    rw [unused call (List.mem_reverse.mp member)]
    rfl
  rw [lastUse, made.log, List.dropWhile_append_of_pos passed, lastUse]

theorem Makes.lastUse_of_used {first : List Call} {call : Call}
    (made : Makes (first ++ [call]) before after) (uses : call.uses socket = true) :
    before.log.length < after.lastUse socket := by
  have last : after.log = call :: (first.reverse ++ before.log) := by
    rw [made.log, List.reverse_append]
    rfl
  rw [lastUse, last, List.dropWhile_cons_of_neg (by simp [uses]), List.length_cons,
    List.length_append]
  omega

variable {sockets : List SocketId}

theorem InOrderOfUse.unused (order : before.InOrderOfUse sockets) (made : Makes calls before after)
    (unused : ∀ call ∈ calls, ∀ socket ∈ sockets, call.uses socket = false) :
    after.InOrderOfUse sockets := by
  refine List.Pairwise.imp_of_mem (fun {newer older} there here earlier => ?_) order
  rw [made.lastUse_of_unused fun call member => unused call member _ here,
    made.lastUse_of_unused fun call member => unused call member _ there]
  exact earlier

/-- A use puts its socket in front of those that it leaves alone. -/
theorem InOrderOfUse.used (order : before.InOrderOfUse sockets) {first : List Call} {call : Call}
    (made : Makes (first ++ [call]) before after) (uses : call.uses socket = true)
    (unused : ∀ early ∈ first, ∀ other ∈ sockets, early.uses other = false)
    (apart : ∀ other ∈ sockets, other ≠ socket) : after.InOrderOfUse (socket :: sockets) := by
  have away : ∀ late ∈ first ++ [call], ∀ other ∈ sockets, late.uses other = false := by
    intro late member other inside
    rcases List.mem_append.mp member with early | last
    · exact unused late early other inside
    · rw [List.mem_singleton.mp last]
      refine Bool.eq_false_iff.mpr fun usesOther => apart other inside ?_
      have same := (Call.about_of_uses usesOther).symm.trans (Call.about_of_uses uses)
      exact Option.some.inj same
  refine List.Pairwise.cons (fun other inside => ?_) (order.unused made away)
  rw [made.lastUse_of_unused fun late member => away late member other inside]
  exact Nat.lt_of_le_of_lt (before.lastUse_le other) (made.lastUse_of_used uses)

end LastUse

end Kernel

namespace World

def InOrderOfUse (world : World) : Prop :=
  world.kernel.InOrderOfUse world.gateway.mappingSockets

/-- The last call uses the mapping of a flow, which afterwards stands in front of others
that stood there before; these were not used. -/
structure UsesMapping (before after : World) (flow : Flow) (mapping : Mapping)
    (others : List (Flow × Mapping)) : Prop where
  rows : after.gateway.mappings.rows = (flow, mapping) :: others
  stay : others.Sublist before.gateway.mappings.rows
  apart : ∀ row ∈ others, row.2.socket ≠ mapping.socket
  used : ∃ first call, Makes (first ++ [call]) before.kernel after.kernel ∧
    call.uses mapping.socket = true ∧
    ∀ early ∈ first, ∀ row ∈ others, early.uses row.2.socket = false

section Order

variable {before after : World} {flow : Flow} {mapping : Mapping} {others : List (Flow × Mapping)}

theorem UsesMapping.found (uses : UsesMapping before after flow mapping others)
    (sound : after.Sound) : after.gateway.mappings.get? flow = some mapping := by
  have front : (flow, mapping) ∈ after.gateway.mappings.rows := by
    rw [uses.rows]
    exact List.mem_cons_self
  exact FlowTable.get?_of_mem_rows sound.mappings.distinct front

theorem UsesMapping.inOrder (uses : UsesMapping before after flow mapping others)
    (order : before.InOrderOfUse) : after.InOrderOfUse := by
  obtain ⟨first, call, made, usesIt, unused⟩ := uses.used
  have rest : before.kernel.InOrderOfUse (others.map fun row => row.2.socket) :=
    List.Pairwise.sublist (uses.stay.map _) order
  rw [InOrderOfUse, Gateway.mappingSockets, uses.rows, List.map_cons]
  refine rest.used made usesIt (fun early member other inside => ?_) fun other inside => ?_
  · obtain ⟨row, there, rfl⟩ := List.mem_map.mp inside
    exact unused early member row there
  · obtain ⟨row, there, rfl⟩ := List.mem_map.mp inside
    exact uses.apart row there

theorem InOrderOfUse.spared (order : before.InOrderOfUse)
    (same : after.gateway.mappingSockets = before.gateway.mappingSockets) {calls : List Call}
    (made : Makes calls before.kernel after.kernel)
    (unused : ∀ call ∈ calls, ∀ socket ∈ before.gateway.mappingSockets,
      call.uses socket = false) : after.InOrderOfUse := by
  rw [InOrderOfUse, same]
  exact Kernel.InOrderOfUse.unused order made unused

end Order

/-! ## Rounds -/

section Rounds

variable {world : World} {flow : Flow} {mapping : Mapping}

theorem apart_of_others (sound : world.Sound)
    (found : world.gateway.mappings.get? flow = some mapping) :
    ∀ row ∈ world.gateway.mappings.others flow, row.2.socket ≠ mapping.socket := by
  intro row member
  obtain ⟨there, away⟩ := List.mem_filter.mp member
  exact sound.mapping_ne_mapping there (FlowTable.mem_rows_of_get? found) (of_decide_eq_true away)

theorem onReply_uses (sound : world.Sound) {kernel : Kernel} {payload : Bytes}
    {sender : Endpoint} (found : world.gateway.mappings.get? flow = some mapping)
    (made : Makes [.receiveFrom mapping.socket Mapping.mostReceived (.ok (payload, sender))]
      world.kernel kernel) {frames : List Bytes}
    (built : mapping.replyFrames flow payload = .ok frames) :
    UsesMapping world ((world.withKernel kernel).onReply flow mapping payload) flow
      { mapping with identification := mapping.identification + 1 }
      (world.gateway.mappings.others flow) := by
  have fits := (mapping.replyFrames_isOk_iff flow).mp ⟨frames, built⟩
  let numbered : Mapping := { mapping with identification := mapping.identification + 1 }
  have there : (world.gateway.mappings.set flow numbered).get? flow = some numbered := by
    rw [FlowTable.get?_set, if_pos rfl, found, Option.map_some]
  refine ⟨?_, List.filter_sublist, fun row member => apart_of_others sound found row member,
    [], .receiveFrom mapping.socket Mapping.mostReceived (.ok (payload, sender)), ?_, ?_, by simp⟩
  · simp only [onReply, built]
    exact (FlowTable.rows_touch there).trans (by rw [FlowTable.others_set])
  · simp only [onReply, built]
    exact made
  · simp [Call.uses, fits]

theorem serveMapping_inOrder (sound : world.Sound) (order : world.InOrderOfUse) (flow : Flow)
    (ready : Readiness) : (world.serveMapping flow ready).InOrderOfUse := by
  generalize leads : world.serveMapping flow ready = after
  cases serveMapping_outcome leads with
  | idle => exact order
  | failed _ missed => exact order.spared rfl (Kernel.makes_receiveFrom missed) (by simp [Call.uses])
  | @replied mapping payload _ _ found received =>
      have made := Kernel.makes_receiveFrom received
      cases built : mapping.replyFrames flow payload with
      | ok frames => exact (onReply_uses sound found made built).inOrder order
      | error fault =>
          -- The reply is numbered, but its mapping stays where it is.
          have long : ¬ payload.length ≤ Mapping.longestReply := by
            rw [← mapping.replyFrames_isOk_iff flow, built]
            rintro ⟨_, other⟩
            cases other
          simp only [onReply, built]
          refine order.spared ?_ made (by simp [Call.uses, long])
          exact FlowTable.map_rows_set _ sound.mappings.distinct found rfl

theorem serveMappings_inOrder (turns : List (Flow × Readiness)) {world : World}
    (sound : world.Sound) (order : world.InOrderOfUse) :
    (turns.foldl (fun world (flow, ready) => world.serveMapping flow ready) world).InOrderOfUse := by
  induction turns generalizing world with
  | nil => exact order
  | cons turn rest ih =>
      exact ih (sound.steps (steps_serveMapping world turn.1 turn.2))
        (serveMapping_inOrder sound order turn.1 turn.2)

theorem mem_datagramSockets {socket : SocketId} (inside : socket ∈ world.gateway.mappingSockets) :
    socket ∈ world.gateway.datagramSockets := List.mem_append_left _ inside

/-- Neither streams nor the relay use a mapping. -/
theorem serveAll_inOrder (sound : world.Sound) (order : world.InOrderOfUse)
    (ready : List Readiness) : (world.serveAll ready).InOrderOfUse := by
  have served := serveMappings_inOrder (world.gateway.mappings.flows.zip ready) sound order
  have soundServed := sound.steps
    (steps_serveMappings (world.gateway.mappings.flows.zip ready) world)
  obtain ⟨calls, leaves, spare, kept⟩ := serveStreams_leaves
    (world.gateway.streams.flows.zip (ready.drop world.gateway.mappings.flows.length)) soundServed
  have streamed := served.spared (Gateway.mappingSockets_of_same kept) leaves.makes
    (spare.mono fun _ => mem_datagramSockets).unused
  have soundStreamed := soundServed.steps (steps_serveStreams
    (world.gateway.streams.flows.zip (ready.drop world.gateway.mappings.flows.length)) _)
  obtain ⟨relayed, leavesRelay, takes, keptRelay⟩ := serveRelay_leaves _
    ((ready.drop world.gateway.mappings.flows.length).drop world.gateway.streams.flows.length)
  refine streamed.spared (Gateway.mappingSockets_of_same keptRelay) leavesRelay.makes
    (Spare.unused ?_)
  intro call member socket inside same
  obtain ⟨relay, here, its⟩ := takes call member
  obtain ⟨row, there, rfl⟩ := List.mem_map.mp inside
  rw [its.about] at same
  exact soundStreamed.mapping_ne_relay there here (Option.some.inj same).symm

theorem poll_inOrder (sound : world.Sound) (order : world.InOrderOfUse) :
    world.poll.InOrderOfUse := by
  cases world.round_outcome with
  | failed _ made _ leads =>
      rw [leads]
      exact order.spared rfl made (by simp)
  | @served ready looked _ made _ leads =>
      have still : (world.withKernel looked).InOrderOfUse := order.spared rfl made (by simp)
      rw [leads]
      exact serveAll_inOrder (sound.looked made) still ready

end Rounds

/-! ## Frames -/

section Frames

variable {world between after : World} {flow : Flow} {mapping : Mapping}
  {others : List (Flow × Mapping)}

/-- What goes before a use may take rows away, but uses none of those that stay. -/
theorem UsesMapping.preceded (uses : UsesMapping between after flow mapping others)
    (stay : others.Sublist world.gateway.mappings.rows) {calls : List Call}
    (made : Makes calls world.kernel between.kernel)
    (unused : ∀ call ∈ calls, ∀ row ∈ others, call.uses row.2.socket = false) :
    UsesMapping world after flow mapping others := by
  obtain ⟨first, call, later, usesIt, spared⟩ := uses.used
  refine ⟨uses.rows, stay, uses.apart, calls ++ first, call, ?_, usesIt, ?_⟩
  · rw [List.append_assoc]
    exact made.trans later
  · intro early member
    rcases List.mem_append.mp member with before | behind
    · exact unused early before
    · exact spared early behind

/-- Sending the datagram of a guest is a use of its mapping, whatever comes of it. -/
theorem sendDatagram_uses (sound : world.Sound)
    (found : world.gateway.mappings.get? flow = some mapping) (payload : Bytes) :
    UsesMapping world (world.sendDatagram flow payload) flow mapping
      (world.gateway.mappings.others flow) := by
  obtain ⟨result, leaves⟩ := sendDatagram_leaves found payload
  refine ⟨?_, List.filter_sublist, apart_of_others sound found, [], _, leaves.makes, ?_, by simp⟩
  · rw [mappings_sendDatagram, FlowTable.rows_touch found]
  · exact decide_eq_true rfl

/-- The mapping that carries a datagram: the one that was there, which is taken out of its
place, or a new one, which has a new socket, numbers its replies from zero on, and takes the
place of the last one where there is no other. -/
def Picks (world : World) (flow : Flow) (mapping : Mapping) (others : List (Flow × Mapping)) :
    Prop :=
  match world.gateway.mappings.get? flow with
  | some old => mapping = old ∧ others = world.gateway.mappings.others flow
  | none =>
    mapping.identification = 0 ∧ world.kernel.sockets.length ≤ mapping.socket ∧
      world.gateway.mappings.MakesRoom others

theorem onDatagram_uses (sound : world.Sound) (positive : 0 < world.gateway.mappings.capacity)
    (sender : NicId) (guestMac : Mac) {flow : Flow} (carries : world.Carries flow)
    (payload : Bytes) :
    ∃ mapping others, Picks world flow mapping others ∧
      UsesMapping world (world.onDatagram sender guestMac flow payload) flow mapping others := by
  unfold Picks
  cases found : world.gateway.mappings.get? flow with
  | some mapping =>
      rw [onDatagram_of_some found]
      exact ⟨mapping, _, ⟨rfl, rfl⟩, sendDatagram_uses sound found payload⟩
  | none =>
      rw [onDatagram_of_none found]
      obtain ⟨calls, opened, ⟨cannot, _⟩ | ⟨_, givings, mapping, _, fresh, first, put⟩⟩ :=
        openMapping_leaves sound sender guestMac flow
      · rcases carries with ⟨mapping, there⟩ | can
        · rw [found] at there
          cases there
        · exact absurd can cannot
      · obtain ⟨others, rows, makesRoom⟩ :=
          FlowTable.rows_of_insertEvicting found positive put
        have soundOpened := sound.steps (steps_openMapping sender guestMac found)
        have uses := sendDatagram_uses soundOpened (FlowTable.get?_insertEvicting found put) payload
        rw [FlowTable.others_of_front soundOpened.mappings.distinct rows] at uses
        refine ⟨mapping, others, ⟨first, Nat.le_of_eq fresh.symm, makesRoom⟩,
          uses.preceded makesRoom.sublist opened.makes fun call member row _ => ?_⟩
        exact Call.unused_of_keepsSockets (givings call member) row.2.socket

/-- A datagram that is carried uses the mapping that carries it. -/
theorem transmit_uses (sound : world.Sound) (positive : 0 < world.gateway.mappings.capacity)
    (sender : NicId) {frame : Bytes} {flow : Flow} {payload : Bytes}
    (carried : world.Carried frame flow payload) :
    ∃ mapping others, Picks world flow mapping others ∧
      UsesMapping world (world.transmit sender frame) flow mapping others := by
  obtain ⟨⟨guest, asked⟩, carries⟩ := carried_iff.mp carried
  obtain ⟨calls, copied, passes⟩ := copies_of_asked sender asked
  have soundSpread := sound.steps (steps_spread world sender frame)
  obtain ⟨mapping, others, picks, uses⟩ := onDatagram_uses soundSpread
    (by rwa [spread_mappings]) sender guest ((carries_spread_iff ..).mpr carries) payload
  have stay := uses.stay
  unfold Picks at picks
  rw [spread_mappings] at picks stay
  refine ⟨mapping, others, ?_, ?_⟩
  · unfold Picks
    split at picks
    · exact picks
    · obtain ⟨first, fresh, makesRoom⟩ := picks
      exact ⟨first, Nat.le_trans (Kernel.length_sockets_le copied.makes) fresh, makesRoom⟩
  · rw [transmit_of_asked asked]
    refine uses.preceded stay copied.makes fun call member row inside => ?_
    exact (passes_spares sound passes).unused call member _
      (Gateway.mem_mappingSockets (stay.mem inside))

theorem transmit_inOrder (sound : world.Sound) (positive : 0 < world.gateway.mappings.capacity)
    (order : world.InOrderOfUse) (sender : NicId) (frame : Bytes) :
    (world.transmit sender frame).InOrderOfUse := by
  by_cases brings : ∃ flow payload, world.Carried frame flow payload
  · obtain ⟨flow, payload, carried⟩ := brings
    obtain ⟨mapping, others, _, uses⟩ := transmit_uses sound positive sender carried
    exact uses.inOrder order
  · obtain ⟨mappings, calls, made, spare⟩ := transmit_spares sound sender
      fun flow payload carried => brings ⟨flow, payload, carried⟩
    exact order.spared (Gateway.mappingSockets_of_same mappings) made spare.unused

end Frames

/-! ## The table -/

section Table

variable {world after : World} {happenings : List Happening}

theorem Step.capacity_mappings (step : Step world happenings after) :
    after.gateway.mappings.capacity = world.gateway.mappings.capacity := by
  cases step with
  | aside | looked | relayed | missed | mappingUsed | mappingNumbered | streamAdded
  | streamTurned | streamTouched | streamEnded => rfl
  | mappingTouched flow => exact FlowTable.capacity_touch ..
  | mappingAdded _ _ _ _ put | mappingReplaced _ _ _ _ put =>
      exact FlowTable.capacity_insertEvicting put

theorem Step.withinCapacity_mappings (sound : world.Sound)
    (positive : 0 < world.gateway.mappings.capacity) (step : Step world happenings after)
    (within : world.gateway.mappings.WithinCapacity) :
    after.gateway.mappings.WithinCapacity := by
  cases step with
  | aside | looked | relayed | missed | mappingUsed | streamAdded | streamTurned
  | streamTouched | streamEnded => exact within
  | mappingNumbered => exact within.set
  | mappingTouched flow => exact within.touch sound.mappings.distinct
  | mappingAdded absent _ _ _ put | mappingReplaced absent _ _ _ put =>
      exact within.insertEvicting absent positive put

theorem Steps.capacity_mappings (steps : Steps world happenings after) :
    after.gateway.mappings.capacity = world.gateway.mappings.capacity := by
  induction steps with
  | refl => rfl
  | more step _ ih => exact ih.trans step.capacity_mappings

theorem Steps.withinCapacity_mappings (sound : world.Sound)
    (positive : 0 < world.gateway.mappings.capacity) (steps : Steps world happenings after)
    (within : world.gateway.mappings.WithinCapacity) :
    after.gateway.mappings.WithinCapacity := by
  induction steps with
  | refl => exact within
  | more step _ ih =>
      exact ih (sound.step step) (by rwa [step.capacity_mappings])
        (step.withinCapacity_mappings sound positive within)

end Table

end World

end Masquerade
