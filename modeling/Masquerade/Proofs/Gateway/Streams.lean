import Masquerade.Proofs.Gateway.Poll
import Masquerade.Proofs.Gateway.Sound

/-!
# The table of streams

Nothing but happenings writes to the table of streams: the entry of a flow is what the
last happening of its stream has left.  In a round whose look succeeds every stream
has exactly one turn, with what was found out about its socket.
-/

set_option autoImplicit false

namespace Masquerade

open Kernel (Readiness)

namespace Happening

def remains (happening : Happening) : Option Stream :=
  if happening.ends then none else some happening.stream

def write (flow : Flow) (entry : Option Stream) (happening : Happening) : Option Stream :=
  if happening.stream.flow = flow then happening.remains else entry

theorem flow_turned (cause : Stream.Cause) (now : Nat) (before : Stream) (start : Kernel) :
    (Happening.turned cause now before start).stream.flow = before.flow := by
  obtain ⟨calls, _, move⟩ := before.turn_move now start cause
  exact move.parties.flow

end Happening

def happeningsOf (flow : Flow) (happenings : List Happening) : List Happening :=
  happenings.filter fun happening => happening.stream.flow = flow

theorem foldl_write_eq (flow : Flow) (entry : Option Stream) (happenings : List Happening) :
    happenings.foldl (Happening.write flow) entry =
      (happeningsOf flow happenings).foldl (fun _ happening => happening.remains) entry := by
  induction happenings generalizing entry with
  | nil => rfl
  | cons happening rest ih =>
      rw [List.foldl_cons, ih]
      by_cases about : happening.stream.flow = flow <;>
        simp [happeningsOf, Happening.write, about]

namespace World

/-! ## Entries after a step -/

theorem Step.get?_streams {world after : World} {happenings : List Happening}
    (sound : world.Sound) (step : Step world happenings after) (flow : Flow) :
    after.gateway.streams.get? flow =
      happenings.foldl (Happening.write flow) (world.gateway.streams.get? flow) := by
  cases step with
  | aside | looked | relayed | missed | mappingUsed | mappingNumbered | mappingTouched
  | mappingAdded | mappingReplaced => rfl
  | streamAdded absent opens opening made put => exact FlowTable.get?_insert? put flow
  | @streamTurned own stream cause now found goesOn =>
      have same := (Happening.flow_turned cause now stream world.kernel).trans
        (sound.streams.get found)
      have stays : (Happening.turned cause now stream world.kernel).remains =
          some (stream.turn now world.kernel cause).stream := by
        rw [Happening.remains, if_neg (by rw [Happening.ends, goesOn]; decide)]
        rfl
      rw [List.foldl_cons, List.foldl_nil, Happening.write, same, stays]
      refine (FlowTable.get?_set ..).trans ?_
      rw [found]
      rfl
  | streamTouched other => exact FlowTable.get?_touch ..
  | @streamEnded own stream cause now found ends =>
      have same := (Happening.flow_turned cause now stream world.kernel).trans
        (sound.streams.get found)
      have gone : (Happening.turned cause now stream world.kernel).remains = none := if_pos ends
      rw [List.foldl_cons, List.foldl_nil, Happening.write, same, gone]
      exact FlowTable.get?_remove ..

theorem Steps.get?_streams {world after : World} {happenings : List Happening}
    (sound : world.Sound) (steps : Steps world happenings after) (flow : Flow) :
    after.gateway.streams.get? flow =
      happenings.foldl (Happening.write flow) (world.gateway.streams.get? flow) := by
  induction steps with
  | refl => rfl
  | more step _ ih => rw [List.foldl_append, ← step.get?_streams sound flow, ih (sound.step step)]

theorem Steps.get?_streams_of_nil {world after : World} {happenings : List Happening}
    (sound : world.Sound) (steps : Steps world happenings after) {flow : Flow}
    (none : happeningsOf flow happenings = []) :
    after.gateway.streams.get? flow = world.gateway.streams.get? flow := by
  rw [steps.get?_streams sound, foldl_write_eq, none]
  rfl

theorem Steps.get?_streams_of_singleton {world after : World} {happenings : List Happening}
    {happening : Happening} (sound : world.Sound) (steps : Steps world happenings after)
    {flow : Flow} (one : happeningsOf flow happenings = [happening]) :
    after.gateway.streams.get? flow = happening.remains := by
  rw [steps.get?_streams sound, foldl_write_eq, one]
  rfl

/-! ## Turns in a round -/

theorem happeningsOf_streamHappenings {world : World} (sound : world.Sound) (flow other : Flow)
    (ready : Readiness) :
    happeningsOf other (world.streamHappenings flow ready) =
      if flow = other then world.streamHappenings flow ready else [] := by
  simp only [streamHappenings, happeningsOf]
  cases found : world.gateway.streams.get? flow with
  | none => simp
  | some stream =>
      have same := (Happening.flow_turned (.ready world.gateway.retransmitRounds ready)
        (world.gateway.clock + 1) stream world.kernel).trans (sound.streams.get found)
      by_cases here : flow = other <;> simp [same, here]

theorem happeningsOf_serveHappenings_of_not_mem {turns : List (Flow × Readiness)} {world : World}
    (sound : world.Sound) {flow : Flow} (absent : flow ∉ turns.map Prod.fst) :
    happeningsOf flow (serveHappenings turns world) = [] := by
  induction turns generalizing world with
  | nil => rfl
  | cons turn rest ih =>
      obtain ⟨other, ready⟩ := turn
      rw [List.map_cons, List.mem_cons, not_or] at absent
      have later := ih (sound.steps (steps_serveStream world other ready)) absent.2
      have first := happeningsOf_streamHappenings sound other flow ready
      rw [if_neg fun same => absent.1 same.symm] at first
      rw [happeningsOf] at first later ⊢
      rw [serveHappenings, List.filter_append, first, later]
      rfl

/-- Among turns of different flows, each stream that is there has its own. -/
theorem happeningsOf_serveHappenings {turns : List (Flow × Readiness)} {world : World}
    {flow : Flow} {ready : Readiness} {stream : Stream} (sound : world.Sound)
    (distinct : (turns.map Prod.fst).Nodup) (member : (flow, ready) ∈ turns)
    (found : world.gateway.streams.get? flow = some stream) :
    ∃ now start, happeningsOf flow (serveHappenings turns world) =
      [.turned (.ready world.gateway.retransmitRounds ready) now stream start] := by
  induction turns generalizing world with
  | nil => cases member
  | cons turn rest ih =>
      obtain ⟨other, theirs⟩ := turn
      rw [List.map_cons, List.nodup_cons] at distinct
      have first := happeningsOf_streamHappenings sound other flow theirs
      have steps := steps_serveStream world other theirs
      rcases List.mem_cons.mp member with here | later
      · cases here
        have silent := happeningsOf_serveHappenings_of_not_mem (sound.steps steps) distinct.1
        have turned := streamHappenings_of_some found ready
        refine ⟨world.gateway.clock + 1, world.kernel, ?_⟩
        rw [if_pos rfl, turned, happeningsOf] at first
        rw [happeningsOf] at silent ⊢
        rw [serveHappenings, List.filter_append, turned, first, silent, List.append_nil]
      · have away : other ≠ flow := by
          rintro rfl
          exact distinct.1 (List.mem_map.mpr ⟨_, later, rfl⟩)
        rw [if_neg away] at first
        have still : (world.serveStream other theirs).gateway.streams.get? flow = some stream :=
          (steps.get?_streams_of_nil sound first).trans found
        obtain ⟨now, start, one⟩ := ih (sound.steps steps) distinct.2 later still
        rw [steps.sameSetUp.retransmitRounds] at one
        refine ⟨now, start, ?_⟩
        rw [happeningsOf] at first one ⊢
        rw [serveHappenings, List.filter_append, first, one]
        rfl

theorem readiness_ok {kernel after : Kernel} {interests : List Kernel.Interest}
    {ready : List Readiness} (look : kernel.readiness interests = (.ok ready, after)) :
    ready = interests.map after.readinessOf := by
  simp only [Kernel.readiness] at look
  split at look
  · rename_i empty
    cases look
    rw [List.isEmpty_iff.mp empty]
    rfl
  · simp only [Kernel.pollOnce] at look
    split at look <;> cases look
    rfl

theorem turns_eq {gateway : Gateway} {kernel : Kernel} :
    gateway.streams.flows.zip (((interests gateway).map kernel.readinessOf).drop
        gateway.mappings.flows.length) =
      gateway.streams.rows.map fun row =>
        (row.1, kernel.readinessOf ⟨row.2.socket, true, true⟩) := by
  have front : (gateway.mappings.rows.map fun row =>
      (⟨row.2.socket, true, false⟩ : Kernel.Interest)).length = gateway.mappings.flows.length := by
    rw [FlowTable.flows_eq, List.length_map, List.length_map]
  rw [← List.map_drop, interests, List.append_assoc, List.drop_left' front, List.map_append,
    List.map_map, FlowTable.flows_eq]
  generalize (gateway.relay.toList.map fun relay =>
    (⟨relay.socket, true, false⟩ : Kernel.Interest)).map kernel.readinessOf = rest
  induction gateway.streams.rows with
  | nil => rfl
  | cons row others ih => exact congrArg (List.cons _) ih

theorem pollHappenings_of_look {world : World} {ready : List Readiness} {looked : Kernel}
    (look : world.kernel.readiness (interests world.gateway) = (.ok ready, looked)) :
    ∃ between, Steps world [] between ∧
      world.pollHappenings = serveHappenings (world.gateway.streams.rows.map fun row =>
        (row.1, looked.readinessOf ⟨row.2.socket, true, true⟩)) between := by
  have mapped := (steps_looked (makes_of_look look)).after_quiet
    (steps_serveMappings (world.gateway.mappings.flows.zip ready) (world.withKernel looked))
  refine ⟨_, mapped, ?_⟩
  rw [← turns_eq, ← readiness_ok look]
  simp only [pollHappenings, look]
  rfl

/-- In a round whose look succeeds, every stream that is there has one turn. -/
theorem happeningsOf_pollHappenings {world : World} (sound : world.Sound)
    {ready : List Readiness} {looked : Kernel}
    (look : world.kernel.readiness (interests world.gateway) = (.ok ready, looked)) {flow : Flow}
    {stream : Stream} (found : world.gateway.streams.get? flow = some stream) :
    ∃ now start, happeningsOf flow world.pollHappenings =
      [.turned (.ready world.gateway.retransmitRounds
        (looked.readinessOf ⟨stream.socket, true, true⟩)) now stream start] := by
  obtain ⟨between, quiet, turns⟩ := pollHappenings_of_look look
  have still := (quiet.get?_streams_of_nil sound rfl).trans found
  rw [turns, ← quiet.sameSetUp.retransmitRounds]
  refine happeningsOf_serveHappenings (sound.steps quiet) ?_ ?_ still
  · rw [List.map_map]
    exact sound.streams.distinct
  · exact List.mem_map.mpr ⟨(flow, stream), FlowTable.mem_rows_of_get? found, rfl⟩

theorem happeningsOf_pollHappenings_of_none {world : World} (sound : world.Sound) {flow : Flow}
    (absent : world.gateway.streams.get? flow = none) :
    happeningsOf flow world.pollHappenings = [] := by
  cases world.round_outcome with
  | failed _ _ silent =>
      rw [silent]
      rfl
  | served look =>
      obtain ⟨between, quiet, turns⟩ := pollHappenings_of_look look
      rw [turns]
      refine happeningsOf_serveHappenings_of_not_mem (sound.steps quiet) ?_
      rw [List.map_map]
      exact (FlowTable.get?_eq_none_iff ..).mp absent

end World

end Masquerade
