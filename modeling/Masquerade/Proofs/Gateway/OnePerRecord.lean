import Masquerade.Proofs.Gateway.SingleAnswers

/-!
# One each in a round

In a round each stream that is there sends one frame at most and reads once at most, and each
mapping takes one datagram at most.  What comes of them stands in the order of the tables.
Only the relay is emptied.
-/

set_option autoImplicit false

namespace Masquerade

open Kernel (Makes MakesOnly Readiness)

/-! ## One each -/

/-- The results belong to different records, in the order of these; a record may have none. -/
inductive OneEach {Record Result : Type} (Belongs : Record → Result → Prop) :
    List Record → List Result → Prop
  | nil : OneEach Belongs [] []
  | none {record : Record} {records : List Record} {results : List Result}
      (rest : OneEach Belongs records results) : OneEach Belongs (record :: records) results
  | one {record : Record} {result : Result} {records : List Record} {results : List Result}
      (belongs : Belongs record result) (rest : OneEach Belongs records results) :
      OneEach Belongs (record :: records) (result :: results)

namespace OneEach

variable {Record Result Other : Type} {Belongs : Record → Result → Prop}
  {Concerns : Record → Other → Prop} {record : Record} {records : List Record}
  {results : List Result}

theorem nothing (records : List Record) : OneEach Belongs records [] := by
  induction records with
  | nil => exact .nil
  | cons record rest ih => exact .none ih

theorem append {first : List Result} (few : first.length ≤ 1)
    (belong : ∀ result ∈ first, Belongs record result) (rest : OneEach Belongs records results) :
    OneEach Belongs (record :: records) (first ++ results) := by
  match first, few with
  | [], _ => exact .none rest
  | [result], _ => exact .one (belong result (List.mem_singleton_self result)) rest

theorem flatMap {bring : Result → List Other} (each : OneEach Belongs records results)
    (few : ∀ record ∈ records, ∀ result, Belongs record result →
      (bring result).length ≤ 1 ∧ ∀ other ∈ bring result, Concerns record other) :
    OneEach Concerns records (results.flatMap bring) := by
  induction each with
  | nil => exact .nil
  | none rest ih =>
      exact .none (ih fun record member => few record (List.mem_cons_of_mem _ member))
  | @one record result _ _ belongs rest ih =>
      obtain ⟨atMost, concern⟩ := few record (List.mem_cons_self ..) result belongs
      rw [List.flatMap_cons]
      exact .append atMost concern
        (ih fun record member => few record (List.mem_cons_of_mem _ member))

theorem exists_of_mem (each : OneEach Belongs records results) {result : Result}
    (member : result ∈ results) : ∃ record ∈ records, Belongs record result := by
  induction each with
  | nil => cases member
  | none rest ih =>
      obtain ⟨record, there, belongs⟩ := ih member
      exact ⟨record, List.mem_cons_of_mem _ there, belongs⟩
  | one belongs rest ih =>
      rcases List.mem_cons.mp member with rfl | later
      · exact ⟨_, List.mem_cons_self .., belongs⟩
      · obtain ⟨record, there, belongs⟩ := ih later
        exact ⟨record, List.mem_cons_of_mem _ there, belongs⟩

end OneEach

def TurnOf (row : Flow × Stream) (happening : Happening) : Prop :=
  ∃ rounds ready now start, happening = .turned (.ready rounds ready) now row.2 start

def Call.isReceiveFrom : Call → Bool
  | .receiveFrom _ _ _ => true
  | _ => false

theorem Call.TakesFrom.isReceiveFrom {socket : SocketId} {call : Call}
    (takes : call.TakesFrom socket) : call.isReceiveFrom = true := by
  obtain ⟨most, result, rfl⟩ := takes
  rfl

theorem Stream.Move.takes_none {stream : Stream} {now : Nat} {cause : Stream.Cause}
    {calls : List Call} {sent : Stream × List Bytes} {ends : Bool}
    (move : stream.Move now cause calls sent ends) :
    ∀ call ∈ calls, call.isReceiveFrom = false := by
  cases move <;> simp [Call.isReceiveFrom]

namespace World

variable {world : World}

/-! ## Streams -/

theorem serveHappenings_oneEach (ready : Flow × Stream → Readiness)
    {rows : List (Flow × Stream)} (sound : world.Sound) (distinct : (rows.map Prod.fst).Nodup)
    (there : ∀ row ∈ rows, world.gateway.streams.get? row.1 = some row.2) :
    OneEach TurnOf rows (serveHappenings (rows.map fun row => (row.1, ready row)) world) := by
  induction rows generalizing world with
  | nil => exact .nil
  | cons row rest ih =>
      rw [List.map_cons, List.nodup_cons] at distinct
      have found := there row (List.mem_cons_self ..)
      have steps := steps_serveStream world row.1 (ready row)
      have still : ∀ other ∈ rest,
          (world.serveStream row.1 (ready row)).gateway.streams.get? other.1 = some other.2 := by
        intro other member
        have away : row.1 ≠ other.1 := fun same =>
          distinct.1 (List.mem_map.mpr ⟨other, member, same.symm⟩)
        have silent := happeningsOf_streamHappenings sound row.1 other.1 (ready row)
        rw [if_neg away] at silent
        rw [steps.get?_streams_of_nil sound silent]
        exact there other (List.mem_cons_of_mem _ member)
      rw [List.map_cons, serveHappenings, streamHappenings_of_some found]
      exact .one ⟨_, _, _, _, rfl⟩ (ih (sound.steps steps) distinct.2 still)

theorem pollHappenings_oneEach (sound : world.Sound) :
    OneEach TurnOf world.gateway.streams.rows world.pollHappenings := by
  cases succeeds : world.looks with
  | false =>
      rw [pollHappenings_of_not_looks succeeds]
      exact .nothing _
  | true =>
      obtain ⟨ready, looked, look⟩ := exists_look succeeds
      obtain ⟨between, quiet, turns⟩ := pollHappenings_of_look look
      rw [turns]
      refine serveHappenings_oneEach _ (sound.steps quiet) sound.streams.distinct ?_
      intro row member
      rw [quiet.get?_streams_of_nil sound rfl]
      exact FlowTable.get?_of_mem_rows sound.streams.distinct member

theorem pollPosts_oneEach (sound : world.Sound) (bounded : world.Bounded) :
    OneEach (fun row post => FromStream row.1 row.2 post) world.gateway.streams.rows
      (world.pollHappenings.flatMap Happening.posts) := by
  refine (pollHappenings_oneEach sound).flatMap ?_
  rintro row member _ ⟨rounds, ready, now, start, rfl⟩
  have found := FlowTable.get?_of_mem_rows sound.streams.distinct member
  have fits := bounded row.1 row.2 found
  refine ⟨Happening.length_posts_le fits .., fun post sent => ?_⟩
  have own := (Happening.posts_made fits _ now start post sent).2
  rwa [sound.streams.get found] at own

theorem readings_oneEach (sound : world.Sound) :
    OneEach (fun row call => call.socket? = some row.2.socket) world.gateway.streams.rows
      (readingsIn world.pollHappenings) := by
  refine (pollHappenings_oneEach sound).flatMap ?_
  rintro row _ _ ⟨rounds, ready, now, start, rfl⟩
  obtain ⟨calls, made, move⟩ := row.2.turn_move now start (.ready rounds ready)
  have called : Happening.calls (.turned (.ready rounds ready) now row.2 start) = calls :=
    made.callsSince_eq
  rw [called, ← List.countP_eq_length_filter]
  exact ⟨move.receives_le, fun call member =>
    (move.about_socket call (List.mem_of_mem_filter member)).1⟩

/-! ## Mappings -/

theorem serveMapping_takes_once {flow : Flow} {mapping : Mapping}
    (found : world.gateway.mappings.get? flow = some mapping) (ready : Readiness) :
    ∃ calls, Makes calls world.kernel (world.serveMapping flow ready).kernel ∧
      calls.length ≤ 1 ∧ ∀ call ∈ calls, call.TakesFrom mapping.socket := by
  generalize leads : world.serveMapping flow ready = after
  cases serveMapping_outcome leads with
  | idle => exact ⟨[], Makes.refl _, Nat.zero_le 1, by simp⟩
  | failed there missed =>
      obtain rfl := Option.some.inj (found.symm.trans there)
      exact ⟨_, Kernel.makes_receiveFrom missed, Nat.le_refl 1,
        List.forall_mem_singleton.mpr ⟨_, _, rfl⟩⟩
  | replied there received =>
      obtain rfl := Option.some.inj (found.symm.trans there)
      rw [onReply_kernel]
      exact ⟨_, Kernel.makes_receiveFrom received, Nat.le_refl 1,
        List.forall_mem_singleton.mpr ⟨_, _, rfl⟩⟩

theorem serveMappings_oneEach {rows : List (Flow × Mapping)} (ready : List Readiness)
    (distinct : (rows.map Prod.fst).Nodup)
    (there : ∀ row ∈ rows, world.gateway.mappings.get? row.1 = some row.2) :
    ∃ calls, Makes calls world.kernel (((rows.map Prod.fst).zip ready).foldl
        (fun world (flow, ready) => world.serveMapping flow ready) world).kernel ∧
      OneEach (fun row call => call.TakesFrom row.2.socket) rows calls := by
  induction rows generalizing ready world with
  | nil => exact ⟨[], Makes.refl _, .nil⟩
  | cons row rest ih =>
      cases ready with
      | nil => exact ⟨[], Makes.refl _, .nothing _⟩
      | cons turn turns =>
          rw [List.map_cons, List.nodup_cons] at distinct
          have found := there row (List.mem_cons_self ..)
          obtain ⟨first, made, few, takes⟩ := serveMapping_takes_once found turn
          obtain ⟨_, _, _, _, others⟩ := serveMapping_leaves turn found
          have still : ∀ other ∈ rest,
              (world.serveMapping row.1 turn).gateway.mappings.get? other.1 = some other.2 := by
            intro other member
            have away : other.1 ≠ row.1 := fun same =>
              distinct.1 (same ▸ List.mem_map_of_mem member)
            rw [others other.1 away]
            exact there other (List.mem_cons_of_mem _ member)
          obtain ⟨later, madeLater, each⟩ := ih turns distinct.2 still
          exact ⟨first ++ later, made.trans madeLater, each.append few takes⟩

/-! ## Rounds -/

theorem serveStreams_take_none (turns : List (Flow × Readiness)) (world : World) :
    MakesOnly (fun call => call.isReceiveFrom = false) world.kernel
      (turns.foldl (fun world (flow, ready) => world.serveStream flow ready) world).kernel := by
  induction turns generalizing world with
  | nil => exact .refl _ world.kernel
  | cons turn rest ih =>
      have turned : ∀ (stream : Stream) (now : Nat) (kernel : Kernel) (cause : Stream.Cause),
          MakesOnly (fun call => call.isReceiveFrom = false) kernel
            (stream.turn now kernel cause).kernel := by
        intro stream now kernel cause
        obtain ⟨calls, made, move⟩ := stream.turn_move now kernel cause
        exact ⟨calls, made, move.takes_none⟩
      exact .trans (serveStream_makesOnly (fun _ => rfl) turned world turn.1 turn.2)
        (ih (world.serveStream turn.1 turn.2))

/-- The calls of a round come in three parts: each mapping takes one datagram at most, the
streams take none, and the relay takes its own. -/
theorem poll_calls (sound : world.Sound) :
    ∃ taken streamed relayed,
      world.poll.kernel.callsSince world.kernel = taken ++ streamed ++ relayed ∧
      OneEach (fun row call => call.TakesFrom row.2.socket) world.gateway.mappings.rows taken ∧
      (∀ call ∈ streamed, call.isReceiveFrom = false) ∧
      ∀ call ∈ relayed, ∃ relay, world.gateway.relay = some relay ∧
        call.TakesFrom relay.socket := by
  cases world.round_outcome with
  | failed _ made _ leads =>
      have run : world.poll.kernel.callsSince world.kernel = [] := by
        rw [leads]
        exact made.callsSince_eq
      exact ⟨[], [], [], run, .nothing _, by simp, by simp⟩
  | @served ready looked _ made _ leads =>
      have there : ∀ row ∈ world.gateway.mappings.rows,
          (world.withKernel looked).gateway.mappings.get? row.1 = some row.2 :=
        fun row member => FlowTable.get?_of_mem_rows sound.mappings.distinct member
      obtain ⟨taken, mapped, each⟩ := serveMappings_oneEach ready sound.mappings.distinct there
      let afterMappings := (world.gateway.mappings.flows.zip ready).foldl
        (fun world (flow, ready) => world.serveMapping flow ready) (world.withKernel looked)
      let forStreams := ready.drop world.gateway.mappings.flows.length
      obtain ⟨streamed, turned, none⟩ := serveStreams_take_none
        (world.gateway.streams.flows.zip forStreams) afterMappings
      obtain ⟨relayed, leaves, takes, _⟩ := serveRelay_leaves
        ((world.gateway.streams.flows.zip forStreams).foldl
          (fun world (flow, ready) => world.serveStream flow ready) afterMappings)
        (forStreams.drop world.gateway.streams.flows.length)
      have steps := (steps_serveMappings (world.gateway.mappings.flows.zip ready)
        (world.withKernel looked)).trans (steps_serveStreams
          (world.gateway.streams.flows.zip forStreams) afterMappings)
      have whole := made.trans ((mapped.trans turned).trans leaves.makes)
      refine ⟨taken, streamed, relayed, ?_, each, none, fun call member => ?_⟩
      · rw [leads]
        exact whole.callsSince_eq
      · obtain ⟨relay, here, takesOne⟩ := takes call member
        exact ⟨relay, steps.sameSetUp.relay.symm.trans here, takesOne⟩

/-- Of the datagrams that are taken in a round, each mapping takes one at most; the others are
those of the relay. -/
theorem poll_takes (sound : world.Sound) :
    ∃ taken relayed, (world.poll.kernel.callsSince world.kernel).filter Call.isReceiveFrom =
        taken ++ relayed ∧
      OneEach (fun row call => call.TakesFrom row.2.socket) world.gateway.mappings.rows taken ∧
      ∀ call ∈ relayed, ∃ relay, world.gateway.relay = some relay ∧
        call.TakesFrom relay.socket := by
  obtain ⟨taken, streamed, relayed, run, each, none, its⟩ := poll_calls sound
  have all : taken.filter Call.isReceiveFrom = taken := by
    refine List.filter_eq_self.mpr fun call member => ?_
    obtain ⟨_, _, takesOne⟩ := each.exists_of_mem member
    exact takesOne.isReceiveFrom
  have no : streamed.filter Call.isReceiveFrom = [] :=
    List.filter_eq_nil_iff.mpr fun call member => by simp [none call member]
  have rest : relayed.filter Call.isReceiveFrom = relayed := by
    refine List.filter_eq_self.mpr fun call member => ?_
    obtain ⟨_, _, takesOne⟩ := its call member
    exact takesOne.isReceiveFrom
  refine ⟨taken, relayed, ?_, each, its⟩
  rw [run, List.filter_append, List.filter_append, all, no, rest, List.append_nil]

/-- In a round each stream sends one frame at most, between the replies of the mappings and
what the relay brings, and reads once at most; and each mapping takes one datagram at most. -/
structure ServesOnce (world : World) : Prop where
  sends : ∃ made, world.poll.gateway.mailbox.entries = world.gateway.mailbox.entries ++
      (world.gateway.replyPostsOn (world.poll.kernel.callsSince world.kernel) ++ made ++
        world.gateway.relayPostsOn (world.poll.kernel.callsSince world.kernel)) ∧
    OneEach (fun row post => FromStream row.1 row.2 post) world.gateway.streams.rows made
  reads : OneEach (fun row call => call.socket? = some row.2.socket) world.gateway.streams.rows
    ((world.poll.kernel.callsSince world.kernel).filter Call.isReceive)
  takes : ∃ taken relayed, (world.poll.kernel.callsSince world.kernel).filter
      Call.isReceiveFrom = taken ++ relayed ∧
    OneEach (fun row call => call.TakesFrom row.2.socket) world.gateway.mappings.rows taken ∧
    ∀ call ∈ relayed, ∃ relay, world.gateway.relay = some relay ∧ call.TakesFrom relay.socket

theorem poll_servesOnce (sound : world.Sound) (bounded : world.Bounded) : world.ServesOnce where
  sends := by
    obtain ⟨calls, leaves, _⟩ := poll_leaves sound
    rw [leaves.makes.callsSince_eq]
    exact ⟨_, leaves.mailbox, pollPosts_oneEach sound bounded⟩
  reads := by
    obtain ⟨calls, made, reads⟩ := readsIn_poll world
    rw [made.callsSince_eq, reads]
    exact readings_oneEach sound
  takes := poll_takes sound

end World

end Masquerade
