import Masquerade.Proofs.Session.SentAgain
import Masquerade.Proofs.Stream.Pacing

/-!
# The pace of sending again

While a guest says nothing and no round finds an error, bytes that wait on a connected
stream are sent again in one of so many rounds, no more and no less.  Nothing else of the
stream changes meanwhile, and nothing is called on its socket.
-/

set_option autoImplicit false

namespace Masquerade

open World (OnlyRounds)

namespace Happening

def CountsTo (rounds : Nat) : Happening → Prop
  | .turned (.ready others _) _ _ _ => others = rounds
  | _ => True

def reportsError : Happening → Bool
  | .turned (.ready _ own) _ _ _ => own.error
  | _ => false

theorem MeetsError.reports {stream : Stream} {happening : Happening}
    (meets : happening.MeetsError stream) : happening.reportsError = true := by
  cases happening with
  | opened => cases meets
  | turned cause now before start =>
      cases cause with
      | segment => cases meets
      | ready rounds own => exact meets.2.reported

end Happening

/-! ## The number of rounds -/

namespace World

variable {world : World}

theorem transmitHappenings_countsTo (rounds : Nat) {sender : NicId} {frame : Bytes} :
    ∀ happening ∈ world.transmitHappenings sender frame, happening.CountsTo rounds := by
  intro happening member
  obtain ⟨guest, flow, segment, _, brought⟩ := asked_of_mem_transmitHappenings member
  cases broughtBy_of_mem brought with
  | turned | opened => trivial

theorem pollHappenings_countsTo (sound : world.Sound) :
    ∀ happening ∈ world.pollHappenings, happening.CountsTo world.gateway.retransmitRounds := by
  intro happening member
  obtain ⟨flow, stream, own, start, now, _, rfl⟩ := hasTurn_of_mem sound member
  rfl

end World

namespace Session

theorem history_countsTo (operations : List Operation) {world : World} (sound : world.Sound) :
    ∀ happening ∈ history world operations,
      happening.CountsTo world.gateway.retransmitRounds := by
  let Keeps (now : World) : Prop :=
    now.Sound ∧ now.gateway.retransmitRounds = world.gateway.retransmitRounds
  have keeps : ∀ {before after : World} {happenings : List Happening},
      World.Steps before happenings after → Keeps before → Keeps after :=
    fun steps kept => ⟨kept.1.steps steps, steps.sameSetUp.retransmitRounds.trans kept.2⟩
  refine history_forall keeps (fun between sender frame _ => ?_) (fun between kept => ?_)
    operations ⟨sound, rfl⟩
  · exact World.transmitHappenings_countsTo _
  · rw [← kept.2]
    exact World.pollHappenings_countsTo kept.1

end Session

theorem Life.isPaced {request : Segment} {first : Stream} {past : List Happening}
    {last : Happening} (life : Life request first past last) {rounds : Nat}
    (counts : ∀ happening ∈ past ++ [last], happening.CountsTo rounds) :
    last.stream.IsPaced rounds := by
  induction life with
  | opened opens opening unused made =>
      have unwaited : first.waitedRounds = 0 := congrArg Stream.waitedRounds opening
      exact Nat.lt_of_le_of_lt (Nat.le_of_eq unwaited) (Nat.le_max_left 1 rounds)
  | @turned past last start life goesOn undisturbed cause now ih =>
      obtain ⟨before, here⟩ := List.forall_mem_append.mp counts
      refine Stream.isPaced_turn now start life.supplied.2.1.fits (ih before) ?_
      rintro others ready rfl
      exact here _ (List.mem_singleton_self _)

/-! ## Rows of rounds -/

/-- In rounds that find no error, whatever else happens to others, a stream whose bytes
wait only counts the rounds and sends the bytes again. -/
theorem World.OnlyRounds.paced {flow : Flow} {world after : World} {rounds : List World}
    {happenings : List Happening} (only : OnlyRounds flow world rounds happenings after)
    {stream : Stream} (sound : world.Sound)
    (found : world.gateway.streams.get? flow = some stream) (phase : stream.phase = .connected)
    (waiting : stream.unacknowledged ≠ []) (fits : stream.unacknowledged.length ≤ Stream.mostRead)
    (paced : stream.IsPaced world.gateway.retransmitRounds)
    (noError : ∀ happening ∈ happenings, ¬ happening.MeetsError stream) :
    let period := world.gateway.retransmitRounds
    let count := rounds.countP World.looks
    after.gateway.streams.get? flow = some (stream.waitFor period count) ∧
      stream.Repeats period count ((happeningsOf flow happenings).flatMap Happening.frames) ∧
      ∀ happening ∈ happeningsOf flow happenings, happening.calls = [] := by
  -- The stream is general: after each round the rest begins with one that has waited longer.
  induction only generalizing stream with
  | refl world =>
      refine ⟨?_, .nothing paced, fun _ none => absurd none List.not_mem_nil⟩
      rw [List.countP_nil, Stream.waitFor_zero paced]
      exact found
  | aside steps silent _ ih =>
      have still := (steps.get?_streams_of_nil sound silent).trans found
      have later := ih (sound.steps steps) still phase waiting fits
        (steps.sameSetUp.retransmitRounds ▸ paced)
        fun happening member => noError happening (List.mem_append_right _ member)
      rw [steps.sameSetUp.retransmitRounds] at later
      unfold happeningsOf at silent later ⊢
      rwa [List.filter_append, silent, List.nil_append]
  | @round world between after rounds rest steps _ ih =>
      have noLater : ∀ happening ∈ rest, ¬ happening.MeetsError stream :=
        fun happening member => noError happening (List.mem_append_right _ member)
      unfold happeningsOf at ih ⊢
      rw [List.filter_append]
      cases looks : world.looks with
      | false =>
          have silent := World.pollHappenings_of_not_looks looks
          rw [silent] at steps ⊢
          have still := (steps.get?_streams_of_nil sound rfl).trans found
          have later := ih (sound.steps steps) still phase waiting fits
            (steps.sameSetUp.retransmitRounds ▸ paced) noLater
          rw [steps.sameSetUp.retransmitRounds] at later
          rwa [List.countP_cons_of_neg (by rw [looks]; exact Bool.false_ne_true)]
      | true =>
          obtain ⟨own, start, turns⟩ := World.hasTurn_of_looks sound looks found
          obtain ⟨now, one, here⟩ := turns.mem
          have member := List.mem_append_left rest here
          have none : ¬ stream.FindsError own start := fun finds => noError _ member ⟨rfl, finds⟩
          obtain ⟨made, goesOn, counted, repeats⟩ :=
            Stream.onReady_waits now phase waiting fits paced none
          have remains : (Happening.turned (.ready world.gateway.retransmitRounds own) now stream
              start).remains = some (stream.waitFor world.gateway.retransmitRounds 1) := by
            rw [Happening.remains, Happening.ends, Stream.turn, goesOn]
            exact congrArg some counted
          have still := (steps.get?_streams_of_singleton sound one).trans remains
          have later := ih (sound.steps steps) still phase waiting fits
            (steps.sameSetUp.retransmitRounds ▸ Stream.isPaced_waitFor 1) noLater
          rw [steps.sameSetUp.retransmitRounds] at later
          obtain ⟨found, more, quiet⟩ := later
          rw [Stream.waitFor_waitFor] at found
          unfold happeningsOf at one
          rw [one, List.countP_cons_of_pos looks, Nat.add_comm (List.countP ..) 1]
          refine ⟨found, ?_, List.forall_mem_cons.mpr ⟨made.callsSince_eq, quiet⟩⟩
          rw [List.flatMap_append, List.flatMap_singleton]
          exact repeats.append more

namespace Session

variable {start : World} {operations later : List Operation}

/-- From one table to a later one with the same stream, nothing but the happenings of the
stream calls on its socket. -/
theorem callsOn_later (new : start.IsNew) {row laterRow : Flow × Stream}
    (member : row ∈ (after start operations).gateway.streams.rows)
    (laterMember : laterRow ∈ (after start (operations ++ later)).gateway.streams.rows)
    (same : laterRow.2.socket = row.2.socket) :
    (after start (operations ++ later)).kernel.callsOn row.2.socket =
      (after start operations).kernel.callsOn row.2.socket ++
        (episode (history (after start operations) later) row.2.socket).flatMap
          Happening.calls := by
  obtain ⟨_, _, past, last, life, whole, left, undisturbed⟩ := life_of_row new member
  obtain ⟨_, _, laterPast, laterLast, laterLife, laterWhole, laterLeft, laterUndisturbed⟩ :=
    life_of_row new laterMember
  have socket : last.socket = row.2.socket := congrArg Stream.socket left
  have laterSocket : laterLast.socket = row.2.socket :=
    (congrArg Stream.socket laterLeft).trans same
  have joined : laterPast ++ [laterLast] = past ++ [last] ++
      episode (history (after start operations) later) row.2.socket := by
    rw [← laterWhole, ← whole, ← episode_append, ← history_append, same]
  rw [life.callsOn, socket] at undisturbed
  rw [laterLife.callsOn, laterSocket, joined, List.flatMap_append] at laterUndisturbed
  rw [laterUndisturbed, undisturbed]

theorem flow_of_later (new : start.IsNew) {row : Flow × Stream}
    (member : row ∈ (after start operations).gateway.streams.rows) {happening : Happening}
    (happens : happening ∈ history (after start operations) later)
    (same : happening.socket = row.2.socket) : happening.stream.flow = row.2.flow := by
  obtain ⟨request, first, past, last, life, there, left⟩ := life_of_later new member happens same
  rw [← left, life.flow last (List.mem_append_left _ there)]
  exact life.flow happening (List.mem_append_right _ (List.mem_singleton_self _))

/-- What a stream whose bytes wait does while its guest says nothing and no round finds an
error: it counts the rounds, and sends the bytes again in one of so many. -/
structure KeepsPace (world : World) (flow : Flow) (stream : Stream) (later : List Operation) :
    Prop where
  repeats : stream.Repeats world.gateway.retransmitRounds
    ((roundsIn world later).countP World.looks)
    ((happeningsOf flow (history world later)).flatMap Happening.frames)
  stays : (after world later).gateway.streams.get? flow = some
    (stream.waitFor world.gateway.retransmitRounds ((roundsIn world later).countP World.looks))
  uncalled : (after world later).kernel.callsOn stream.socket = world.kernel.callsOn stream.socket

/-- The rounds that bytes have waited are always fewer than those after which they are sent
again, so that a number of 32 bits counts them; and bytes that wait on a connected stream
are sent again at just that pace.  The mailbox gets just what happenings send. -/
theorem waiting_bytes_keep_their_pace (new : start.IsNew) (operations : List Operation)
    {flow : Flow} {stream : Stream}
    (found : (after start operations).gateway.streams.get? flow = some stream) :
    let world := after start operations
    stream.waitedRounds < max 1 world.gateway.retransmitRounds ∧
      (world.gateway.retransmitRounds < UInt32.size → stream.waitedRounds + 1 < UInt32.size) ∧
      (stream.phase = .connected → stream.unacknowledged ≠ [] →
        ∀ later, Silent world.gateway.subnet flow later →
          (∀ happening ∈ history world later, ¬ happening.MeetsError stream) →
          KeepsPace world flow stream later) ∧
      world.QueuesAsItHappens := by
  intro world
  have sound : world.Sound := sound_after new operations
  have member := FlowTable.mem_rows_of_get? found
  obtain ⟨request, first, past, last, life, whole, left, _⟩ := life_of_row new member
  have left : last.stream = stream := left
  have buffered := life.supplied.2.1
  rw [left] at buffered
  have paced : stream.IsPaced world.gateway.retransmitRounds := by
    rw [← left, (steps_after operations start).sameSetUp.retransmitRounds]
    refine life.isPaced fun happening inside => ?_
    rw [← whole] at inside
    exact history_countsTo operations new.sound happening (List.mem_of_mem_filter inside)
  refine ⟨paced, fun small => ?_, fun phase waiting later silent noError => ?_,
    sound.queuesAsItHappens⟩
  · unfold Stream.IsPaced at paced
    unfold UInt32.size at small ⊢
    omega
  obtain ⟨stays, repeats, quiet⟩ := (onlyRounds_after sound silent).paced sound found phase waiting
    buffered.fits paced noError
  refine ⟨repeats, stays, ?_⟩
  have laterMember := FlowTable.mem_rows_of_get? stays
  rw [← after_append] at laterMember
  have called := callsOn_later new member laterMember rfl
  have none : (episode (history world later) stream.socket).flatMap Happening.calls = [] := by
    refine List.flatMap_eq_nil_iff.mpr fun happening inside => ?_
    obtain ⟨happens, same⟩ := List.mem_filter.mp inside
    have ofFlow := (flow_of_later new member happens (of_decide_eq_true same)).trans
      (sound.streams.get found)
    exact quiet happening (List.mem_filter.mpr ⟨happens, decide_eq_true ofFlow⟩)
  rw [none, List.append_nil, after_append] at called
  exact called

/-! ## A guest that stays away -/

def patient : World :=
  let plain := World.plain (NameService.load none)
  { plain with gateway := { plain.gateway with retransmitRounds := 2 } }

theorem patient_isNew : patient.IsNew := ⟨{ retransmitRounds := 2 }, [], none, [], [], rfl⟩

theorem conversation_keeps_its_pace :
    patient.IsNew ∧ ∃ stream,
      (after patient conversation).gateway.streams.get? conversationFlow = some stream ∧
      stream.unacknowledged = [1, 2, 3] ∧
      ((happeningsOf conversationFlow (history (after patient conversation) [.poll 5])).flatMap
        Happening.frames).length = 2 ∧
      KeepsPace (after patient conversation) conversationFlow stream [.poll 5] := by
  have waits : ((after patient conversation).gateway.streams.get? conversationFlow).any
      (fun stream => stream.phase = .connected ∧ stream.unacknowledged = [1, 2, 3] ∧
        stream.waitedRounds = 0) = true := by
    decide +kernel
  have quiet : ∀ happening ∈ history (after patient conversation) [.poll 5],
      happening.reportsError = false := by
    decide +kernel
  have looks : (roundsIn (after patient conversation) [.poll 5]).countP World.looks = 5 := by
    decide +kernel
  obtain ⟨stream, found, there⟩ := (Option.any_eq_true ..).mp waits
  obtain ⟨connected, bytes, unwaited⟩ := of_decide_eq_true there
  have waiting : stream.unacknowledged ≠ [] := by
    rw [bytes]
    exact List.cons_ne_nil 1 [2, 3]
  have noError : ∀ happening ∈ history (after patient conversation) [.poll 5],
      ¬ happening.MeetsError stream := by
    intro happening member meets
    have reports := meets.reports
    rw [quiet happening member] at reports
    cases reports
  have keeps := (waiting_bytes_keep_their_pace patient_isNew conversation found).2.2.1 connected
    waiting [.poll 5] (silent_poll _ _ 5) noError
  refine ⟨patient_isNew, stream, found, bytes, ?_, keeps⟩
  rw [keeps.repeats.often, looks, unwaited]
  rfl

end Session

end Masquerade
