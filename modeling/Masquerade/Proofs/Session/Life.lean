import Masquerade.Proofs.Gateway.SetUp
import Masquerade.Proofs.Session.Steps

/-!
# The life of a stream

What happened to one socket is the life of one stream: its opening and then turn
after turn, each beginning with the stream that the last one left.  Between two
turns nothing is called on the socket.  The streams in the table are those whose
life goes on.
-/

set_option autoImplicit false

namespace Masquerade

open Kernel (Makes)
open World (Step Steps Sound)

/-- `last` is what happened to a stream after all of `past`; the stream was `first` when
`request` had opened it. -/
inductive Life (request : Segment) (first : Stream) : List Happening → Happening → Prop
  | opened {start finish : Kernel} {result : Except Errno Unit} (opens : request.opens = true)
      (opening : first = Stream.opening first.owner first.guestMac first.flow first.socket
        request first.outsideNext)
      (unused : start.callsOn first.socket = [])
      (made : Makes [.socket .stream (.ok first.socket),
        .connect first.socket first.flow.outside result] start finish) :
      Life request first [] (.opened request first start finish)
  | turned {past : List Happening} {last : Happening} {start : Kernel}
      (life : Life request first past last) (goesOn : last.ends = false)
      (undisturbed : start.callsOn last.socket = last.finish.callsOn last.socket)
      (cause : Stream.Cause) (now : Nat) :
      Life request first (past ++ [last]) (.turned cause now last.stream start)

structure BeginsWith (request : Segment) (first : Stream) (happenings : List Happening) : Prop where
  opens : request.opens = true
  opening : first = Stream.opening first.owner first.guestMac first.flow first.socket
    request first.outsideNext
  head : ∃ start finish rest, happenings = .opened request first start finish :: rest

/-- What happened to the stream of a socket. -/
def episode (history : List Happening) (socket : SocketId) : List Happening :=
  history.filter (fun happening => happening.socket = socket)

theorem episode_append (first second : List Happening) (socket : SocketId) :
    episode (first ++ second) socket = episode first socket ++ episode second socket :=
  List.filter_append ..

theorem episode_singleton_self (happening : Happening) :
    episode [happening] happening.socket = [happening] := by
  simp [episode]

theorem episode_singleton_other {happening : Happening} {socket : SocketId}
    (away : happening.socket ≠ socket) : episode [happening] socket = [] := by
  simp [episode, away]

theorem Happening.socket_turned (cause : Stream.Cause) (now : Nat) (before : Stream)
    (start : Kernel) : Happening.socket (.turned cause now before start) = before.socket :=
  before.turn_socket now start cause

theorem callsOn_opened {first : Stream} {start finish : Kernel} {result : Except Errno Unit}
    (unused : start.callsOn first.socket = [])
    (made : Makes [.socket .stream (.ok first.socket),
      .connect first.socket first.flow.outside result] start finish) :
    finish.callsOn first.socket = [.socket .stream (.ok first.socket),
      .connect first.socket first.flow.outside result] := by
  rw [made.callsOn_of_about (by simp [Call.socket?]), unused, List.nil_append]

theorem Happening.turned_calls (cause : Stream.Cause) (now : Nat) (before : Stream)
    (start : Kernel) :
    let turned : Happening := .turned cause now before start
    ∃ calls, Makes calls start turned.finish ∧
      before.Move now cause calls (turned.stream, turned.frames) turned.ends ∧
      turned.calls = calls ∧
      turned.finish.callsOn turned.socket = start.callsOn before.socket ++ calls := by
  intro turned
  obtain ⟨calls, made, move⟩ := before.turn_move now start cause
  refine ⟨calls, made, move, made.callsSince_eq, ?_⟩
  rw [socket_turned]
  exact made.callsOn_of_about fun call member => (move.about_socket call member).1

namespace Life

variable {request : Segment} {first : Stream} {past : List Happening} {last : Happening}

theorem earlier (life : Life request first past last) {before after : List Happening}
    {happening : Happening} (split : past ++ [last] = before ++ happening :: after) :
    Life request first before happening := by
  induction life generalizing after with
  | opened opens opening unused made =>
      rw [List.nil_append] at split
      obtain ⟨rfl, same⟩ | ⟨rest, rfl, same⟩ := List.cons_eq_append_iff.mp split
      · cases same
        exact .opened opens opening unused made
      · cases rest <;> cases same
  | @turned past last start life goesOn undisturbed cause now ih =>
      rcases List.eq_nil_or_concat after with rfl | ⟨inside, final, rfl⟩
      · obtain ⟨rfl, same⟩ := List.append_inj' split rfl
        cases same
        exact .turned life goesOn undisturbed cause now
      · rw [List.concat_eq_append, ← List.cons_append, ← List.append_assoc] at split
        exact ih (List.append_inj' split rfl).1

theorem beginsWith (life : Life request first past last) :
    BeginsWith request first (past ++ [last]) := by
  induction life with
  | @opened start finish result opens opening => exact ⟨opens, opening, start, finish, [], rfl⟩
  | turned _ _ _ cause now ih =>
      obtain ⟨start, finish, rest, whole⟩ := ih.head
      refine ⟨ih.opens, ih.opening, start, finish, ?_⟩
      rw [whole]
      exact ⟨_, rfl⟩

/-- All that is called on the socket is called in the life of its stream. -/
theorem callsOn (life : Life request first past last) :
    last.finish.callsOn last.socket = (past ++ [last]).flatMap Happening.calls := by
  induction life with
  | opened opens opening unused made =>
      rw [List.nil_append, List.flatMap_singleton]
      exact (callsOn_opened unused made).trans made.callsSince_eq.symm
  | @turned past last start life goesOn undisturbed cause now ih =>
      obtain ⟨calls, _, _, called, callsOn⟩ := Happening.turned_calls cause now last.stream start
      have before : start.callsOn last.stream.socket = (past ++ [last]).flatMap Happening.calls :=
        undisturbed.trans ih
      rw [callsOn, before, ← called]
      simp only [List.flatMap_append, List.flatMap_singleton]

theorem flow (life : Life request first past last) :
    ∀ happening ∈ past ++ [last], happening.stream.flow = first.flow := by
  induction life with
  | opened => exact List.forall_mem_singleton.mpr rfl
  | @turned past last start life goesOn undisturbed cause now ih =>
      obtain ⟨calls, _, move⟩ := last.stream.turn_move now start cause
      have before : last.stream.flow = first.flow :=
        ih last (List.mem_append_right _ (List.mem_singleton_self _))
      exact List.forall_mem_append.mpr
        ⟨ih, List.forall_mem_singleton.mpr (move.parties.flow.trans before)⟩

end Life

/-! ## The lives in a history -/

structure IsCurrent (history : List Happening) (kernel : Kernel) (stream : Stream)
    (past : List Happening) (last : Happening) : Prop where
  episode : episode history stream.socket = past ++ [last]
  life : ∃ request first, Life request first past last
  left : last.stream = stream
  goesOn : last.ends = false
  undisturbed : kernel.callsOn stream.socket = last.finish.callsOn stream.socket

/-- The history tells of whole lives, and of all streams in the table. -/
structure Tracks (history : List Happening) (world : World) : Prop where
  lives : ∀ socket past last, episode history socket = past ++ [last] →
    ∃ request first, Life request first past last
  given : ∀ happening ∈ history, happening.socket < world.kernel.sockets.length
  current : ∀ row ∈ world.gateway.streams.rows,
    ∃ past last, IsCurrent history world.kernel row.2 past last

namespace Tracks

variable {history : List Happening} {world after : World}

theorem quiet (tracks : Tracks history world)
    (more : world.kernel.sockets.length ≤ after.kernel.sockets.length)
    (rows : ∀ row ∈ after.gateway.streams.rows, row ∈ world.gateway.streams.rows ∧
      after.kernel.callsOn row.2.socket = world.kernel.callsOn row.2.socket) :
    Tracks history after where
  lives := tracks.lives
  given := fun happening member => Nat.lt_of_lt_of_le (tracks.given happening member) more
  current := by
    intro row member
    obtain ⟨before, away⟩ := rows row member
    obtain ⟨past, last, current⟩ := tracks.current row before
    exact ⟨past, last, current.episode, current.life, current.left, current.goesOn,
      away.trans current.undisturbed⟩

theorem happened {new : Happening} (tracks : Tracks history world)
    (life : ∃ request first, Life request first (episode history new.socket) new)
    (more : world.kernel.sockets.length ≤ after.kernel.sockets.length)
    (given : new.socket < after.kernel.sockets.length)
    (rows : ∀ row ∈ after.gateway.streams.rows,
      (row ∈ world.gateway.streams.rows ∧ row.2.socket ≠ new.socket ∧
        after.kernel.callsOn row.2.socket = world.kernel.callsOn row.2.socket) ∨
      (row.2 = new.stream ∧ new.ends = false ∧
        after.kernel.callsOn new.socket = new.finish.callsOn new.socket)) :
    Tracks (history ++ [new]) after where
  lives := by
    intro socket past last whole
    rw [episode_append] at whole
    by_cases here : new.socket = socket
    · subst here
      rw [episode_singleton_self] at whole
      obtain ⟨rfl, same⟩ := List.append_inj' whole rfl
      cases same
      exact life
    · rw [episode_singleton_other here, List.append_nil] at whole
      exact tracks.lives socket past last whole
  given := by
    intro happening member
    rcases List.mem_append.mp member with old | new
    · exact Nat.lt_of_lt_of_le (tracks.given happening old) more
    · rw [List.mem_singleton.mp new]
      exact given
  current := by
    intro row member
    rcases rows row member with ⟨before, away, undisturbed⟩ | ⟨left, goesOn, undisturbed⟩
    · obtain ⟨past, last, current⟩ := tracks.current row before
      refine ⟨past, last, ?_, current.life, current.left, current.goesOn,
        undisturbed.trans current.undisturbed⟩
      rw [episode_append, episode_singleton_other fun same => away same.symm, List.append_nil]
      exact current.episode
    · have same : row.2.socket = new.socket := congrArg Stream.socket left
      refine ⟨episode history new.socket, new, ?_, life, left.symm, goesOn, ?_⟩
      · rw [same, episode_append, episode_singleton_self]
      · rw [same]
        exact undisturbed

theorem away {calls : List Call} (tracks : Tracks history world)
    (made : Makes calls world.kernel after.kernel)
    (rows : after.gateway.streams.rows = world.gateway.streams.rows)
    (away : ∀ row ∈ world.gateway.streams.rows, ∀ call ∈ calls, call.socket? ≠ some row.2.socket) :
    Tracks (history ++ []) after := by
  rw [List.append_nil]
  refine tracks.quiet (Kernel.length_sockets_le made) fun row member => ?_
  rw [rows] at member
  exact ⟨member, made.callsOn_of_not_about (away row member)⟩

theorem opened {kernel : Kernel} {stream : Stream} {request : Segment}
    {result : Except Errno Unit} {streams : FlowTable Stream} (tracks : Tracks history world)
    (sound : world.Sound) (opens : request.opens = true)
    (opening : stream = Stream.opening stream.owner stream.guestMac stream.flow
      world.kernel.sockets.length request stream.outsideNext)
    (made : Makes [.socket .stream (.ok stream.socket),
      .connect stream.socket stream.flow.outside result] world.kernel kernel)
    (put : world.gateway.streams.insert? stream.flow stream = some streams) :
    Tracks (history ++ [.opened request stream world.kernel kernel])
      ((world.withKernel kernel).withStreams streams) := by
  have fresh : stream.socket = world.kernel.sockets.length := congrArg Stream.socket opening
  have given := (sound.held.given fresh made (by simp [Call.keepsSockets])).lt
    (List.mem_cons_self ..)
  refine tracks.happened ?_ (Kernel.length_sockets_le made) given ?_
  · have before : episode history stream.socket = [] := by
      refine List.filter_eq_nil_iff.mpr fun happening member => ?_
      rw [decide_eq_true_eq, fresh]
      exact Nat.ne_of_lt (tracks.given happening member)
    have unused : world.kernel.callsOn stream.socket = [] := by
      rw [fresh]
      exact sound.callsOn_fresh
    rw [← fresh] at opening
    have life := Life.opened opens opening unused made
    rw [← before] at life
    exact ⟨request, stream, life⟩
  · intro row member
    have member : row ∈ streams.rows := member
    rw [FlowTable.rows_of_insert? put] at member
    rcases List.mem_cons.mp member with rfl | before
    · exact Or.inr ⟨rfl, rfl, rfl⟩
    · left
      have away : row.2.socket ≠ stream.socket := by
        rw [fresh]
        exact Nat.ne_of_lt (sound.stream_lt before)
      exact ⟨before, away, made.callsOn_of_not_about (by simp [Call.socket?, away.symm])⟩

/-- A turn of a stream, after which the table has either its new state or no row of its
flow, and the socket may have been closed. -/
theorem turned {flow : Flow} {stream : Stream} (tracks : Tracks history world)
    (sound : world.Sound) (cause : Stream.Cause) (now : Nat)
    (found : world.gateway.streams.get? flow = some stream)
    (more : world.kernel.sockets.length ≤ after.kernel.sockets.length)
    (others : ∀ socket, socket ≠ stream.socket →
      after.kernel.callsOn socket = (stream.turn now world.kernel cause).kernel.callsOn socket)
    (rows : ∀ row ∈ after.gateway.streams.rows,
      (row ∈ world.gateway.streams.rows ∧ row.1 ≠ flow) ∨
      (row.2 = (stream.turn now world.kernel cause).stream ∧
        (stream.turn now world.kernel cause).ends = false ∧
        after.kernel = (stream.turn now world.kernel cause).kernel)) :
    Tracks (history ++ [.turned cause now stream world.kernel]) after := by
  obtain ⟨calls, made, move⟩ := stream.turn_move now world.kernel cause
  have here := FlowTable.mem_rows_of_get? found
  have same := Happening.socket_turned cause now stream world.kernel
  have life : ∃ request first, Life request first (episode history stream.socket)
      (.turned cause now stream world.kernel) := by
    obtain ⟨past, last, whole, ⟨request, first, life⟩, rfl, goesOn, undisturbed⟩ :=
      tracks.current _ here
    rw [whole]
    exact ⟨request, first, .turned life goesOn undisturbed cause now⟩
  refine tracks.happened ?_ more ?_ ?_
  · rw [same]
    exact life
  · rw [same]
    exact Nat.lt_of_lt_of_le (sound.stream_lt here) more
  · intro row member
    rcases rows row member with ⟨before, away⟩ | ⟨left, goesOn, kept⟩
    · left
      have apart := sound.stream_ne_stream before here away
      rw [same]
      refine ⟨before, apart, (others _ apart).trans ?_⟩
      refine made.callsOn_of_not_about fun call member about => ?_
      rw [(move.about_socket call member).1] at about
      exact apart (Option.some.inj about).symm
    · exact Or.inr ⟨left, goesOn, by rw [kept]; rfl⟩

theorem step {happenings : List Happening} (tracks : Tracks history world) (sound : world.Sound)
    (step : Step world happenings after) : Tracks (history ++ happenings) after := by
  -- Steps that tell of no happening are about other sockets than those of streams.
  cases step with
  | aside | mappingNumbered | mappingTouched =>
      exact tracks.away (Makes.refl _) rfl (by simp)
  | looked made => exact tracks.away made rfl (by simp)
  | relayed here made about keeps =>
      refine tracks.away made rfl fun row member call only => ?_
      rw [List.mem_singleton.mp only, about]
      exact fun same => sound.stream_ne_relay member here (Option.some.inj same).symm
  | missed made fruitless =>
      refine tracks.away made rfl fun row member call only => ?_
      rcases fruitless.about call only with none | next
      · simp [none]
      · rw [next]
        exact fun same => Nat.ne_of_lt (sound.stream_lt member) (Option.some.inj same).symm
  | mappingUsed found made about keeps =>
      refine tracks.away made rfl fun row member call only => ?_
      rw [List.mem_singleton.mp only, about]
      exact fun same => sound.stream_ne_mapping member (FlowTable.mem_rows_of_get? found)
        (Option.some.inj same).symm
  | mappingAdded absent directs fresh made put =>
      refine tracks.away made rfl fun row member call only => ?_
      rw [List.mem_singleton.mp only, Call.socket?, fresh]
      exact fun same => Nat.ne_of_lt (sound.stream_lt member) (Option.some.inj same).symm
  | mappingReplaced absent directs fresh made put =>
      obtain ⟨front, rows, _⟩ := FlowTable.rows_of_insertEvicting_some absent put
      refine tracks.away (made.trans (Kernel.makes_close ..)) rfl fun row member call only => ?_
      rcases List.mem_cons.mp only with rfl | only
      · rw [Call.socket?, fresh]
        exact fun same => Nat.ne_of_lt (sound.stream_lt member) (Option.some.inj same).symm
      · rw [List.mem_singleton.mp only, Call.socket?]
        have there : _ ∈ world.gateway.mappings.rows := rows ▸ List.mem_append_right front
          (List.mem_singleton_self _)
        exact fun same => sound.stream_ne_mapping member there (Option.some.inj same).symm
  | streamAdded absent opens opening made put => exact tracks.opened sound opens opening made put
  | @streamTurned flow stream cause now found goesOn =>
      obtain ⟨calls, made, _⟩ := stream.turn_move now world.kernel cause
      refine tracks.turned sound cause now found (Kernel.length_sockets_le made)
        (fun _ _ => rfl) fun row member => ?_
      obtain ⟨old, before, rfl⟩ := List.mem_map.mp member
      split
      · exact Or.inr ⟨rfl, goesOn, rfl⟩
      · rename_i away
        exact Or.inl ⟨before, away⟩
  | streamTouched flow =>
      rw [List.append_nil]
      refine tracks.quiet (Nat.le_refl _) fun row member => ⟨?_, rfl⟩
      exact (FlowTable.rows_touch_perm flow sound.streams.distinct).mem_iff.mp member
  | @streamEnded flow stream cause now found ends =>
      obtain ⟨calls, made, _⟩ := stream.turn_move now world.kernel cause
      have closing := Kernel.makes_close (stream.turn now world.kernel cause).kernel stream.socket
      refine tracks.turned sound cause now found (Kernel.length_sockets_le (made.trans closing))
        (fun socket apart => ?_) fun row member => Or.inl ?_
      · exact closing.callsOn_of_not_about (by simpa [Call.socket?] using apart.symm)
      · obtain ⟨before, away⟩ := List.mem_filter.mp member
        exact ⟨before, by simpa using away⟩

end Tracks

theorem World.Steps.tracks {history happenings : List Happening} {world after : World}
    (tracks : Tracks history world) (sound : world.Sound)
    (steps : Steps world happenings after) : Tracks (history ++ happenings) after := by
  induction steps generalizing history with
  | refl => rwa [List.append_nil]
  | more first _ ih =>
      rw [← List.append_assoc]
      exact ih (tracks.step sound first) (sound.step first)

namespace Session

/-- Every session of a new network tells of whole lives. -/
theorem tracks_history {start : World} (new : start.IsNew) (operations : List Operation) :
    Tracks (history start operations) (after start operations) := by
  have begins : Tracks [] start := by
    refine ⟨?_, by simp, ?_⟩
    · intro socket past last whole
      simp [episode] at whole
    · rw [new.no_records.1]
      simp
  exact (steps_after operations start).tracks begins new.sound

/-- Each happening of a session belongs to the life of a stream. -/
theorem life_of_split {start : World} (new : start.IsNew) {operations : List Operation}
    {before future : List Happening} {happening : Happening}
    (split : history start operations = before ++ happening :: future) :
    ∃ request first, Life request first (episode before happening.socket) happening := by
  have whole : episode (history start operations) happening.socket =
      episode before happening.socket ++ happening :: episode future happening.socket := by
    rw [split, ← List.singleton_append, episode_append, episode_append, episode_singleton_self]
    rfl
  rcases List.eq_nil_or_concat (episode (history start operations) happening.socket) with
    none | ⟨past, last, ending⟩
  · rw [none] at whole
    cases (List.append_eq_nil_iff.mp whole.symm).2
  · rw [List.concat_eq_append] at ending
    obtain ⟨request, first, life⟩ := (tracks_history new operations).lives _ past last ending
    rw [ending] at whole
    exact ⟨request, first, life.earlier whole⟩

/-- Each stream in the table is as the last happening of its life left it. -/
theorem life_of_row {start : World} (new : start.IsNew) {operations : List Operation}
    {row : Flow × Stream} (member : row ∈ (after start operations).gateway.streams.rows) :
    ∃ request first past last, Life request first past last ∧
      episode (history start operations) row.2.socket = past ++ [last] ∧ last.stream = row.2 ∧
      (after start operations).kernel.callsOn last.socket = last.finish.callsOn last.socket := by
  obtain ⟨past, last, whole, ⟨request, first, life⟩, left, _, undisturbed⟩ :=
    (tracks_history new operations).current row member
  rw [← left] at undisturbed
  exact ⟨request, first, past, last, life, whole, left, undisturbed⟩

end Session

end Masquerade
