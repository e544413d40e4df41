import Masquerade.Proofs.Gateway.Rounds
import Masquerade.Proofs.Session.GuestToOutside

/-!
# Stop and wait

A stream reads from its socket only when the guest has acknowledged all that was sent,
and then keeps what it has read until the guest acknowledges that too.  So the bytes
that wait are always those that were read last, and they end in the next place.
-/

set_option autoImplicit false

namespace Masquerade

def Happening.acknowledges : Happening → Option UInt32
  | .opened _ _ _ _ => none
  | .turned cause _ before _ => cause.acknowledges before

def lastAcknowledged (happenings : List Happening) : Option UInt32 :=
  (happenings.filterMap Happening.acknowledges).getLast?

def lastReading (calls : List Call) : Option Call := (calls.filter Call.isReceive).getLast?

/-- How a stream stands that is connected, with a kernel in which nothing was called since. -/
structure StopsAndWaits (kernel : Kernel) (stream : Stream) : Prop where
  fits : stream.unacknowledged.length ≤ 1024
  ending : stream.unacknowledged ≠ [] →
    stream.unacknowledgedFrom + UInt32.ofNat stream.unacknowledged.length = stream.outsideNext
  chunk : stream.unacknowledged ≠ [] → lastReading (kernel.callsOn stream.socket) =
    some (.receive stream.socket 1024 (.ok stream.unacknowledged))

/-- A turn reads only if the guest has acknowledged all last, and takes bytes that wait
away only if a segment acknowledges all of them. -/
structure AwaitsGuest (past : List Happening) (last : Happening) : Prop where
  reads : ∀ call ∈ last.calls, call.isReceive = true → ∃ cause now before start,
    last = .turned cause now before start ∧ lastAcknowledged past = some before.outsideNext
  keeps : ∀ cause now before start, last = .turned cause now before start →
    before.unacknowledged ≠ [] → Stream.KeepsWaiting before last.stream ∨
      ∃ segment, cause = .segment segment ∧ before.IsReleasedBy segment ∧
        last.stream.unacknowledged = []

theorem lastAcknowledged_concat (past : List Happening) (last : Happening) :
    lastAcknowledged (past ++ [last]) = last.acknowledges.or (lastAcknowledged past) := by
  rw [lastAcknowledged, lastAcknowledged, List.filterMap_append]
  cases number : last.acknowledges with
  | none => simp [number]
  | some value => simp [number]

theorem lastReading_of_silent (earlier : List Call) {calls : List Call}
    (silent : ∀ call ∈ calls, call.isReceive = false) :
    lastReading (earlier ++ calls) = lastReading earlier := by
  have none : calls.filter Call.isReceive = [] :=
    List.filter_eq_nil_iff.mpr fun call member => by simp [silent call member]
  rw [lastReading, lastReading, List.filter_append, none, List.append_nil]

/-! ## Turn after turn -/

structure Awaited (initial : UInt32) (happenings : List Happening) (calls : List Call)
    (stream : Stream) : Prop where
  chunk : stream.unacknowledged ≠ [] → lastReading calls =
    some (.receive stream.socket Stream.mostRead (.ok stream.unacknowledged))
  heard : stream.guestAcknowledged = (lastAcknowledged happenings).getD initial
  unheard : lastAcknowledged happenings = none → calls.flatMap Call.received = []

namespace Awaited

variable {initial : UInt32} {past : List Happening} {earlier calls : List Call}
  {segments : List Segment} {cause : Stream.Cause} {now : Nat} {before after : Stream}
  {kernel : Kernel} {frames : List Bytes} {ends : Bool}

theorem turn_chunk (awaited : Awaited initial past earlier before)
    (made : Kernel.Makes calls kernel (before.turn now kernel cause).kernel)
    (move : before.Move now cause calls (after, frames) ends)
    (waiting : after.unacknowledged ≠ []) : lastReading (earlier ++ calls) =
      some (.receive after.socket Stream.mostRead (.ok after.unacknowledged)) := by
  have socket : after.socket = before.socket := move.parties.socket
  rw [socket]
  by_cases none : before.unacknowledged = []
  · rcases move.unacknowledged_of_none none with still | read
    · exact absurd still waiting
    · rw [read, lastReading, List.filter_append]
      exact List.getLast?_concat ..
  · have silent : ∀ call ∈ calls, call.isReceive = false := by
      intro call member
      rw [Bool.eq_false_iff]
      intro receives
      obtain ⟨_, _, _, _, reads, _⟩ := Stream.reads_of_receive made member receives
      exact none reads.nothingWaits
    rw [lastReading_of_silent earlier silent]
    rcases move.waiting none with kept | ⟨_, _, _, gone⟩
    · have same : after.unacknowledged = before.unacknowledged := kept.1
      rw [same]
      exact awaited.chunk none
    · exact absurd gone waiting

/-- A stream that reads has been answered by its guest. -/
theorem heard_of_reads (awaited : Awaited initial past earlier before)
    (counted : Stream.Counted initial segments (earlier.flatMap Call.received) before)
    {ready : Kernel.Readiness} (reads : before.Reads ready kernel) :
    lastAcknowledged past = some before.outsideNext := by
  have caughtUp := reads.caughtUp
  rw [awaited.heard] at caughtUp
  cases known : lastAcknowledged past with
  | some number =>
      rw [known] at caughtUp
      exact congrArg some caughtUp
  | none =>
      -- Without an answer nothing was received, but the mark of the beginning was sent.
      rw [known] at caughtUp
      have unsent := counted.noFin (by rw [reads.connected]; rfl)
      have next := counted.next_of_unsent unsent
      rw [counted.connected reads.connected, awaited.unheard known] at next
      have moved : initial = initial + 1 := caughtUp.trans (next.trans (by simp))
      exact absurd moved.symm (by simp)

theorem turn (awaited : Awaited initial past earlier before)
    (counted : Stream.Counted initial segments (earlier.flatMap Call.received) before)
    (made : Kernel.Makes calls kernel (before.turn now kernel cause).kernel)
    (move : before.Move now cause calls (after, frames) ends) :
    Awaited initial (past ++ [.turned cause now before kernel]) (earlier ++ calls) after := by
  constructor
  · exact awaited.turn_chunk made move
  · rw [lastAcknowledged_concat, Happening.acknowledges]
    have told : after.guestAcknowledged =
        (cause.acknowledges before).getD before.guestAcknowledged := move.guestAcknowledged
    rw [told]
    cases number : cause.acknowledges before with
    | some value => rfl
    | none => exact awaited.heard
  · intro unheard
    rw [lastAcknowledged_concat, Option.or_eq_none_iff] at unheard
    rw [List.flatMap_append, awaited.unheard unheard.2, List.nil_append]
    refine List.flatMap_eq_nil_iff.mpr fun call member => ?_
    cases receives : call.isReceive with
    | false => cases call <;> first | rfl | cases receives
    | true =>
        obtain ⟨_, _, _, _, reads, _⟩ := Stream.reads_of_receive made member receives
        rw [awaited.heard_of_reads counted reads] at unheard
        cases unheard.2

end Awaited

namespace Life

variable {request : Segment} {first : Stream} {past : List Happening} {last : Happening}

theorem awaited (life : Life request first past last) :
    Awaited first.outsideNext (past ++ [last]) (last.finish.callsOn last.socket) last.stream := by
  induction life with
  | @opened start finish result opens opening unused made =>
      have unkept : first.unacknowledged = [] := congrArg Stream.unacknowledged opening
      have begun : Awaited first.outsideNext [.opened request first start finish]
          (finish.callsOn first.socket) first := by
        refine ⟨fun waiting => absurd unkept waiting, congrArg Stream.guestAcknowledged opening,
          fun _ => ?_⟩
        rw [callsOn_opened unused made]
        rfl
      exact begun
  | @turned past last start life goesOn undisturbed cause now ih =>
      obtain ⟨calls, made, move, _, reached⟩ :=
        Happening.turned_calls cause now last.stream start
      have known : start.callsOn last.stream.socket = last.finish.callsOn last.socket := undisturbed
      rw [reached, known]
      exact ih.turn life.supplied.1 made move

theorem stopsAndWaits (life : Life request first past last) {kernel : Kernel}
    (undisturbed : kernel.callsOn last.socket = last.finish.callsOn last.socket)
    (connected : last.stream.phase = .connected) : StopsAndWaits kernel last.stream := by
  have buffered := life.supplied.2.1
  refine ⟨buffered.fits, fun waiting => (buffered.waiting connected waiting).1, ?_⟩
  have known : kernel.callsOn last.stream.socket = last.finish.callsOn last.socket := undisturbed
  rw [known]
  exact life.awaited.chunk

theorem awaitsGuest (life : Life request first past last) : AwaitsGuest past last := by
  cases life with
  | @opened start finish result opens opening unused made =>
      have calls : Happening.calls (.opened request first start finish) = _ := made.callsSince_eq
      constructor
      · intro call member receives
        rw [calls] at member
        simp only [List.mem_cons, List.not_mem_nil, or_false] at member
        rcases member with rfl | rfl <;> cases receives
      · intro _ _ _ _ turned
        cases turned
  | @turned past last start life goesOn undisturbed cause now =>
      obtain ⟨calls, made, move⟩ := last.stream.turn_move now start cause
      have same : Happening.calls (.turned cause now last.stream start) = calls := made.callsSince_eq
      constructor
      · intro call member receives
        rw [same] at member
        obtain ⟨_, _, _, _, reads, _⟩ := Stream.reads_of_receive made member receives
        exact ⟨cause, now, last.stream, start, rfl,
          life.awaited.heard_of_reads life.supplied.1 reads⟩
      · intro _ _ _ _ here waiting
        cases here
        exact move.waiting waiting

end Life

namespace Session

/-- In every world that a session reaches, what waits on a connected stream is what was
read last; a round reads from a socket just if its stream is connected, without an error,
and has had everything acknowledged; and in each happening of the session the guest has
acknowledged all before anything is read, and releases what waits. -/
theorem streams_stop_and_wait {start : World} (new : start.IsNew) (operations : List Operation) :
    let world := after start operations
    (∀ row ∈ world.gateway.streams.rows, row.2.phase = .connected →
      StopsAndWaits world.kernel row.2) ∧
    (∀ socket, (∃ call ∈ world.poll.kernel.callsSince world.kernel,
        call.isReceive = true ∧ call.socket? = some socket) ↔
      ∃ flow stream own start, world.HasTurn flow stream own start ∧ stream.socket = socket ∧
        stream.Reads own start) ∧
    (∀ before happening future, history start operations = before ++ happening :: future →
      (happening.stream.phase = .connected → StopsAndWaits happening.finish happening.stream) ∧
        AwaitsGuest (episode before happening.socket) happening) := by
  intro world
  refine ⟨?_, ?_, ?_⟩
  · intro row member connected
    obtain ⟨request, first, past, last, life, _, left, undisturbed⟩ := life_of_row new member
    rw [← left] at connected ⊢
    exact life.stopsAndWaits undisturbed connected
  · exact World.poll_receives_iff (new.sound.steps (steps_after operations start))
  · intro before happening future split
    obtain ⟨request, first, life⟩ := life_of_split new split
    exact ⟨life.stopsAndWaits rfl, life.awaitsGuest⟩

theorem conversation_stops_and_waits :
    conversed.IsNew ∧ ∃ row ∈ (after conversed conversation).gateway.streams.rows,
      row.2.phase = .connected ∧ row.2.unacknowledged = [1, 2, 3] ∧
        StopsAndWaits (after conversed conversation).kernel row.2 := by
  have new : conversed.IsNew := World.plain_isNew none
  have there : ∃ row ∈ (after conversed conversation).gateway.streams.rows,
      row.2.phase = .connected ∧ row.2.unacknowledged = [1, 2, 3] := by
    decide +kernel
  obtain ⟨row, member, connected, waiting⟩ := there
  have waits := (streams_stop_and_wait new conversation).1 row member connected
  exact ⟨new, row, member, connected, waiting, waits⟩

end Session

end Masquerade
