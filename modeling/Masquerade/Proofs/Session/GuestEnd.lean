import Masquerade.Proofs.Session.GuestToOutside
import Masquerade.Proofs.Session.Phases

/-!
# The end of the guest

The end of a guest is passed on each time its last mark is accepted, and counts as one
byte each time.  The first time closes the stream, after which no byte is taken; but a
mark behind that one, in the place that is expected then, is accepted once more.  Only
without such marks does the expected place stand still.
-/

set_option autoImplicit false

namespace Masquerade

def RepeatsEnd (happening : Happening) : Prop :=
  happening.phaseBefore = some .bothClosed ∧ happening.acceptsFin = true

instance (happening : Happening) : Decidable (RepeatsEnd happening) :=
  inferInstanceAs (Decidable (_ ∧ _))

/-- The last mark of the guest has been accepted once, if the stream is closed by both
sides, and nothing has moved since; given a kernel in which nothing was called since. -/
structure EndTakenOnce (request : Segment) (happenings : List Happening) (stream : Stream)
    (kernel : Kernel) : Prop where
  next : stream.guestNext = request.header.sequence + 1 +
    UInt32.ofNat (kernel.takenOn stream.socket).length +
    UInt32.ofNat (if stream.phase = .bothClosed then 1 else 0)
  shutdowns : (kernel.callsOn stream.socket).countP Call.isShutdown =
    if stream.phase = .bothClosed then 1 else 0
  still : happenings.Pairwise fun earlier later => earlier.stream.phase = .bothClosed →
    later.stream.guestNext = earlier.stream.guestNext ∧
      ∀ call ∈ later.calls, call.isShutdown = false

/-- A turn that only passes the end of the guest on, and moves the expected place by it. -/
inductive PassesEnd : Happening → Prop
  | turned {cause : Stream.Cause} {now : Nat} {before : Stream} {start : Kernel}
      {result : Except Errno Unit}
      (calls : Happening.calls (.turned cause now before start) =
        [.shutdown before.socket result])
      (next : (Happening.turned cause now before start).stream.guestNext =
        before.guestNext + 1)
      (phase : (Happening.turned cause now before start).stream.phase = .bothClosed) :
      PassesEnd (.turned cause now before start)

/-! ## Turns -/

namespace Stream

variable {before after : Stream} {cause : Cause} {calls : List Call}

theorem withoutOutside_phase {stream : Stream} (closed : stream.withoutOutside.phase = .bothClosed) :
    stream.phase = .bothClosed := by
  simp only [withoutOutside] at closed
  cases phase : stream.phase <;> rw [phase] at closed <;> first | rfl | cases closed

theorem bothClosed_of_rank {phase : Phase} (far : Phase.bothClosed.rank ≤ phase.rank) :
    phase = .bothClosed := by
  cases phase with
  | bothClosed => rfl
  | connecting | connected | outsideClosed => exact absurd far (by decide)

theorem Move.bothClosed_of_bothClosed {stream : Stream} {now : Nat} {sent : Stream × List Bytes}
    {ends : Bool} (move : Move stream now cause calls sent ends)
    (closed : stream.phase = .bothClosed) : sent.1.phase = .bothClosed := by
  have onward := move.forward
  rw [closed] at onward
  exact bothClosed_of_rank onward

theorem Move.bothClosed_of_noFin {stream : Stream} {now : Nat} {sent : Stream × List Bytes}
    {ends : Bool} (move : Move stream now cause calls sent ends)
    (noFin : cause.acceptsFin stream (calls.flatMap Call.taken) = false)
    (closed : sent.1.phase = .bothClosed) : stream.phase = .bothClosed := by
  cases move with
  | outOfOrder | brokenOff | repeatedStart | idle | refused | sentAgain | waited | delivered
  | nothingThere => exact closed
  | withheld | tooBusy | acknowledged => exact (heard_phase ..).symm.trans closed
  | @notTaken segment =>
      rw [disconnect_phase] at closed
      exact (heard_phase stream segment).symm.trans (withoutOutside_phase closed)
  | @taken segment count =>
      rw [acknowledge_phase, advance, heard_phase] at closed
      exact closed
  | @takenToTheEnd segment result carries payload sending isLast =>
      rw [carries.acceptsFin (Or.inl payload), isLast] at noFin
      simp [Call.taken] at noFin
  | @ended segment result carries empty isLast =>
      rw [carries.acceptsFin (Or.inr isLast), isLast, empty] at noFin
      cases noFin
  | connected => cases closed
  | failed | outsideEnded =>
      rw [disconnect_phase] at closed
      exact withoutOutside_phase closed

theorem Forwards.bothClosed_of_fin (forwards : Forwards before cause calls after)
    (fin : cause.acceptsFin before (calls.flatMap Call.taken) = true) :
    after.phase = .bothClosed := by
  cases forwards with
  | nothing untaken _ _ _ _ _ noFin =>
      rw [untaken, noFin] at fin
      cases fin
  | took _ _ _ _ _ noFin =>
      rw [List.flatMap_singleton, Call.taken, noFin] at fin
      cases fin
  | tookAll _ _ _ phase => exact phase
  | ended _ phase => exact phase

theorem Forwards.of_bothClosed (forwards : Forwards before cause calls after)
    (closed : before.phase = .bothClosed) :
    (cause.acceptsFin before (calls.flatMap Call.taken) = false ∧
      after.guestNext = before.guestNext ∧ ∀ call ∈ calls, call.isShutdown = false) ∨
    (cause.acceptsFin before (calls.flatMap Call.taken) = true ∧
      after.guestNext = before.guestNext + 1 ∧
      ∃ result, calls = [.shutdown before.socket result]) := by
  have idle : ¬ before.IsSending := fun sending => Forwarded.sending_ne sending closed
  cases forwards with
  | nothing untaken noShutdown _ next _ _ noFin =>
      rw [untaken]
      exact Or.inl ⟨noFin, next, noShutdown⟩
  | took _ sending | tookAll _ sending => exact absurd sending idle
  | ended next _ fin => exact Or.inr ⟨fin, next, _, rfl⟩

end Stream

/-! ## Turn after turn -/

theorem countP_concat {Item : Type} (count : Item → Bool) (past : List Item) (last : Item) :
    (past ++ [last]).countP count = past.countP count + (count last).toNat := by
  rw [List.countP_append]
  cases counts : count last <;> simp [counts]

namespace Life

variable {request : Segment} {first : Stream} {past : List Happening} {last : Happening}

/-- The marks that were accepted are the first, if the stream is closed, and its repetitions. -/
theorem acceptedEnds (life : Life request first past last) :
    (past ++ [last]).countP Happening.acceptsFin =
      (past ++ [last]).countP (fun happening => decide (RepeatsEnd happening)) +
        (decide (last.stream.phase = .bothClosed)).toNat := by
  induction life with
  | opened opens opening =>
      have phase : first.phase = .connecting := congrArg Stream.phase opening
      simp [Happening.acceptsFin, RepeatsEnd, Happening.stream, phase]
  | @turned past last start life goesOn undisturbed cause now ih =>
      obtain ⟨calls, _, move, called, _⟩ := Happening.turned_calls cause now last.stream start
      have fin := Happening.acceptsFin_turned called
      have again : decide (RepeatsEnd (.turned cause now last.stream start)) =
          (decide (last.stream.phase = .bothClosed) &&
            cause.acceptsFin last.stream (calls.flatMap Call.taken)) := by
        rw [← fin]
        simp [RepeatsEnd, Happening.phaseBefore]
      rw [countP_concat _ (past ++ [last]), countP_concat _ (past ++ [last]), ih, fin, again]
      cases accepted : cause.acceptsFin last.stream (calls.flatMap Call.taken) with
      | true =>
          have closed : (Happening.turned cause now last.stream start).stream.phase =
              .bothClosed := move.forwards.bothClosed_of_fin accepted
          rw [closed, decide_eq_true rfl, Bool.and_true, Bool.toNat_true]
      | false =>
          have same : (Happening.turned cause now last.stream start).stream.phase =
              .bothClosed ↔ last.stream.phase = .bothClosed :=
            ⟨move.bothClosed_of_noFin accepted, move.bothClosed_of_bothClosed⟩
          simp [same]

theorem countP_shutdown (life : Life request first past last) :
    (last.finish.callsOn last.socket).countP Call.isShutdown =
      (past ++ [last]).countP Happening.acceptsFin := by
  induction life with
  | @opened start finish result opens opening unused made =>
      exact congrArg (List.countP Call.isShutdown) (callsOn_opened unused made)
  | @turned past last start life goesOn undisturbed cause now ih =>
      obtain ⟨calls, _, move, called, reached⟩ :=
        Happening.turned_calls cause now last.stream start
      have known : start.callsOn last.stream.socket = last.finish.callsOn last.socket := undisturbed
      have fin := Happening.acceptsFin_turned called
      rw [reached, known, List.countP_append, ih, countP_concat _ (past ++ [last]), fin,
        move.forwards.countP_shutdown]

/-- Once a stream is closed by both sides, a turn either moves nothing or repeats the end. -/
theorem still_or_repeats {stream : Stream} (cause : Stream.Cause) (now : Nat) (start : Kernel)
    (closed : stream.phase = .bothClosed) :
    let turned : Happening := .turned cause now stream start
    (turned.acceptsFin = false ∧ turned.stream.guestNext = stream.guestNext ∧
      ∀ call ∈ turned.calls, call.isShutdown = false) ∨
    (turned.acceptsFin = true ∧ PassesEnd turned) := by
  intro turned
  obtain ⟨calls, _, move, called, _⟩ := Happening.turned_calls cause now stream start
  have fin : turned.acceptsFin = cause.acceptsFin stream (calls.flatMap Call.taken) :=
    Happening.acceptsFin_turned called
  have after : turned.stream.phase = .bothClosed := move.bothClosed_of_bothClosed closed
  rw [fin, called]
  rcases move.forwards.of_bothClosed closed with still | ⟨accepted, next, result, only⟩
  · exact Or.inl still
  · exact Or.inr ⟨accepted, .turned (called.trans only) next after⟩

theorem still (life : Life request first past last)
    (once : ∀ happening ∈ past ++ [last], ¬ RepeatsEnd happening) :
    (past ++ [last]).Pairwise fun earlier later => earlier.stream.phase = .bothClosed →
      later.stream.guestNext = earlier.stream.guestNext ∧
        ∀ call ∈ later.calls, call.isShutdown = false := by
  induction life with
  | opened => exact List.pairwise_singleton ..
  | @turned past last start life goesOn undisturbed cause now ih =>
      have before := ih fun happening member => once happening (List.mem_append_left _ member)
      refine List.pairwise_append.mpr ⟨before, List.pairwise_singleton .., ?_⟩
      intro earlier member later only closed
      rw [List.mem_singleton.mp only]
      have reached : last.stream.phase = .bothClosed ∧
          last.stream.guestNext = earlier.stream.guestNext := by
        rcases List.mem_append.mp member with old | here
        · obtain ⟨_, _, across⟩ := List.pairwise_append.mp before
          obtain ⟨_, _, onward⟩ := List.pairwise_append.mp life.forward
          have further := onward earlier old last (List.mem_singleton_self _)
          rw [closed] at further
          exact ⟨Stream.bothClosed_of_rank further,
            (across earlier old last (List.mem_singleton_self _) closed).1⟩
        · rw [List.mem_singleton.mp here] at closed ⊢
          exact ⟨closed, rfl⟩
      rcases still_or_repeats cause now start reached.1 with ⟨_, next, unshut⟩ | ⟨fin, _⟩
      · exact ⟨next.trans reached.2, unshut⟩
      · have repeats : RepeatsEnd (.turned cause now last.stream start) :=
          ⟨congrArg some reached.1, fin⟩
        exact absurd repeats (once _ (List.mem_append_right _ (List.mem_singleton_self _)))

theorem moved_of_repeats (life : Life request first past last) (repeats : RepeatsEnd last) :
    PassesEnd last ∧ ∃ earlier ∈ past, earlier.stream.phase = .bothClosed ∧
      last.stream.guestNext ≠ earlier.stream.guestNext := by
  cases life with
  | opened => cases repeats.1
  | @turned past last start life goesOn undisturbed cause now =>
      have closed : last.stream.phase = .bothClosed := Option.some.inj repeats.1
      rcases still_or_repeats cause now start closed with ⟨noFin, _⟩ | ⟨_, passes⟩
      · have same := noFin.symm.trans repeats.2
        cases same
      · refine ⟨passes, last, List.mem_append_right _ (List.mem_singleton_self _), closed, ?_⟩
        cases passes with
        | turned _ next =>
            rw [next]
            simp

theorem endTakenOnce_iff (life : Life request first past last) {kernel : Kernel}
    (undisturbed : kernel.callsOn last.socket = last.finish.callsOn last.socket) :
    EndTakenOnce request (past ++ [last]) last.stream kernel ↔
      ∀ happening ∈ past ++ [last], ¬ RepeatsEnd happening := by
  have known : kernel.callsOn last.stream.socket = last.finish.callsOn last.socket := undisturbed
  constructor
  · intro taken happening member repeats
    obtain ⟨before, after, split⟩ := List.append_of_mem member
    obtain ⟨_, earlier, there, closed, moved⟩ := (life.earlier split).moved_of_repeats repeats
    have still := taken.still
    rw [split] at still
    obtain ⟨_, _, across⟩ := List.pairwise_append.mp still
    exact moved (across earlier there happening (List.mem_cons_self ..) closed).1
  · intro once
    have ends := life.acceptedEnds
    have none : (past ++ [last]).countP (fun happening => decide (RepeatsEnd happening)) = 0 :=
      List.countP_eq_zero.mpr fun happening member => by simp [once happening member]
    rw [none, Nat.zero_add] at ends
    have count : (past ++ [last]).countP Happening.acceptsFin =
        if last.stream.phase = .bothClosed then 1 else 0 := by
      rw [ends]
      split <;> rename_i closed <;> simp [closed]
    refine ⟨?_, ?_, life.still once⟩
    · rw [← count]
      exact (life.guestForwarded undisturbed).next
    · rw [known, ← count]
      exact life.countP_shutdown

end Life

namespace Session

/-- Whatever happens in a session, after each happening of a stream and at the end for each
stream in the table: the end of the guest has been taken once, and has stopped what comes
from it, just if no last mark was accepted again; and one that was, was passed on again. -/
theorem end_of_guest_is_taken_once {start : World} (new : start.IsNew)
    (operations : List Operation) :
    (∀ before happening future, history start operations = before ++ happening :: future →
      ∃ request first,
        BeginsWith request first (episode (before ++ [happening]) happening.socket) ∧
        (EndTakenOnce request (episode (before ++ [happening]) happening.socket)
            happening.stream happening.finish ↔
          ∀ other ∈ episode (before ++ [happening]) happening.socket, ¬ RepeatsEnd other) ∧
        (RepeatsEnd happening → PassesEnd happening)) ∧
    (∀ row ∈ (after start operations).gateway.streams.rows, ∃ request first,
        BeginsWith request first (episode (history start operations) row.2.socket) ∧
        (EndTakenOnce request (episode (history start operations) row.2.socket) row.2
            (after start operations).kernel ↔
          ∀ other ∈ episode (history start operations) row.2.socket, ¬ RepeatsEnd other)) := by
  constructor
  · intro before happening future split
    obtain ⟨request, first, life⟩ := life_of_split new split
    rw [episode_append, episode_singleton_self]
    exact ⟨request, first, life.beginsWith, life.endTakenOnce_iff rfl,
      fun repeats => (life.moved_of_repeats repeats).1⟩
  · intro row member
    obtain ⟨request, first, past, last, life, whole, left, undisturbed⟩ := life_of_row new member
    rw [whole, ← left]
    exact ⟨request, first, life.beginsWith, life.endTakenOnce_iff undisturbed⟩

theorem closed_conversation_is_ended_once :
    conversed.IsNew ∧ ∃ row ∈ (after conversed closedConversation).gateway.streams.rows,
      row.2.phase = .bothClosed ∧ ∃ request first,
        BeginsWith request first (episode (history conversed closedConversation) row.2.socket) ∧
        EndTakenOnce request (episode (history conversed closedConversation) row.2.socket) row.2
          (after conversed closedConversation).kernel := by
  have new : conversed.IsNew := World.plain_isNew none
  have there : ∃ row ∈ (after conversed closedConversation).gateway.streams.rows,
      row.2.phase = .bothClosed := by
    decide +kernel
  have once : ∀ happening ∈ history conversed closedConversation, ¬ RepeatsEnd happening := by
    decide +kernel
  obtain ⟨row, member, closed⟩ := there
  obtain ⟨request, first, begins, decided⟩ :=
    (end_of_guest_is_taken_once new closedConversation).2 row member
  have taken := decided.mpr fun happening inside => once happening (List.mem_of_mem_filter inside)
  exact ⟨new, row, member, closed, request, first, begins, taken⟩

def reclosedConversation : List Operation :=
  closedConversation ++ [.transmit ⟨1⟩ (guestFrame 1004 305419897 [.fin, .ack] [])]

/-- The end of a guest need not be taken once: here it is passed on twice, and the place
that is expected lies two behind the bytes that were taken. -/
theorem reclosed_conversation_is_ended_twice :
    conversed.IsNew ∧
      (∃ happening ∈ history conversed reclosedConversation, RepeatsEnd happening) ∧
      ((after conversed reclosedConversation).kernel.callsOn 0).countP Call.isShutdown = 2 ∧
      ∃ row ∈ (after conversed reclosedConversation).gateway.streams.rows, row.2.socket = 0 ∧
        row.2.guestNext = 1000 + 1 +
          UInt32.ofNat ((after conversed reclosedConversation).kernel.takenOn 0).length + 2 :=
  ⟨World.plain_isNew none, by decide +kernel, by decide +kernel, by decide +kernel⟩

end Session

end Masquerade
