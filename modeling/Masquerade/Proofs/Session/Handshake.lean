import Masquerade.Proofs.Session.Drawn
import Masquerade.Proofs.Session.GuestToOutside
import Masquerade.Proofs.Session.Phases
import Masquerade.Proofs.Stream.Beginning

/-!
# The handshake

The answer to its request is the first that a guest gets of a stream, unless the stream
is broken off, and before that nothing is taken from the guest: provided that the guest
does not close before it is answered.  If it does, its last mark is accepted and passed
on, ours comes in place of the answer, and the stream is closed by both sides at once.
-/

set_option autoImplicit false

namespace Masquerade

open Packet (ControlBit)

def sentOpenly (happenings : List Happening) : List Segment :=
  (sentIn happenings).filter fun segment => !segment.has .rst

def ClosesEarly (happening : Happening) : Prop :=
  happening.phaseBefore = some .connecting ∧ happening.acceptsFin = true

instance (happening : Happening) : Decidable (ClosesEarly happening) :=
  inferInstanceAs (Decidable (_ ∧ _))

structure IsHandshake (request : Segment) (first : Stream) (segment : Segment) : Prop where
  flags : segment.header.flags = ControlBit.byteOf [.syn, .ack]
  sequence : segment.header.sequence = first.outsideNext
  acknowledgment : segment.header.acknowledgment = request.header.sequence + 1

/-- While the stream is being connected nothing passes in either direction. -/
structure KeepsBack (happening : Happening) : Prop where
  noFin : happening.acceptsFin = false
  calls : ∀ call ∈ happening.calls, call.isSend = false ∧ call.isShutdown = false
  segments : ∀ segment ∈ happening.segments,
    segment.has .syn = true ∨ segment.has .rst = true

structure HandshakeFirst (request : Segment) (first : Stream) (happenings : List Happening) :
    Prop where
  answer : ∀ segment, (sentOpenly happenings).head? = some segment →
    IsHandshake request first segment
  keepsBack : ∀ happening ∈ happenings, happening.phaseBefore = some .connecting →
    KeepsBack happening

structure EndsEarly (first : Stream) (happening : Happening) : Prop where
  calls : ∃ result, happening.calls = [.shutdown happening.socket result]
  segments : ∃ segment, happening.segments = [segment] ∧
    Stream.IsAt segment (ControlBit.byteOf [.ack, .fin]) first.outsideNext []
  phase : happening.stream.phase = .bothClosed

structure Unanswered (request : Segment) (first : Stream) (happenings : List Happening)
    (stream : Stream) : Prop where
  nothing : sentOpenly happenings = []
  next : stream.outsideNext = first.outsideNext
  guestNext : stream.guestNext = request.header.sequence + 1

theorem sentOpenly_concat (past : List Happening) (last : Happening) :
    sentOpenly (past ++ [last]) =
      sentOpenly past ++ last.segments.filter fun segment => !segment.has .rst := by
  rw [sentOpenly, sentIn_concat, List.filter_append]
  rfl

/-! ## Turn after turn -/

namespace Life

variable {request : Segment} {first : Stream} {past : List Happening} {last : Happening}

theorem begins (life : Life request first past last) (phase : last.stream.phase = .connecting)
    (cause : Stream.Cause) (now : Nat) (start : Kernel) :
    let turned : Happening := .turned cause now last.stream start
    ∃ calls segments, last.stream.Begins cause calls segments turned.stream ∧
      turned.calls = calls ∧ turned.segments = segments := by
  intro turned
  have unsent : last.stream.finSent = false := by
    rw [life.settled, phase]
    rfl
  obtain ⟨calls, made, move⟩ := last.stream.turn_move now start cause
  obtain ⟨segments, shown, begins⟩ := move.begins phase unsent
  exact ⟨calls, segments, begins, made.callsSince_eq, shown.segmentsIn_eq⟩

theorem connecting_of_turned {stream : Stream} {cause : Stream.Cause} {now : Nat} {start : Kernel}
    (phase : (Happening.turned cause now stream start).stream.phase = .connecting) :
    stream.phase = .connecting := by
  obtain ⟨_, _, move⟩ := stream.turn_move now start cause
  have onward : stream.phase.rank ≤
      (Happening.turned cause now stream start).stream.phase.rank := move.forward
  rw [phase] at onward
  cases before : stream.phase with
  | connecting => rfl
  | connected | outsideClosed | bothClosed =>
      rw [before] at onward
      exact absurd onward (by decide)

theorem unanswered (life : Life request first past last)
    (phase : last.stream.phase = .connecting) :
    Unanswered request first (past ++ [last]) last.stream := by
  induction life with
  | opened opens opening => exact ⟨rfl, rfl, congrArg Stream.guestNext opening⟩
  | @turned past last start life goesOn undisturbed cause now ih =>
      have before := connecting_of_turned phase
      obtain ⟨nothing, next, guestNext⟩ := ih before
      obtain ⟨calls, segments, begins, _, sent⟩ := life.begins before cause now start
      have openly := sentOpenly_concat (past ++ [last]) (.turned cause now last.stream start)
      rw [nothing, List.nil_append, sent] at openly
      cases begins with
      | waits _ same sameGuest => exact ⟨openly, same.trans next, sameGuest.trans guestNext⟩
      | givesUp isAt _ same sameGuest =>
          have reset := isAt.has .rst
          refine ⟨openly.trans ?_, same.trans next, sameGuest.trans guestNext⟩
          rw [List.filter_singleton, reset]
          rfl
      | accepts _ _ connected =>
          rw [phase] at connected
          cases connected
      | ends _ closed =>
          rw [phase] at closed
          cases closed

/-- Unless the guest closes early, the first segment is the answer. -/
theorem answered (life : Life request first past last)
    (late : ∀ happening ∈ past ++ [last], ¬ ClosesEarly happening)
    (phase : last.stream.phase ≠ .connecting) :
    ∃ answer rest, sentOpenly (past ++ [last]) = answer :: rest ∧
      IsHandshake request first answer := by
  induction life with
  | opened opens opening => exact absurd (congrArg Stream.phase opening) phase
  | @turned past last start life goesOn undisturbed cause now ih =>
      have openly := sentOpenly_concat (past ++ [last]) (.turned cause now last.stream start)
      by_cases before : last.stream.phase = .connecting
      · obtain ⟨nothing, next, guestNext⟩ := life.unanswered before
        obtain ⟨calls, segments, begins, called, sent⟩ := life.begins before cause now start
        rw [nothing, List.nil_append, sent] at openly
        cases begins with
        | waits same | givesUp _ same => exact absurd same phase
        | @accepts segment _ isAt acknowledges =>
            have noReset := isAt.has .rst
            refine ⟨segment, [], openly.trans ?_, isAt.flags, isAt.sequence.trans next,
              acknowledges.trans guestNext⟩
            rw [List.filter_singleton, noReset]
            rfl
        | ends _ _ fin =>
            have early : ClosesEarly (.turned cause now last.stream start) :=
              ⟨congrArg some before, (Happening.acceptsFin_turned called).trans fin⟩
            exact absurd early (late _ (List.mem_append_right _ (List.mem_singleton_self _)))
      · obtain ⟨answer, rest, told, isHandshake⟩ :=
          ih (fun happening member => late happening (List.mem_append_left _ member)) before
        rw [told, List.cons_append] at openly
        exact ⟨answer, _, openly, isHandshake⟩

theorem keepsBack_or_endsEarly (life : Life request first past last)
    (phase : last.phaseBefore = some .connecting) :
    KeepsBack last ∨ last.acceptsFin = true ∧ EndsEarly first last := by
  cases life with
  | opened => cases phase
  | @turned past last start life goesOn undisturbed cause now =>
      have before : last.stream.phase = .connecting := Option.some.inj phase
      have next := (life.unanswered before).next
      have socket := Happening.socket_turned cause now last.stream start
      obtain ⟨calls, segments, begins, called, sent⟩ := life.begins before cause now start
      have fin := Happening.acceptsFin_turned called
      cases begins with
      | waits _ _ _ noFin =>
          refine Or.inl ⟨fin.trans noFin, ?_, ?_⟩
          · simp [called]
          · simp [sent]
      | accepts isAt _ _ noFin =>
          have start := isAt.has .syn
          refine Or.inl ⟨fin.trans noFin, ?_, ?_⟩
          · simp [called]
          · intro segment member
            rw [sent, List.mem_singleton] at member
            exact Or.inl (member ▸ start)
      | givesUp isAt _ _ _ noFin =>
          have reset := isAt.has .rst
          refine Or.inl ⟨fin.trans noFin, ?_, ?_⟩
          · simp [called]
          · intro segment member
            rw [sent, List.mem_singleton] at member
            exact Or.inr (member ▸ reset)
      | @ends result segment _ isAt closed accepted =>
          rw [next] at isAt
          rw [← socket] at called
          exact Or.inr ⟨fin.trans accepted, ⟨result, called⟩, ⟨segment, sent, isAt⟩, closed⟩

theorem handshakeFirst_iff (life : Life request first past last) :
    HandshakeFirst request first (past ++ [last]) ↔
      ∀ happening ∈ past ++ [last], ¬ ClosesEarly happening := by
  constructor
  · rintro ⟨_, keepsBack⟩ happening member ⟨phase, fin⟩
    rw [(keepsBack happening member phase).noFin] at fin
    cases fin
  · intro late
    constructor
    · intro segment head
      by_cases phase : last.stream.phase = .connecting
      · rw [(life.unanswered phase).nothing] at head
        cases head
      · obtain ⟨answer, rest, told, isHandshake⟩ := life.answered late phase
        rw [told] at head
        exact Option.some.inj head ▸ isHandshake
    · intro happening member phase
      obtain ⟨before, after, split⟩ := List.append_of_mem member
      rcases (life.earlier split).keepsBack_or_endsEarly phase with kept | ⟨fin, _⟩
      · exact kept
      · exact absurd ⟨phase, fin⟩ (late happening member)

theorem endsEarly (life : Life request first past last) (early : ClosesEarly last) :
    EndsEarly first last := by
  rcases life.keepsBack_or_endsEarly early.1 with kept | ⟨_, ends⟩
  · have same := kept.noFin.symm.trans early.2
    cases same
  · exact ends

end Life

namespace Session

/-- Whatever happens in a session, after each happening of a stream: the stream began in a
random place; the handshake has come first, just if the guest has not closed before it
was answered; and if it has, that was the end of the stream for both sides. -/
theorem handshake_comes_first {start : World} (new : start.IsNew) (operations : List Operation) :
    ∀ before happening future, history start operations = before ++ happening :: future →
      let happenings := episode (before ++ [happening]) happening.socket
      ∃ request first, BeginsWith request first happenings ∧
        (∀ other ∈ happenings, other.DrawsPlace) ∧
        (HandshakeFirst request first happenings ↔
          ∀ other ∈ happenings, ¬ ClosesEarly other) ∧
        ∀ other ∈ happenings, ClosesEarly other → EndsEarly first other := by
  intro before happening future split happenings
  obtain ⟨request, first, life⟩ := life_of_split new split
  have whole : happenings = episode before happening.socket ++ [happening] :=
    (episode_append ..).trans (congrArg _ (episode_singleton_self happening))
  refine ⟨request, first, whole ▸ life.beginsWith, ?_, whole ▸ life.handshakeFirst_iff, ?_⟩
  · intro other member
    have there := List.mem_of_mem_filter member
    refine history_drawsPlace operations start other ?_
    rw [split, List.append_cons]
    exact List.mem_append_left _ there
  · intro other member early
    rw [whole] at member
    obtain ⟨earlier, later, parted⟩ := List.append_of_mem member
    exact (life.earlier parted).endsEarly early

theorem conversation_begins_with_handshake :
    conversed.IsNew ∧ ∃ before happening,
      history conversed conversation = before ++ [happening] ∧
        (sentOpenly (episode (before ++ [happening]) happening.socket)).length = 3 ∧
        ∃ request first,
          HandshakeFirst request first (episode (before ++ [happening]) happening.socket) := by
  have new : conversed.IsNew := World.plain_isNew none
  have late : ∀ happening ∈ history conversed conversation, ¬ ClosesEarly happening := by
    decide +kernel
  have sent : ∀ happening ∈ history conversed conversation,
      (sentOpenly (episode (history conversed conversation) happening.socket)).length = 3 := by
    decide +kernel
  have happened : (history conversed conversation).length = 4 := by decide +kernel
  rcases List.eq_nil_or_concat (history conversed conversation) with none | ⟨before, last, whole⟩
  · rw [none] at happened
    cases happened
  · rw [List.concat_eq_append] at whole
    obtain ⟨request, first, _, _, decided, _⟩ :=
      handshake_comes_first new conversation before last [] whole
    rw [whole] at late sent
    have member : last ∈ before ++ [last] :=
      List.mem_append_right _ (List.mem_singleton_self _)
    have kept := decided.mpr fun happening inside => late happening (List.mem_of_mem_filter inside)
    exact ⟨new, before, last, whole, sent last member, request, first, kept⟩

def impatience : List Operation :=
  conversation.take 2 ++ [.transmit ⟨1⟩ (guestFrame 1001 0 [.fin] []),
    .change 0 { writable := some true }, .poll 1]

/-- The handshake need not come first: the guest that has closed gets the last mark, which
is passed on, and never the first one. -/
theorem impatience_gets_no_handshake :
    conversed.IsNew ∧
      (∃ happening ∈ history conversed impatience, ClosesEarly happening ∧
        (happening.calls.any Call.isShutdown) = true) ∧
      (sentOpenly (history conversed impatience)).map (fun segment => segment.header.flags) =
        [Packet.ControlBit.byteOf [.ack, .fin]] :=
  ⟨World.plain_isNew none, by decide +kernel, by decide +kernel⟩

end Session

end Masquerade
