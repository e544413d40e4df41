import Masquerade.Proofs.Gateway.Spread
import Masquerade.Proofs.Session.OutsideToGuest
import Masquerade.Proofs.Stream.Phases

/-!
# The phases of a life

Over its whole life a stream only goes forward.  It sends the mark of the beginning
once if it ever is connected, in the round in which that is found out; it sends the
last mark once if our stream to the guest ever comes to its end; and it sends bytes in
between only.
-/

set_option autoImplicit false

namespace Masquerade

open Packet (ControlBit)

namespace Happening

def phaseBefore : Happening → Option Phase
  | .opened _ _ _ _ => none
  | .turned _ _ before _ => some before.phase

def IsOfRound : Happening → Prop
  | .turned (.ready _ _) _ _ _ => True
  | _ => False

structure Connects (happening : Happening) : Prop where
  before : happening.phaseBefore = some .connecting
  after : happening.stream.phase = .connected

structure Closes (happening : Happening) : Prop where
  before : ∃ phase, happening.phaseBefore = some phase ∧ phase.isClosing = false
  after : happening.stream.phase.isClosing = true

end Happening

/-- What a happening sends fits the phases before and after it. -/
structure SendsInPhase (happening : Happening) : Prop where
  shown : happening.stream.Shows happening.frames happening.segments
  start : ∀ segment ∈ happening.segments, segment.has .syn = true →
    segment.header.flags = ControlBit.byteOf [.syn, .ack] ∧ happening.Connects
  connects : happening.Connects → happening.IsOfRound ∧ markCount .syn happening.segments = 1
  ending : ∀ segment ∈ happening.segments, segment.has .fin = true →
    segment.header.flags = ControlBit.byteOf [.ack, .fin] ∧ happening.Closes
  closes : happening.Closes → markCount .fin happening.segments = 1
  payload : ∀ segment ∈ happening.segments, segment.payload ≠ [] →
    happening.phaseBefore = some .connected ∧ happening.stream.phase = .connected

/-- How far a stream has come by some happenings, and which marks it has sent. -/
structure Phased (happenings : List Happening) (stream : Stream) : Prop where
  forward : happenings.Pairwise fun earlier later =>
    earlier.stream.phase.rank ≤ later.stream.phase.rank
  settled : stream.IsSettled
  startOnce : markCount .syn (sentIn happenings) ≤ 1
  started : ∀ happening ∈ happenings, happening.stream.phase = .connected →
    markCount .syn (sentIn happenings) = 1
  endOnce : markCount .fin (sentIn happenings) ≤ 1
  ended : ∀ happening ∈ happenings, happening.stream.phase.isClosing = true →
    markCount .fin (sentIn happenings) = 1

/-! ## Turn after turn -/

namespace Life

variable {request : Segment} {first : Stream} {past : List Happening} {last : Happening}

theorem settled (life : Life request first past last) : last.stream.IsSettled := by
  induction life with
  | opened opens opening unused made =>
      have unsent : first.finSent = false := congrArg Stream.finSent opening
      have phase : first.phase = .connecting := congrArg Stream.phase opening
      rw [Happening.stream, Stream.IsSettled, unsent, phase]
      rfl
  | @turned past last start life goesOn undisturbed cause now ih =>
      obtain ⟨calls, _, move⟩ := last.stream.turn_move now start cause
      exact move.settled ih

theorem forward (life : Life request first past last) :
    (past ++ [last]).Pairwise fun earlier later =>
      earlier.stream.phase.rank ≤ later.stream.phase.rank := by
  induction life with
  | opened => exact List.pairwise_singleton ..
  | @turned past last start life goesOn undisturbed cause now ih =>
      obtain ⟨calls, _, move⟩ := last.stream.turn_move now start cause
      have onward : last.stream.phase.rank ≤
          (Happening.turned cause now last.stream start).stream.phase.rank := move.forward
      refine List.pairwise_append.mpr ⟨ih, List.pairwise_singleton .., ?_⟩
      intro earlier member later only
      rw [List.mem_singleton.mp only]
      rcases List.mem_append.mp member with old | here
      · have before := (List.pairwise_append.mp ih).2.2 earlier old last (List.mem_singleton_self _)
        exact Nat.le_trans before onward
      · rw [List.mem_singleton.mp here]
        exact onward

theorem markCount_earlier_le (bit : ControlBit) {whole before after : List Happening}
    {happening : Happening} (split : whole = before ++ happening :: after) :
    markCount bit (sentIn (before ++ [happening])) ≤ markCount bit (sentIn whole) := by
  have joined : whole = (before ++ [happening]) ++ after := by
    rw [split, List.append_assoc]
    rfl
  have sum : sentIn whole = sentIn (before ++ [happening]) ++ sentIn after := by
    rw [joined]
    exact List.flatMap_append ..
  rw [sum, markCount_append]
  exact Nat.le_add_right ..

theorem started (life : Life request first past last) {happening : Happening}
    (member : happening ∈ past ++ [last]) (phase : happening.stream.phase = .connected) :
    markCount .syn (sentIn (past ++ [last])) = 1 := by
  obtain ⟨before, after, split⟩ := List.append_of_mem member
  have sent := (life.earlier split).supplied.1.connected phase
  have atLeast := markCount_earlier_le .syn split
  have atMost := life.supplied.1.startOnce
  omega

theorem markCount_fin (life : Life request first past last) :
    markCount .fin (sentIn (past ++ [last])) = last.stream.phase.isClosing.toNat := by
  have settled : last.stream.finSent = last.stream.phase.isClosing := life.settled
  rw [← settled]
  exact life.supplied.1.endOnce

theorem ended (life : Life request first past last) {happening : Happening}
    (member : happening ∈ past ++ [last]) (closing : happening.stream.phase.isClosing = true) :
    markCount .fin (sentIn (past ++ [last])) = 1 := by
  obtain ⟨before, after, split⟩ := List.append_of_mem member
  have sent := (life.earlier split).markCount_fin
  rw [closing] at sent
  have atLeast := markCount_earlier_le .fin split
  have atMost : last.stream.phase.isClosing.toNat ≤ 1 := Bool.toNat_le _
  rw [sent, Bool.toNat_true] at atLeast
  rw [← life.markCount_fin] at atMost
  omega

theorem phased (life : Life request first past last) : Phased (past ++ [last]) last.stream where
  forward := life.forward
  settled := life.settled
  startOnce := life.supplied.1.startOnce
  started := fun _ member phase => life.started member phase
  endOnce := by
    rw [life.markCount_fin]
    exact Bool.toNat_le _
  ended := fun _ member closing => life.ended member closing

theorem sendsInPhase (life : Life request first past last) : SendsInPhase last := by
  cases life with
  | opened =>
      have silent : ∀ segment ∈ ([] : List Segment), False := fun _ none => List.not_mem_nil none
      refine ⟨.nothing first, ?_, ?_, ?_, ?_, ?_⟩
      · exact fun segment member => (silent segment member).elim
      · intro connects
        cases connects.before
      · exact fun segment member => (silent segment member).elim
      · intro closes
        obtain ⟨phase, before, _⟩ := closes.before
        cases before
      · exact fun segment member => (silent segment member).elim
  | @turned past last start life goesOn undisturbed cause now =>
      have turned := Life.turned life goesOn undisturbed cause now
      obtain ⟨counted, buffered, _⟩ := life.supplied
      obtain ⟨shown, supply, _⟩ := turned_supply start cause now buffered.fits
      have sum : ∀ bit, markCount bit
          (sentIn ((past ++ [last]) ++ [.turned cause now last.stream start])) =
            markCount bit (sentIn (past ++ [last])) +
              markCount bit (Happening.turned cause now last.stream start).segments := by
        intro bit
        rw [sentIn_concat, markCount_append]
      refine ⟨shown, ?_, ?_, ?_, ?_, ?_⟩
      · intro segment member mark
        obtain ⟨flags, before, after⟩ := supply.start member mark
        exact ⟨flags, congrArg some before, after⟩
      · intro connects
        have before : last.stream.phase = .connecting := Option.some.inj connects.before
        constructor
        · obtain ⟨calls, _, move⟩ := last.stream.turn_move now start cause
          obtain ⟨rounds, ready, rfl⟩ := move.connects before connects.after
          trivial
        · have all := turned.supplied.1.connected connects.after
          rw [sum, (counted.connecting before).1, Nat.zero_add] at all
          exact all
      · intro segment member mark
        obtain ⟨flags, before, after⟩ := supply.ending life.settled member mark
        exact ⟨flags, ⟨_, rfl, before⟩, after⟩
      · intro closes
        obtain ⟨phase, same, unclosed⟩ := closes.before
        have before : last.stream.phase.isClosing = false := by
          rw [Option.some.inj same]
          exact unclosed
        have all := turned.markCount_fin
        rw [sum, life.markCount_fin, before, closes.after] at all
        simpa using all
      · intro segment member nonempty
        obtain ⟨before, after⟩ := supply.payload life.settled turned.settled member nonempty
        exact ⟨congrArg some before, after⟩

end Life

theorem World.transmitHappenings_not_isOfRound (world : World) (sender : NicId) (frame : Bytes) :
    ∀ happening ∈ world.transmitHappenings sender frame, ¬ happening.IsOfRound := by
  intro happening member ofRound
  obtain ⟨_, _, _, _, brought⟩ := asked_of_mem_transmitHappenings member
  cases broughtBy_of_mem brought with
  | turned | opened => exact ofRound

namespace Session

/-! ## From one table to a later one -/

theorem after_append (world : World) (first second : List Operation) :
    after world (first ++ second) = after (after world first) second :=
  List.foldl_append ..

theorem history_append (world : World) (first second : List Operation) :
    history world (first ++ second) = history world first ++ history (after world first) second := by
  induction first generalizing world with
  | nil => rfl
  | cons operation rest ih => simp only [List.cons_append, history, ih, List.append_assoc, after,
      List.foldl_cons]

/-- A stream that is still in the table later on has not gone back. -/
theorem rank_le_of_rows {start : World} (new : start.IsNew) {operations later : List Operation}
    {row : Flow × Stream} (member : row ∈ (after start operations).gateway.streams.rows)
    {laterRow : Flow × Stream}
    (laterMember : laterRow ∈ (after start (operations ++ later)).gateway.streams.rows)
    (same : laterRow.2.socket = row.2.socket) :
    row.2.phase.rank ≤ laterRow.2.phase.rank := by
  obtain ⟨_, _, past, last, _, whole, left, _⟩ := life_of_row new member
  obtain ⟨_, _, laterPast, laterLast, life, laterWhole, laterLeft, _⟩ :=
    life_of_row new laterMember
  have joined : laterPast ++ [laterLast] = past ++ [last] ++
      episode (history (after start operations) later) row.2.socket := by
    rw [← laterWhole, ← whole, ← episode_append, ← history_append, same]
  rw [← left, ← laterLeft]
  rcases List.eq_nil_or_concat (episode (history (after start operations) later) row.2.socket) with
    none | ⟨between, final, more⟩
  · rw [none, List.append_nil] at joined
    have same : laterLast = last := (List.cons.inj (List.append_inj' joined rfl).2).1
    exact Nat.le_of_eq (congrArg (fun happening => happening.stream.phase.rank) same.symm)
  · rw [more, List.concat_eq_append, ← List.append_assoc] at joined
    obtain ⟨before, ending⟩ := List.append_inj' joined rfl
    have there : last ∈ laterPast := by
      rw [before]
      exact List.mem_append_left _ (List.mem_append_right _ (List.mem_singleton_self _))
    exact (List.pairwise_append.mp life.forward).2.2 last there laterLast
      (List.mem_singleton_self _)

theorem transmit_does_not_connect {start : World} (new : start.IsNew)
    (operations : List Operation) (sender : NicId) (frame : Bytes) :
    ∀ happening ∈ (after start operations).transmitHappenings sender frame,
      ¬ happening.Connects := by
  intro happening member connects
  obtain ⟨before, future, split⟩ := List.append_of_mem member
  have whole : history start (operations ++ [.transmit sender frame]) =
      (history start operations ++ before) ++ happening :: future := by
    rw [history_append, List.append_assoc, ← split]
    exact congrArg _ (List.append_nil _)
  obtain ⟨request, first, life⟩ := life_of_split new whole
  exact World.transmitHappenings_not_isOfRound _ sender frame happening member
    (life.sendsInPhase.connects connects).1

/-- Whatever happens in a session, every stream goes through its phases in order and
sends what belongs to them: after each happening, for each stream in the table, and
from each table to every later one.  The mailbox gets just what happenings send. -/
theorem streams_keep_to_their_phases {start : World} (new : start.IsNew)
    (operations : List Operation) :
    (∀ before happening future, history start operations = before ++ happening :: future →
      Phased (episode (before ++ [happening]) happening.socket) happening.stream ∧
        SendsInPhase happening) ∧
    (∀ row ∈ (after start operations).gateway.streams.rows,
      Phased (episode (history start operations) row.2.socket) row.2 ∧
        ∀ later, ∀ laterRow ∈ (after start (operations ++ later)).gateway.streams.rows,
          laterRow.2.socket = row.2.socket → row.2.phase.rank ≤ laterRow.2.phase.rank) ∧
    (∀ sender frame, ∀ happening ∈ (after start operations).transmitHappenings sender frame,
      ¬ happening.Connects) ∧
    (after start operations).QueuesAsItHappens := by
  refine ⟨?_, ?_, transmit_does_not_connect new operations,
    (sound_after new operations).queuesAsItHappens⟩
  · intro before happening future split
    obtain ⟨request, first, life⟩ := life_of_split new split
    rw [episode_append, episode_singleton_self]
    exact ⟨life.phased, life.sendsInPhase⟩
  · intro row member
    obtain ⟨request, first, past, last, life, whole, left, _⟩ := life_of_row new member
    constructor
    · rw [whole, ← left]
      exact life.phased
    · exact fun later laterRow laterMember same => rank_le_of_rows new member laterMember same

theorem conversation_is_started_once :
    conversed.IsNew ∧ ∃ row ∈ (after conversed conversation).gateway.streams.rows,
      row.2.phase = .connected ∧ row.2.finSent = false ∧
        markCount .syn (sentIn (episode (history conversed conversation) row.2.socket)) = 1 := by
  have new : conversed.IsNew := World.plain_isNew none
  have there : ∃ row ∈ (after conversed conversation).gateway.streams.rows,
      row.2.phase = .connected ∧ ∃ happening ∈ episode (history conversed conversation)
        row.2.socket, happening.stream.phase = .connected := by
    decide +kernel
  obtain ⟨row, member, phase, happening, happened, connected⟩ := there
  have phased := ((streams_keep_to_their_phases new conversation).2.1 row member).1
  have unsent : row.2.finSent = false := by
    have settled : row.2.finSent = row.2.phase.isClosing := phased.settled
    rw [settled, phase]
    rfl
  exact ⟨new, row, member, phase, unsent, phased.started happening happened connected⟩

end Session

end Masquerade
