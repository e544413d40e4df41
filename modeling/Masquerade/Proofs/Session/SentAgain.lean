import Masquerade.Proofs.Gateway.Rounds
import Masquerade.Proofs.Session.Phases
import Masquerade.Proofs.Session.Rounds

/-!
# Bytes that are sent again

While a stream is connected, the bytes that wait on it are sent again in one of so many
rounds, unless a round finds an error on the socket.  From then on, or once the guest has
closed, they go on waiting but are never sent again.
-/

set_option autoImplicit false

namespace Masquerade

open Packet (ControlBit)
open World (OnlyRounds Steps)

namespace Happening

def SendsAgain (stream : Stream) (happening : Happening) : Prop :=
  happening.socket = stream.socket ∧ ∃ segment ∈ happening.segments,
    segment.header.sequence = stream.unacknowledgedFrom ∧
      segment.payload = stream.unacknowledged

def MeetsError (stream : Stream) : Happening → Prop
  | .turned (.ready _ own) _ before start =>
    before.socket = stream.socket ∧ before.FindsError own start
  | _ => False

end Happening

section Due

variable {stream : Stream} {own : Kernel.Readiness} {start : Kernel} {rounds : Nat}

theorem turn_sendsAgain (now : Nat) (phase : stream.phase = .connected)
    (waiting : stream.unacknowledged ≠ []) (fits : stream.unacknowledged.length ≤ Stream.mostRead)
    (none : ¬ stream.FindsError own start) (due : rounds ≤ stream.waitedRounds + 1) :
    (Happening.turned (.ready rounds own) now stream start).SendsAgain stream := by
  obtain ⟨looked, run⟩ := Stream.onReady_of_due now rounds phase waiting none due
  obtain ⟨segment, shown, isAt⟩ := Stream.emit_shows { stream with waitedRounds := 0 } now
    (ControlBit.byteOf [.ack, .psh]) stream.unacknowledgedFrom fits (by decide)
  refine ⟨Happening.socket_turned .., segment, ?_, isAt.sequence, isAt.payload⟩
  have sent : (Happening.turned (.ready rounds own) now stream start).frames =
      ({ stream with waitedRounds := 0 }.retransmit now).2 := congrArg Turn.frames run
  have read := shown.segmentsIn_eq
  rw [Happening.segments, sent]
  exact read ▸ List.mem_singleton_self _

theorem turn_waits (now : Nat) (phase : stream.phase = .connected)
    (waiting : stream.unacknowledged ≠ []) (none : ¬ stream.FindsError own start)
    (undue : stream.waitedRounds + 1 < rounds) :
    (Happening.turned (.ready rounds own) now stream start).remains =
      some { stream with waitedRounds := stream.waitedRounds + 1 } := by
  obtain ⟨looked, run⟩ := Stream.onReady_of_undue now rounds phase waiting none undue
  have goesOn : (Happening.turned (.ready rounds own) now stream start).ends = false :=
    congrArg Turn.ends run
  rw [Happening.remains, goesOn]
  exact congrArg some (congrArg Turn.stream run)

end Due

/-- Of so many rounds whose look succeeds, one sends the bytes again or finds an error. -/
theorem World.OnlyRounds.sendsAgain {flow : Flow} {world after : World} {rounds : List World}
    {happenings : List Happening} (only : OnlyRounds flow world rounds happenings after)
    {stream : Stream} (sound : world.Sound)
    (found : world.gateway.streams.get? flow = some stream) (phase : stream.phase = .connected)
    (waiting : stream.unacknowledged ≠ []) (fits : stream.unacknowledged.length ≤ Stream.mostRead)
    (enough : world.gateway.retransmitRounds ≤ stream.waitedRounds + rounds.countP World.looks)
    (atLeastOne : 0 < rounds.countP World.looks) :
    ∃ happening ∈ happenings, happening.SendsAgain stream ∨ happening.MeetsError stream := by
  induction only generalizing stream with
  | refl => exact absurd atLeastOne (Nat.lt_irrefl 0)
  | aside steps silent _ ih =>
      have still := (steps.get?_streams_of_nil sound silent).trans found
      rw [← steps.sameSetUp.retransmitRounds] at enough
      obtain ⟨happening, member, found⟩ :=
        ih (sound.steps steps) still phase waiting fits enough atLeastOne
      exact ⟨happening, List.mem_append_right _ member, found⟩
  | @round world between after rounds rest steps _ ih =>
      cases looks : world.looks with
      | false =>
          have silent := World.pollHappenings_of_not_looks looks
          rw [List.countP_cons_of_neg (by rw [looks]; exact Bool.false_ne_true)] at enough atLeastOne
          rw [silent] at steps ⊢
          have still := (steps.get?_streams_of_nil sound rfl).trans found
          rw [← steps.sameSetUp.retransmitRounds] at enough
          exact ih (sound.steps steps) still phase waiting fits enough atLeastOne
      | true =>
          obtain ⟨own, start, turns⟩ := World.hasTurn_of_looks sound looks found
          obtain ⟨now, one, here⟩ := turns.mem
          have member := List.mem_append_left rest here
          by_cases finds : stream.FindsError own start
          · exact ⟨_, member, Or.inr ⟨rfl, finds⟩⟩
          · by_cases due : world.gateway.retransmitRounds ≤ stream.waitedRounds + 1
            · exact ⟨_, member, Or.inl (turn_sendsAgain now phase waiting fits finds due)⟩
            · -- The stream has waited for one more round, and some of the rounds are left.
              have undue := Nat.lt_of_not_le due
              rw [List.countP_cons_of_pos looks] at enough
              have left : 0 < rounds.countP World.looks := by omega
              have still := (steps.get?_streams_of_singleton sound one).trans
                (turn_waits now phase waiting finds undue)
              have onward : between.gateway.retransmitRounds ≤
                  stream.waitedRounds + 1 + rounds.countP World.looks := by
                rw [steps.sameSetUp.retransmitRounds]
                omega
              obtain ⟨happening, later, again⟩ :=
                ih (sound.steps steps) still phase waiting fits onward left
              exact ⟨happening, List.mem_append_right _ later, again⟩

namespace Session

/-- Whatever comes later, if the guest says nothing for so many rounds, the bytes that wait
are sent again or an error is found. -/
def WillSendAgain (world : World) (flow : Flow) (stream : Stream) : Prop :=
  ∀ later, Silent world.gateway.subnet flow later →
    max 1 world.gateway.retransmitRounds ≤ (roundsIn world later).countP World.looks →
    ∃ happening ∈ history world later, happening.SendsAgain stream ∨ happening.MeetsError stream

def SendsNoBytes (world : World) (stream : Stream) : Prop :=
  ∀ later, ∀ happening ∈ history world later, happening.socket = stream.socket →
    ∀ segment ∈ happening.segments, segment.payload = []

theorem life_of_later {start : World} (new : start.IsNew) {operations later : List Operation}
    {row : Flow × Stream} (member : row ∈ (after start operations).gateway.streams.rows)
    {happening : Happening} (happens : happening ∈ history (after start operations) later)
    (same : happening.socket = row.2.socket) :
    ∃ request first past last, Life request first past happening ∧ last ∈ past ∧
      last.stream = row.2 := by
  obtain ⟨before, future, split⟩ := List.append_of_mem happens
  have whole : history start (operations ++ later) =
      (history start operations ++ before) ++ happening :: future := by
    rw [history_append, split, List.append_assoc]
  obtain ⟨request, first, life⟩ := life_of_split new whole
  obtain ⟨_, _, past, last, _, told, left, _⟩ := life_of_row new member
  refine ⟨request, first, _, last, life, ?_, left⟩
  rw [same, episode_append, told]
  exact List.mem_append_left _ (List.mem_append_right _ (List.mem_singleton_self _))

theorem rank_le_of_later {start : World} (new : start.IsNew) {operations later : List Operation}
    {row : Flow × Stream} (member : row ∈ (after start operations).gateway.streams.rows)
    {happening : Happening} (happens : happening ∈ history (after start operations) later)
    (same : happening.socket = row.2.socket) :
    row.2.phase.rank ≤ happening.stream.phase.rank ∧ SendsInPhase happening := by
  obtain ⟨request, first, past, last, life, there, left⟩ := life_of_later new member happens same
  refine ⟨?_, life.sendsInPhase⟩
  rw [← left]
  exact (List.pairwise_append.mp life.forward).2.2 last there happening
    (List.mem_singleton_self _)

theorem sendsNoBytes_of_closing {start : World} (new : start.IsNew) {operations : List Operation}
    {row : Flow × Stream} (member : row ∈ (after start operations).gateway.streams.rows)
    (closing : row.2.phase.isClosing = true) : SendsNoBytes (after start operations) row.2 := by
  intro later happening happens same segment sent
  by_contra nonempty
  obtain ⟨onward, inPhase⟩ := rank_le_of_later new member happens same
  rw [(inPhase.payload segment sent nonempty).2] at onward
  have reached : Phase.outsideClosed.rank ≤ row.2.phase.rank := of_decide_eq_true closing
  exact absurd (Nat.le_trans reached onward) (by decide)

/-- Whenever bytes wait on a stream, it is connected and they will be sent again, in the
place in which they were sent; or it is closing and they never will. -/
theorem waiting_bytes_are_sent_again {start : World} (new : start.IsNew)
    (operations : List Operation) {flow : Flow} {stream : Stream}
    (found : (after start operations).gateway.streams.get? flow = some stream)
    (waiting : stream.unacknowledged ≠ []) :
    let world := after start operations
    (stream.phase = .connected ∧ WillSendAgain world flow stream ∧
      ∃ segment ∈ sentIn (episode (history start operations) stream.socket),
        segment.header.sequence = stream.unacknowledgedFrom ∧
          segment.payload = stream.unacknowledged) ∨
    (stream.phase.isClosing = true ∧ SendsNoBytes world stream) := by
  intro world
  have sound : world.Sound := sound_after new operations
  have member := FlowTable.mem_rows_of_get? found
  obtain ⟨request, first, past, last, life, whole, left, _⟩ := life_of_row new member
  have buffered := life.supplied.2.1
  rw [left] at buffered
  cases phase : stream.phase with
  | connecting => exact absurd (buffered.connecting phase) waiting
  | connected =>
      obtain ⟨_, segment, sent, payload, place⟩ := buffered.waiting phase waiting
      refine Or.inl ⟨rfl, ?_, segment, whole ▸ sent, place, payload⟩
      intro later silent enough
      have only := onlyRounds_after sound silent
      exact only.sendsAgain sound found phase waiting buffered.fits (by omega) (by omega)
  | outsideClosed | bothClosed =>
      exact Or.inr ⟨rfl, sendsNoBytes_of_closing new member (by rw [phase]; rfl)⟩

/-! ## A guest that loses what was sent -/

def hasty : World :=
  let plain := World.plain (NameService.load none)
  { plain with gateway := { plain.gateway with retransmitRounds := 1 } }

theorem hasty_isNew : hasty.IsNew := ⟨{ retransmitRounds := 1 }, [], none, [], [], rfl⟩

theorem silent_poll (subnet : Subnet) (flow : Flow) (rounds : Nat) :
    Silent subnet flow [.poll rounds] := by
  intro sender frame member
  rw [List.mem_singleton] at member
  cases member

theorem conversation_is_sent_again :
    hasty.IsNew ∧ ∃ stream,
      (after hasty conversation).gateway.streams.get? conversationFlow = some stream ∧
      stream.unacknowledged = [1, 2, 3] ∧
      ∃ happening ∈ history (after hasty conversation) [.poll 1],
        happening.SendsAgain stream ∨ happening.MeetsError stream := by
  have waits : ((after hasty conversation).gateway.streams.get? conversationFlow).any
      (fun stream => stream.phase = .connected ∧ stream.unacknowledged = [1, 2, 3]) = true := by
    decide +kernel
  obtain ⟨stream, found, there⟩ := (Option.any_eq_true ..).mp waits
  obtain ⟨connected, bytes⟩ := of_decide_eq_true there
  have waiting : stream.unacknowledged ≠ [] := by
    rw [bytes]
    exact List.cons_ne_nil 1 [2, 3]
  refine ⟨hasty_isNew, stream, found, bytes, ?_⟩
  rcases waiting_bytes_are_sent_again hasty_isNew conversation found waiting with
    ⟨_, again, _⟩ | ⟨closing, _⟩
  · exact again [.poll 1] (silent_poll _ _ 1) (by decide +kernel)
  · rw [connected] at closing
    cases closing

/-- A round in which a stream has its turn need not send the bytes that wait again: not
once the guest has closed. -/
theorem closed_conversation_is_not_sent_again :
    hasty.IsNew ∧ ∃ stream,
      (after hasty closedConversation).gateway.streams.get? conversationFlow = some stream ∧
      stream.unacknowledged = [1, 2, 3] ∧
      Silent (after hasty closedConversation).gateway.subnet conversationFlow [.poll 1] ∧
      max 1 (after hasty closedConversation).gateway.retransmitRounds ≤
        (roundsIn (after hasty closedConversation) [.poll 1]).countP World.looks ∧
      ∀ happening ∈ history (after hasty closedConversation) [.poll 1],
        ¬ happening.SendsAgain stream := by
  have waits : ((after hasty closedConversation).gateway.streams.get? conversationFlow).any
      (fun stream => stream.unacknowledged = [1, 2, 3]) = true := by
    decide +kernel
  have nothing : ∀ happening ∈ history (after hasty closedConversation) [.poll 1],
      happening.segments = [] := by
    decide +kernel
  obtain ⟨stream, found, there⟩ := (Option.any_eq_true ..).mp waits
  refine ⟨hasty_isNew, stream, found, of_decide_eq_true there, silent_poll _ _ 1, by decide +kernel, ?_⟩
  rintro happening member ⟨_, segment, sent, _⟩
  rw [nothing happening member] at sent
  cases sent

end Session

end Masquerade
