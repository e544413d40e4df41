import Masquerade.Proofs.Gateway.Closing
import Masquerade.Proofs.Session.Replies
import Masquerade.Proofs.Session.Rounds

/-!
# A clean close

A guest closes a stream by its last mark, and by acknowledging ours.  Whatever the stream was
before and whatever happens to others in between, it has then left the table and its socket is
closed; and what the guest has to acknowledge is told by our mark, which has been sent by then.
-/

set_option autoImplicit false

namespace Masquerade

namespace World

theorem OnlyRounds.rests {flow : Flow} {world after : World} {rounds : List World}
    {happenings : List Happening} (only : OnlyRounds flow world rounds happenings after)
    (sound : world.Sound)
    (awaits : ∀ stream, world.gateway.streams.get? flow = some stream → stream.AwaitsEnd) :
    after.gateway.streams.get? flow = world.gateway.streams.get? flow := by
  induction only with
  | refl => rfl
  | aside steps silent _ ih =>
      have kept := steps.get?_streams_of_nil sound silent
      rw [← kept] at awaits ⊢
      exact ih (sound.steps steps) awaits
  | round steps _ ih =>
      have kept := get?_round_of_awaitsEnd sound steps awaits
      rw [← kept] at awaits ⊢
      exact ih (sound.steps steps) awaits

end World

namespace Session

variable {start : World}

/-- Our last mark has been sent, and a stream waits for the guest to acknowledge it by the
number behind it. -/
structure AwaitsAcknowledgment (past : List Happening) (stream : Stream) : Prop where
  last : stream.AwaitsEnd
  sent : ∃ segment ∈ sentIn (episode past stream.socket), segment.has .fin = true
  number : ∀ segment ∈ sentIn (episode past stream.socket), segment.has .fin = true →
    segment.header.sequence + 1 = stream.outsideNext

theorem awaitsAcknowledgment (new : start.IsNew) {operations : List Operation} {flow : Flow}
    {stream : Stream} (found : (after start operations).gateway.streams.get? flow = some stream)
    (last : stream.AwaitsEnd) :
    AwaitsAcknowledgment (history start operations) stream := by
  obtain ⟨_, _, past, final, life, whole, left, _⟩ :=
    life_of_row new (FlowTable.mem_rows_of_get? found)
  have left : final.stream = stream := left
  subst left
  obtain ⟨counted, _, placed⟩ := life.supplied
  obtain ⟨sent, number⟩ := placed.next_of_ending counted last.finSent
  rw [← whole] at sent number
  exact ⟨last, sent, number⟩

/-- What comes of a stream when its guest closes it: at first it may wait for the guest, next
it is still the same, and finally it is gone. -/
structure ClosesCleanly (flow : Flow) (stream : Stream) (past : List Happening)
    (first next final : World) : Prop where
  marked : ∀ still, first.gateway.streams.get? flow = some still →
    still.socket = stream.socket ∧ AwaitsAcknowledgment past still
  rests : next.gateway.streams.get? flow = first.gateway.streams.get? flow
  gone : final.gateway.streams.get? flow = none
  shut : ¬ final.kernel.IsOpen stream.socket

/-- Whatever the stream of a flow has come to: if its guest sends the last mark in its place,
and then an acknowledgment of what the stream has sent, without a segment in between, the
stream is gone and its socket closed.  In between the stream does not change, and the number
that is to be acknowledged is that behind our last mark. -/
theorem clean_close_frees_the_stream (new : start.IsNew) (operations : List Operation)
    {flow : Flow} {stream : Stream}
    (found : (after start operations).gateway.streams.get? flow = some stream)
    (sender second : NicId) {fin ack : Bytes} {between : List Operation} {number : UInt32}
    (closes : BringsLast start.gateway.subnet flow stream.guestNext fin)
    (silent : Silent start.gateway.subnet flow between)
    (acknowledges : BringsAcknowledgment start.gateway.subnet flow number ack) :
    let first := operations ++ [.transmit sender fin]
    let next := first ++ between
    (∀ still, (after start next).gateway.streams.get? flow = some still →
      number = still.outsideNext) →
    ClosesCleanly flow stream (history start first) (after start first) (after start next)
      (after start (next ++ [.transmit second ack])) := by
  intro first next answers
  have subnet : ∀ earlier, (after start earlier).gateway.subnet = start.gateway.subnet :=
    fun earlier => (steps_after earlier start).sameSetUp.subnet
  have sound : ∀ earlier, (after start earlier).Sound := sound_after new
  have closed : after start first = (after start operations).transmit sender fin :=
    after_append ..
  have ended : after start (next ++ [.transmit second ack]) =
      (after start next).transmit second ack := after_append ..
  rw [← subnet operations] at closes
  rw [← subnet first] at silent
  rw [← subnet next] at acknowledges
  have last := World.transmit_last (sound operations) found sender closes
  rw [← closed] at last
  have marked : ∀ still, (after start first).gateway.streams.get? flow = some still →
      still.AwaitsEnd := fun still stays => (last still stays).1
  have rests : (after start next).gateway.streams.get? flow =
      (after start first).gateway.streams.get? flow := by
    have rounds := onlyRounds_after (sound first) silent
    rw [← after_append] at rounds
    exact rounds.rests (sound first) marked
  -- The stream may also have ended at once, by its first segment: then nothing hears the second.
  have gone : (after start (next ++ [.transmit second ack])).gateway.streams.get? flow = none := by
    rw [ended]
    exact World.transmit_frees (sound next) second acknowledges fun still stays =>
      ⟨marked still (rests.symm.trans stays), answers still stays⟩
  have later := steps_after (.transmit sender fin :: between ++ [.transmit second ack])
    (after start operations)
  have same : operations ++ (.transmit sender fin :: between ++ [.transmit second ack]) =
      next ++ [.transmit second ack] := by simp [next, first]
  rw [← after_append, same] at later
  refine ⟨fun still stays => ?_, rests, gone, later.shut_of_gone (sound operations) found gone⟩
  obtain ⟨awaits, socket⟩ := last still stays
  exact ⟨socket, awaitsAcknowledgment new stays awaits⟩

/-! ## The guest of the conversation closes it -/

def lastFrame : Bytes := guestFrame 1003 305419897 [.fin, .ack] []

def farewellFrame : Bytes := guestFrame 1004 305419901 [.ack] []

def meanwhile : List Operation := [.poll 1, .transmit ⟨1⟩ queryFrame, .poll 2]

theorem meanwhile_silent : Silent conversed.gateway.subnet conversationFlow meanwhile := by
  intro sender frame member guest segment asked
  obtain ⟨_, query⟩ : sender = ⟨1⟩ ∧ frame = queryFrame := by simpa [meanwhile] using member
  have none : (Request.segmentOf? conversationFlow
      (Request.asked conversed.gateway.subnet queryFrame)).isNone = true := by
    decide +kernel
  rw [← query, segmentOf?_eq_some_iff.mpr ⟨guest, asked⟩] at none
  cases none

theorem conversation_closes_cleanly :
    conversed.IsNew ∧ Silent conversed.gateway.subnet conversationFlow meanwhile ∧
      BringsAcknowledgment conversed.gateway.subnet conversationFlow 305419901 farewellFrame ∧
      ∃ stream, (after conversed conversation).gateway.streams.get? conversationFlow =
          some stream ∧
        stream.phase = .connected ∧ stream.unacknowledged = [1, 2, 3] ∧
        BringsLast conversed.gateway.subnet conversationFlow stream.guestNext lastFrame ∧
        ((after conversed (conversation ++ [.transmit ⟨1⟩ lastFrame] ++ meanwhile)
          ).gateway.streams.get? conversationFlow).map Stream.outsideNext = some 305419901 ∧
        ClosesCleanly conversationFlow stream
          (history conversed (conversation ++ [.transmit ⟨1⟩ lastFrame]))
          (after conversed (conversation ++ [.transmit ⟨1⟩ lastFrame]))
          (after conversed (conversation ++ [.transmit ⟨1⟩ lastFrame] ++ meanwhile))
          (after conversed (conversation ++ [.transmit ⟨1⟩ lastFrame] ++ meanwhile ++
            [.transmit ⟨1⟩ farewellFrame])) := by
  have new : conversed.IsNew := World.plain_isNew none
  have here : ((after conversed conversation).gateway.streams.get? conversationFlow).any
      (fun stream => stream.phase = .connected ∧ stream.unacknowledged = [1, 2, 3] ∧
        stream.guestNext = 1003) = true := by
    decide +kernel
  have marked : (Request.segmentOf? conversationFlow
      (Request.asked conversed.gateway.subnet lastFrame)).any (fun segment =>
        segment.IsLastAt 1003) = true := by
    decide +kernel
  have bare : (Request.segmentOf? conversationFlow (Request.asked
      conversed.gateway.subnet farewellFrame)).any (fun segment =>
        segment.IsAcknowledgment ∧ segment.header.acknowledgment = 305419901) = true := by
    decide +kernel
  have awaited : ((after conversed (conversation ++ [.transmit ⟨1⟩ lastFrame] ++ meanwhile)
      ).gateway.streams.get? conversationFlow).map Stream.outsideNext = some 305419901 := by
    decide +kernel
  obtain ⟨stream, found, known⟩ := (Option.any_eq_true ..).mp here
  obtain ⟨connected, waiting, place⟩ := of_decide_eq_true known
  obtain ⟨_, brought, isLast⟩ := (Option.any_eq_true ..).mp marked
  obtain ⟨_, asked⟩ := segmentOf?_eq_some_iff.mp brought
  obtain ⟨_, acknowledged, isBare⟩ := (Option.any_eq_true ..).mp bare
  obtain ⟨_, askedNext⟩ := segmentOf?_eq_some_iff.mp acknowledged
  have closes : BringsLast conversed.gateway.subnet conversationFlow stream.guestNext
      lastFrame := by
    rw [place]
    exact ⟨_, _, asked, of_decide_eq_true isLast⟩
  have acknowledges : BringsAcknowledgment conversed.gateway.subnet conversationFlow 305419901
      farewellFrame := ⟨_, _, askedNext, of_decide_eq_true isBare⟩
  have answers : ∀ still, (after conversed (conversation ++ [.transmit ⟨1⟩ lastFrame] ++
      meanwhile)).gateway.streams.get? conversationFlow = some still →
        305419901 = still.outsideNext := by
    intro still stays
    rw [stays] at awaited
    exact (Option.some.inj awaited).symm
  exact ⟨new, meanwhile_silent, acknowledges, stream, found, connected, waiting, closes, awaited,
    clean_close_frees_the_stream new conversation found ⟨1⟩ ⟨1⟩ closes meanwhile_silent
      acknowledges answers⟩

end Session

end Masquerade
