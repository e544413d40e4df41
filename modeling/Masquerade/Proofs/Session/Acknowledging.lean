import Masquerade.Proofs.Session.Pacing
import Masquerade.Proofs.Stream.Acknowledging

/-!
# What guests acknowledge

A segment of a guest changes what its stream takes for acknowledged only by a number that
may be acknowledged, unless it is in order and brings another one.  Then an old number
stands for the last one and keeps the stream from reading, and a number of bytes that were
never sent makes those that wait forgotten.
-/

set_option autoImplicit false

namespace Masquerade

theorem Stream.acknowledges_unmarked (stream : Stream) {segment : Segment}
    (unmarked : segment.has .ack = false) : stream.Acknowledges segment stream := by
  refine .of_parts ?_ fun waiting => ⟨fun none => absurd none waiting, fun released => ?_⟩
  · rw [if_neg fun heard => ?_]
    rw [unmarked] at heard
    cases heard.2
  · have marked := released.1.marked
    rw [unmarked] at marked
    cases marked

theorem Happening.remains_eq_some {happening : Happening} {still : Stream}
    (stays : happening.remains = some still) :
    happening.ends = false ∧ happening.stream = still := by
  unfold Happening.remains at stays
  split at stays
  · cases stays
  · rename_i goesOn
    exact ⟨Bool.eq_false_iff.mpr goesOn, Option.some.inj stays⟩

namespace World

structure Hears (world : World) (sender : NicId) (frame : Bytes) (flow : Flow) (stream : Stream)
    (segment : Segment) (still : Stream) : Prop where
  there : world.gateway.streams.get? flow = some stream
  asked : ∃ guest, Request.asked world.gateway.subnet frame = some (.segment guest flow segment)
  stays : (world.transmit sender frame).gateway.streams.get? flow = some still

variable {world : World} {sender : NicId} {frame : Bytes} {flow : Flow} {stream still : Stream}
  {segment : Segment}

theorem Hears.acknowledges (hears : world.Hears sender frame flow stream segment still)
    (sound : world.Sound) : stream.Acknowledges segment still := by
  have steps := steps_transmit world sender frame
  obtain ⟨found, ⟨guest, asked⟩, stays⟩ := hears
  cases opens : segment.opens with
  | true =>
      have unmarked := ((Segment.opens_iff segment).mp opens).2.1
      have none : happeningsOf flow (world.transmitHappenings sender frame) = [] := by
        by_contra happens
        obtain ⟨_, other, askedFor, noOpening⟩ := asked_of_turn sound found happens
        rw [asked] at askedFor
        cases askedFor
        rw [opens] at noOpening
        cases noOpening
      rw [steps.get?_streams_of_nil sound none, found] at stays
      exact Option.some.inj stays ▸ stream.acknowledges_unmarked unmarked
  | false =>
      have one := happeningsOf_of_asked sound found sender asked opens
      rw [steps.get?_streams_of_singleton sound one] at stays
      obtain ⟨goesOn, left⟩ := Happening.remains_eq_some stays
      exact left ▸ stream.onSegment_acknowledges _ segment _ goesOn

def hearing (world : World) (sender : NicId) (frame : Bytes) (flow : Flow) :
    Option (Stream × Segment × Stream) :=
  match world.gateway.streams.get? flow, Request.asked world.gateway.subnet frame,
      (world.transmit sender frame).gateway.streams.get? flow with
  | some stream, some (.segment _ other segment), some still =>
    if other = flow then some (stream, segment, still) else none
  | _, _, _ => none

theorem hears_of_hearing {hears : Stream × Segment × Stream}
    (heard : world.hearing sender frame flow = some hears) :
    world.Hears sender frame flow hears.1 hears.2.1 hears.2.2 := by
  unfold hearing at heard
  split at heard
  · rename_i there asked stays
    split at heard
    · rename_i same
      subst same
      cases heard
      exact ⟨there, ⟨_, asked⟩, stays⟩
    · cases heard
  · cases heard

end World

namespace Session

/-- A segment changes what its stream takes for acknowledged, and makes it forget bytes,
exactly as it is in order and marked; so that only numbers that may be acknowledged take
effect just if each segment that is in order brings one of those. -/
theorem acknowledgments_take_effect {start : World} (new : start.IsNew)
    (operations : List Operation) {sender : NicId} {frame : Bytes} {flow : Flow}
    {stream still : Stream} {segment : Segment}
    (hears : (after start operations).Hears sender frame flow stream segment still) :
    stream.Acknowledges segment still := hears.acknowledges (sound_after new operations)

/-! ## A guest that acknowledges the answer -/

def acknowledgingFrame (number : UInt32) : Bytes := guestFrame 1003 number [.ack] []

def acknowledgedConversation : List Operation :=
  conversation ++ [.transmit ⟨1⟩ (acknowledgingFrame 305419900)]

theorem conversation_is_acknowledged :
    conversed.IsNew ∧ ∃ stream segment still,
      (after conversed conversation).Hears ⟨1⟩ (acknowledgingFrame 305419900) conversationFlow
        stream segment still ∧
      stream.unacknowledged = [1, 2, 3] ∧ still.unacknowledged = [] ∧
      stream.Acknowledges segment still := by
  have heard : ((after conversed conversation).hearing ⟨1⟩ (acknowledgingFrame 305419900)
      conversationFlow).any (fun heard =>
        heard.1.unacknowledged = [1, 2, 3] ∧ heard.2.2.unacknowledged = []) = true := by
    decide +kernel
  obtain ⟨⟨stream, segment, still⟩, found, bytes⟩ := (Option.any_eq_true ..).mp heard
  obtain ⟨waiting, forgotten⟩ := of_decide_eq_true bytes
  have hears := World.hears_of_hearing found
  have new : conversed.IsNew := World.plain_isNew none
  exact ⟨new, stream, segment, still, hears, waiting, forgotten,
    acknowledgments_take_effect new conversation hears⟩

/-- Numbers that may not be acknowledged take effect.  That of a byte which was never sent
makes the answer forgotten before the guest has it; and once the guest has acknowledged all,
an old number takes the place of the last one, and the stream does not read any more. -/
theorem wrong_numbers_take_effect :
    conversed.IsNew ∧
      (∃ stream segment still, (after conversed conversation).Hears ⟨1⟩
          (acknowledgingFrame 305420900) conversationFlow stream segment still ∧
        ¬ stream.MayBeAcknowledged segment.header.acknowledgment ∧ stream.TakesEffect still ∧
        stream.unacknowledged = [1, 2, 3] ∧ still.unacknowledged = []) ∧
      ∃ stream segment still, (after conversed acknowledgedConversation).Hears ⟨1⟩
          (acknowledgingFrame 305419897) conversationFlow stream segment still ∧
        ¬ stream.MayBeAcknowledged segment.header.acknowledgment ∧ stream.TakesEffect still ∧
        stream.guestAcknowledged = stream.outsideNext ∧
        still.guestAcknowledged ≠ still.outsideNext := by
  have forged : ((after conversed conversation).hearing ⟨1⟩ (acknowledgingFrame 305420900)
      conversationFlow).any (fun heard =>
        ¬ heard.1.MayBeAcknowledged heard.2.1.header.acknowledgment ∧
          heard.1.TakesEffect heard.2.2 ∧ heard.1.unacknowledged = [1, 2, 3] ∧
          heard.2.2.unacknowledged = []) = true := by
    decide +kernel
  have stale : ((after conversed acknowledgedConversation).hearing ⟨1⟩
      (acknowledgingFrame 305419897) conversationFlow).any (fun heard =>
        ¬ heard.1.MayBeAcknowledged heard.2.1.header.acknowledgment ∧
          heard.1.TakesEffect heard.2.2 ∧
          heard.1.guestAcknowledged = heard.1.outsideNext ∧
          heard.2.2.guestAcknowledged ≠ heard.2.2.outsideNext) = true := by
    decide +kernel
  obtain ⟨_, forgedFound, forgedEffect⟩ := (Option.any_eq_true ..).mp forged
  obtain ⟨_, staleFound, staleEffect⟩ := (Option.any_eq_true ..).mp stale
  exact ⟨World.plain_isNew none,
    ⟨_, _, _, World.hears_of_hearing forgedFound, of_decide_eq_true forgedEffect⟩,
    ⟨_, _, _, World.hears_of_hearing staleFound, of_decide_eq_true staleEffect⟩⟩

end Session

end Masquerade
