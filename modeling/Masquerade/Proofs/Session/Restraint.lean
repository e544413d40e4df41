import Masquerade.Proofs.Gateway.OnePerRecord
import Masquerade.Proofs.Session.Frames

/-!
# Restraint

Nothing that comes to the gateway makes it send more than it has to: one answer to a frame, one
segment and one look at what has come for each stream in a round.  A guest that sends bytes
together with its last mark gets one segment for both.
-/

set_option autoImplicit false

namespace Masquerade.Session

/-- Whatever was done on a network before, a frame is answered once at most, and a round serves
each stream and each mapping once at most. -/
theorem nothing_is_amplified {start : World} (new : start.IsNew) (operations : List Operation) :
    let world := after start operations
    (∀ sender frame, world.AnswersOnce sender frame) ∧ world.ServesOnce := by
  intro world
  have sound : world.Sound := sound_after new operations
  have bounded : world.Bounded := bounded_after new operations
  exact ⟨World.transmit_answersOnce sound bounded, World.poll_servesOnce sound bounded⟩

/-- The guest of the conversation acknowledges the answer and sends its last two bytes together
with its last mark. -/
def lastWords : Bytes := guestFrame 1003 305419900 [.fin, .ack] [9, 8]

theorem last_words_are_answered_once :
    let world := after conversed conversation
    let left := (world.transmit ⟨1⟩ lastWords).gateway.mailbox.entries.drop
      world.gateway.mailbox.entries.length
    conversed.IsNew ∧ world.AnswersOnce ⟨1⟩ lastWords ∧ world.ServesOnce ∧
      left.map Prod.fst = [⟨1⟩] ∧
      (segmentsIn (left.map Prod.snd)).map (fun answer => answer.header.acknowledgment) = [1006] ∧
      ((world.transmit ⟨1⟩ lastWords).kernel.callsSince world.kernel).countP
        world.gateway.isProxiedOffer = 1 := by
  intro world left
  have new : conversed.IsNew := World.plain_isNew none
  obtain ⟨answers, serves⟩ := nothing_is_amplified new conversation
  exact ⟨new, answers ⟨1⟩ lastWords, serves, by decide +kernel, by decide +kernel,
    by decide +kernel⟩

end Masquerade.Session
