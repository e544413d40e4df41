import Masquerade.Proofs.Gateway.Unbroken
import Masquerade.Proofs.Session.Frames
import Masquerade.Proofs.Session.Pacing

/-!
# Nothing stops a session

In every world that a session reaches, each frame of a controller and each round pass all
checks.  The host has no part in this but that a call neither brings more bytes than were
asked for nor takes more than were offered, which is so for whatever script.
-/

set_option autoImplicit false

namespace Masquerade

/-- A call neither brings more bytes than were asked for nor takes more than were offered. -/
structure Kernel.KeepsToBuffers (kernel : Kernel) : Prop where
  receive : ∀ socket most bytes,
    (kernel.receive socket most).1 = .ok bytes → bytes.length ≤ most
  receiveFrom : ∀ socket most bytes sender,
    (kernel.receiveFrom socket most).1 = .ok (bytes, sender) → bytes.length ≤ most
  send : ∀ socket bytes count, (kernel.send socket bytes).1 = .ok count → count ≤ bytes.length
  sendTo : ∀ socket target bytes count,
    (kernel.sendTo socket target bytes).1 = .ok count → count ≤ bytes.length

theorem Kernel.keepsToBuffers (kernel : Kernel) : kernel.KeepsToBuffers where
  receive _ _ _ came := receive_le (Prod.ext came rfl)
  receiveFrom _ _ _ _ came := receiveWaiting_le (Prod.ext came rfl)
  send _ _ _ taken := takenBy_le taken
  sendTo _ _ _ _ taken := takenBy_le taken

namespace Session

theorem isPaced_after {start : World} (new : start.IsNew) (operations : List Operation)
    {flow : Flow} {stream : Stream}
    (found : (after start operations).gateway.streams.get? flow = some stream) :
    stream.IsPaced (after start operations).gateway.retransmitRounds := by
  obtain ⟨request, first, past, last, life, whole, left, _⟩ :=
    life_of_row new (FlowTable.mem_rows_of_get? found)
  have here : last.stream = stream := left
  have counts := history_countsTo operations new.sound
  rw [← here, (steps_after operations start).sameSetUp.retransmitRounds]
  refine life.isPaced fun happening member => ?_
  rw [← whole] at member
  exact counts happening (List.mem_of_mem_filter member)

/-- Whatever bytes a controller sends, and whatever a round meets, nothing fails a check:
every stretch lies within, every answer and every segment of a stream is built, and a stream
that is open on the host gets its place.  Segments and replies are built of stretches within,
also where a reply is too long; and no count of rounds runs over. -/
theorem nothing_stops_the_gateway {start : World} (new : start.IsNew)
    (operations : List Operation) :
    let world := after start operations
    (∀ sender frame, Checked.transmit world sender frame = .ok (world.transmit sender frame)) ∧
    Checked.poll world = .ok world.poll ∧
    (∀ (stream : Stream) now flags sequence payload,
      Checked.streamFrame stream now flags sequence payload =
        Checked.built (stream.frame now flags sequence payload)) ∧
    (∀ (mapping : Mapping) flow payload, Checked.replyFrames mapping flow payload =
      Checked.built (mapping.replyFrames flow payload)) ∧
    (∀ flow stream, world.gateway.streams.get? flow = some stream →
      world.gateway.retransmitRounds < UInt32.size → stream.waitedRounds + 1 < UInt32.size) ∧
    ∀ kernel : Kernel, kernel.KeepsToBuffers := by
  intro world
  have sound : world.Sound := sound_after new operations
  have bounded : world.Bounded := bounded_after new operations
  refine ⟨Checked.transmit_eq bounded, Checked.poll_eq sound bounded, Checked.streamFrame_eq,
    Checked.replyFrames_eq, fun flow stream found small => ?_, Kernel.keepsToBuffers⟩
  have paced : stream.IsPaced world.gateway.retransmitRounds := isPaced_after new operations found
  unfold Stream.IsPaced at paced
  unfold UInt32.size at small ⊢
  omega

theorem conversation_is_not_stopped :
    conversed.IsNew ∧
      let world := after conversed conversation
      let ending := guestFrame 1003 305419897 [.fin, .ack] []
      Checked.transmit world ⟨1⟩ ending = .ok (world.transmit ⟨1⟩ ending) ∧
      (world.transmit ⟨1⟩ ending).gateway.mailbox.entries.length =
        world.gateway.mailbox.entries.length + 1 ∧
      (∀ most, Checked.transmit world ⟨1⟩ (ending.take most) =
        .ok (world.transmit ⟨1⟩ (ending.take most))) ∧
      Checked.poll world = .ok world.poll := by
  have new : conversed.IsNew := World.plain_isNew none
  have answered : ((after conversed conversation).transmit ⟨1⟩
      (guestFrame 1003 305419897 [.fin, .ack] [])).gateway.mailbox.entries.length =
        (after conversed conversation).gateway.mailbox.entries.length + 1 := by
    decide +kernel
  obtain ⟨frames, round, _⟩ := nothing_stops_the_gateway new conversation
  exact ⟨new, frames _ _, answered, fun _ => frames _ _, round⟩

end Session

end Masquerade
