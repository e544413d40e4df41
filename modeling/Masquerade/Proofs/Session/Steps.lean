import Masquerade.Proofs.Gateway.Poll

/-!
# A session is a row of steps

The history of a session is what its steps bring with them.  Whatever relates the worlds before
and after frames and rounds, and can be put together, relates those before and after a
session.
-/

set_option autoImplicit false

namespace Masquerade

open World (Steps)
open Kernel (Makes)

namespace Session

/-! ## Looking at a network -/

theorem lookAt_snd (world : World) :
    (lookAt world).2 = match world.gateway.relay with
      | none => world
      | some relay => world.withKernel (world.kernel.localPort relay.socket).2 := by
  change world.relayPort.2 = _
  unfold World.relayPort
  cases world.gateway.relay with
  | none => rfl
  | some relay =>
      dsimp only
      split <;> rename_i named <;> rw [named] <;> rfl

theorem exists_lookAt_snd (world : World) :
    ∃ kernel, (lookAt world).2 = world.withKernel kernel ∧ Makes [] world.kernel kernel := by
  rw [lookAt_snd]
  split
  · exact ⟨world.kernel, rfl, .refl world.kernel⟩
  · exact ⟨_, rfl, world.kernel.makes_localPort _⟩

/-! ## Every operation -/

/-- Every operation is a row of steps, with the happenings it is said to have. -/
theorem steps_run (operation : Operation) (world : World) :
    Steps world (operation.happenings world) (operation.run world).2 := by
  cases operation with
  | register nic =>
      exact .single (.aside world.gateway.clock world.gateway.mailbox
        (nic.register world.gateway.nics))
  | macOf | phase => exact .refl world
  | transmit nic frame => exact World.steps_transmit world nic frame
  | poll rounds => exact (World.row_pollTimes rounds world).steps
  | receive nic => exact World.steps_pollAndReceive world nic
  | receiveUpTo nic most => exact (World.row_receiveUpTo nic most world).steps
  | available => exact World.steps_poll world
  | describe =>
      obtain ⟨kernel, looked, made⟩ := exists_lookAt_snd world
      rw [Operation.run, looked]
      exact World.steps_looked made
  | script outcomes randoms =>
      exact World.steps_looked (world.kernel.makes_extendScript outcomes randoms)
  | change socket edit => exact World.steps_looked (world.kernel.makes_applyChange socket edit)

theorem steps_after (operations : List Operation) (world : World) :
    Steps world (history world operations) (after world operations) := by
  induction operations generalizing world with
  | nil => exact .refl world
  | cons operation rest ih => exact (steps_run operation world).trans (ih _)

/-! ## What frames and rounds bring about -/

/-- A relation between two worlds and what happens from one to the other, which holds for frames
and rounds, and where nothing happens and the clock stays, and can be put together. -/
structure Composes (Relates : World → List Happening → World → Prop) : Prop where
  trans : ∀ {before between after : World} {first second : List Happening},
    Relates before first between → Relates between second after →
      Relates before (first ++ second) after
  aside : ∀ {before after : World}, Steps before [] after →
    after.gateway.clock = before.gateway.clock → Relates before [] after
  frame : ∀ (world : World) (sender : NicId) (frame : Bytes),
    Relates world (world.transmitHappenings sender frame) (world.transmit sender frame)
  round : ∀ world : World, Relates world world.pollHappenings world.poll

namespace Composes

variable {Relates : World → List Happening → World → Prop} (composes : Composes Relates)
include composes

theorem pollAndReceive (nic : NicId) (world : World) :
    Relates world world.pollHappenings (world.pollAndReceive nic).2 := by
  have clock : (world.poll.pickUp nic).2.gateway.clock = world.poll.gateway.clock := by
    unfold World.pickUp
    split <;> rfl
  have picked := composes.aside (World.steps_pickUp world.poll nic) clock
  have received := composes.trans (composes.round world) picked
  rwa [List.append_nil] at received

theorem rounds {world after : World} {rounds : List World} {happenings : List Happening}
    (row : World.RowOfRounds world rounds happenings after) : Relates world happenings after := by
  induction row with
  | refl world => exact composes.aside (.refl world) rfl
  | @round world _ _ _ _ ih => exact composes.trans (composes.round world) ih
  | @received world _ _ _ nic _ ih => exact composes.trans (composes.pollAndReceive nic world) ih

theorem run (operation : Operation) (world : World) :
    Relates world (operation.happenings world) (operation.run world).2 := by
  have steps := steps_run operation world
  cases operation with
  | transmit sender frame => exact composes.frame world sender frame
  | poll rounds => exact composes.rounds (World.row_pollTimes rounds world)
  | receive nic => exact composes.pollAndReceive nic world
  | receiveUpTo nic most => exact composes.rounds (World.row_receiveUpTo nic most world)
  | available => exact composes.round world
  | register | macOf | phase | script | change => exact composes.aside steps rfl
  | describe =>
      obtain ⟨kernel, looked, _⟩ := exists_lookAt_snd world
      refine composes.aside steps ?_
      rw [Operation.run, looked]
      rfl

theorem history (operations : List Operation) (world : World) :
    Relates world (history world operations) (after world operations) := by
  induction operations generalizing world with
  | nil => exact composes.aside (.refl world) rfl
  | cons operation rest ih => exact composes.trans (composes.run operation world) (ih _)

end Composes

/-- What holds of all that a frame or a round brings about, as long as the world keeps something
that steps keep, holds of all that a session brings about. -/
theorem history_forall {Keeps : World → Prop} {Holds : Happening → Prop}
    (keeps : ∀ {before after : World} {happenings : List Happening},
      Steps before happenings after → Keeps before → Keeps after)
    (frame : ∀ (world : World) (sender : NicId) (frame : Bytes), Keeps world →
      ∀ happening ∈ world.transmitHappenings sender frame, Holds happening)
    (round : ∀ world : World, Keeps world → ∀ happening ∈ world.pollHappenings, Holds happening)
    (operations : List Operation) {world : World} (kept : Keeps world) :
    ∀ happening ∈ history world operations, Holds happening := by
  have composes : Composes fun before happenings after =>
      Keeps before → Keeps after ∧ ∀ happening ∈ happenings, Holds happening := by
    refine ⟨fun first second kept => ?_, fun steps _ kept => ⟨keeps steps kept, by simp⟩,
      fun world sender bytes kept => ?_, fun world kept => ?_⟩
    · obtain ⟨between, early⟩ := first kept
      obtain ⟨after, late⟩ := second between
      exact ⟨after, List.forall_mem_append.mpr ⟨early, late⟩⟩
    · exact ⟨keeps (World.steps_transmit world sender bytes) kept, frame world sender bytes kept⟩
    · exact ⟨keeps (World.steps_poll world) kept, round world kept⟩
  exact (composes.history operations world kept).2

end Session

end Masquerade
