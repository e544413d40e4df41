import Masquerade.Proofs.Session.Ending

/-!
# While the guest says nothing

A guest that sends no segment of a flow leaves its stream alone: the stream has turns in
rounds only, one in each round whose look succeeds.
-/

set_option autoImplicit false

namespace Masquerade

open World (Steps)

namespace World

/-- A row of steps in which the stream of a flow has no turns but in these rounds. -/
inductive OnlyRounds (flow : Flow) : World → List World → List Happening → World → Prop
  | refl (world : World) : OnlyRounds flow world [] [] world
  | aside {world between after : World} {rounds : List World} {first rest : List Happening}
      (steps : Steps world first between) (silent : happeningsOf flow first = [])
      (later : OnlyRounds flow between rounds rest after) :
      OnlyRounds flow world rounds (first ++ rest) after
  | round {world between after : World} {rounds : List World} {rest : List Happening}
      (steps : Steps world world.pollHappenings between)
      (later : OnlyRounds flow between rounds rest after) :
      OnlyRounds flow world (world :: rounds) (world.pollHappenings ++ rest) after

namespace OnlyRounds

variable {flow : Flow} {world between after : World} {early late : List World}
  {first rest : List Happening}

theorem trans (start : OnlyRounds flow world early first between)
    (later : OnlyRounds flow between late rest after) :
    OnlyRounds flow world (early ++ late) (first ++ rest) after := by
  induction start with
  | refl => exact later
  | aside steps silent _ ih =>
      rw [List.append_assoc]
      exact .aside steps silent (ih later)
  | round steps _ ih =>
      rw [List.append_assoc]
      exact .round steps (ih later)

theorem none (steps : Steps world first after) (silent : happeningsOf flow first = []) :
    OnlyRounds flow world [] first after := by
  have rest := aside steps silent (refl after)
  rwa [List.append_nil] at rest

theorem single (steps : Steps world world.pollHappenings after) :
    OnlyRounds flow world [world] world.pollHappenings after := by
  have rest : OnlyRounds flow world [world] (world.pollHappenings ++ []) after :=
    round steps (refl after)
  rwa [List.append_nil] at rest

end OnlyRounds

theorem RowOfRounds.onlyRounds (flow : Flow) {world after : World} {rounds : List World}
    {happenings : List Happening} (row : RowOfRounds world rounds happenings after) :
    OnlyRounds flow world rounds happenings after := by
  induction row with
  | refl world => exact .refl world
  | @round world _ _ _ _ ih => exact .round (steps_poll world) ih
  | @received world _ _ _ nic _ ih => exact .round (steps_pollAndReceive world nic) ih

end World

namespace Session

open World (OnlyRounds)

def Silent (subnet : Subnet) (flow : Flow) (operations : List Operation) : Prop :=
  ∀ sender frame, Operation.transmit sender frame ∈ operations → ∀ guest segment,
    Request.asked subnet frame ≠ some (.segment guest flow segment)

variable {flow : Flow}

theorem onlyRounds_run {world : World} (sound : world.Sound) {operation : Operation}
    (silent : ∀ sender frame, operation = .transmit sender frame → ∀ guest segment,
      Request.asked world.gateway.subnet frame ≠ some (.segment guest flow segment)) :
    OnlyRounds flow world (operation.rounds world) (operation.happenings world)
      (operation.run world).2 := by
  have steps := steps_run operation world
  cases operation with
  | transmit sender frame =>
      refine .none steps ?_
      by_contra happens
      obtain ⟨guest, segment, _, asked, _⟩ := World.asked_of_happening sound happens
      exact silent sender frame rfl guest segment asked
  | poll rounds => exact (World.row_pollTimes rounds world).onlyRounds flow
  | receive | available => exact .single steps
  | receiveUpTo nic most => exact (World.row_receiveUpTo nic most world).onlyRounds flow
  | register | macOf | phase | describe | script | change => exact .none steps rfl

theorem onlyRounds_after {world : World} (sound : world.Sound) {operations : List Operation}
    (silent : Silent world.gateway.subnet flow operations) :
    OnlyRounds flow world (roundsIn world operations) (history world operations)
      (after world operations) := by
  induction operations generalizing world with
  | nil => exact .refl world
  | cons operation rest ih =>
      have steps := steps_run operation world
      have here : ∀ sender frame, operation = .transmit sender frame → ∀ guest segment,
          Request.asked world.gateway.subnet frame ≠ some (.segment guest flow segment) :=
        fun sender frame same => silent sender frame (same ▸ List.mem_cons_self ..)
      refine (onlyRounds_run sound here).trans (ih (sound.steps steps) ?_)
      rw [steps.sameSetUp.subnet]
      exact fun sender frame member => silent sender frame (List.mem_cons_of_mem _ member)

end Session

end Masquerade
