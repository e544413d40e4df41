import Masquerade.Proofs.Gateway.Opened
import Masquerade.Proofs.Session.Steps

/-!
# The course of a session

Whatever is done on a network comes down to rounds and to frames that controllers
transmit.  Between them frames are picked up at most; no record changes and no call is
made.  What rounds and frames keep of the records and of the calls, a session keeps.
-/

set_option autoImplicit false

namespace Masquerade

open Kernel (Makes)
open World (Steps)

namespace World

/-- These rounds and frames lead from one world to the other. -/
inductive Course : World → List World → List (NicId × Bytes) → World → Prop
  | refl (world : World) : Course world [] [] world
  | aside {world between after : World} {rounds : List World} {frames : List (NicId × Bytes)}
      (steps : Steps world [] between)
      (mappings : between.gateway.mappings = world.gateway.mappings)
      (mailbox : between.gateway.mailbox.entries.Sublist world.gateway.mailbox.entries)
      (made : Makes [] world.kernel between.kernel)
      (rest : Course between rounds frames after) : Course world rounds frames after
  | round {world after : World} {rounds : List World} {frames : List (NicId × Bytes)}
      (rest : Course world.poll rounds frames after) : Course world (world :: rounds) frames after
  | frame {world after : World} {rounds : List World} {frames : List (NicId × Bytes)}
      (sender : NicId) (bytes : Bytes)
      (rest : Course (world.transmit sender bytes) rounds frames after) :
      Course world rounds ((sender, bytes) :: frames) after

namespace Course

variable {world between after : World} {rounds later : List World}
  {frames others : List (NicId × Bytes)}

theorem trans (start : Course world rounds frames between)
    (rest : Course between later others after) :
    Course world (rounds ++ later) (frames ++ others) after := by
  induction start with
  | refl => exact rest
  | aside steps mappings mailbox made _ ih => exact .aside steps mappings mailbox made (ih rest)
  | round _ ih => exact .round (ih rest)
  | frame sender bytes _ ih => exact .frame sender bytes (ih rest)

theorem still (steps : Steps world [] after)
    (mappings : after.gateway.mappings = world.gateway.mappings)
    (mailbox : after.gateway.mailbox.entries.Sublist world.gateway.mailbox.entries)
    (made : Makes [] world.kernel after.kernel) : Course world [] [] after :=
  .aside steps mappings mailbox made (.refl after)

/-- Only the kernel is asked something, and its calls are not told. -/
theorem looked {kernel : Kernel} (made : Makes [] world.kernel kernel) :
    Course world [] [] (world.withKernel kernel) :=
  .still (steps_looked made) rfl (List.Sublist.refl _) made

theorem keeps (Keeps : World → Prop) (course : Course world rounds frames after)
    (still : ∀ {before after : World}, after.gateway.mappings = before.gateway.mappings →
      Makes [] before.kernel after.kernel → Keeps before → Keeps after)
    (round : ∀ {world : World}, world.Sound → Keeps world → Keeps world.poll)
    (frame : ∀ {world : World} (sender : NicId) (bytes : Bytes), (sender, bytes) ∈ frames →
      world.Sound → Keeps world → Keeps (world.transmit sender bytes))
    (sound : world.Sound) (holds : Keeps world) : Keeps after := by
  induction course with
  | refl => exact holds
  | aside steps mappings _ made _ ih =>
      exact ih frame (sound.steps steps) (still mappings made holds)
  | @round world _ _ _ _ ih => exact ih frame (sound.steps (steps_poll world)) (round sound holds)
  | @frame world _ _ _ sender bytes _ ih =>
      refine ih (fun sender bytes member => frame sender bytes (List.mem_cons_of_mem _ member))
        (sound.steps (steps_transmit world sender bytes)) ?_
      exact frame sender bytes (List.mem_cons_self ..) sound holds

theorem keepsStill (Keeps : World → Prop) (course : Course world rounds [] after)
    (still : ∀ {before after : World}, after.gateway.mappings = before.gateway.mappings →
      Makes [] before.kernel after.kernel → Keeps before → Keeps after)
    (round : ∀ {world : World}, world.Sound → Keeps world → Keeps world.poll)
    (sound : world.Sound) (holds : Keeps world) : Keeps after :=
  course.keeps Keeps still round (fun _ _ member => absurd member List.not_mem_nil) sound holds

theorem keepsMappings (course : Course world rounds [] after) (sound : world.Sound) :
    KeepsMappings world after :=
  course.keepsStill (KeepsMappings world) (fun same _ kept => kept.trans (.of_same same))
    (fun sound kept => kept.trans (.poll sound)) sound (.of_same rfl)

theorem free (course : Course world rounds frames after) (noFrame : frames = [])
    (sound : world.Sound) (flow : Flow) : RoundsFree flow rounds world after := by
  induction course with
  | refl => exact .refl _
  | aside steps _ _ _ _ ih =>
      exact .aside (steps.get?_streams_of_nil sound rfl) (ih noFrame (sound.steps steps))
  | @round world _ _ _ _ ih =>
      have steps := steps_poll world
      exact .cons sound steps (ih noFrame (sound.steps steps))
  | frame => cases noFrame

end Course

/-! ## Rounds in a row -/

theorem pickUp_course (world : World) (nic : NicId) :
    Course world [] [] (world.pickUp nic).2 := by
  have steps := steps_pickUp world nic
  unfold pickUp at steps ⊢
  split at steps
  · exact .refl world
  · rename_i popped
    exact .still steps rfl (Backlog.sublist_of_pop? popped) (Makes.refl world.kernel)

theorem RowOfRounds.course {world after : World} {rounds : List World}
    {happenings : List Happening} (row : RowOfRounds world rounds happenings after) :
    Course world rounds [] after := by
  induction row with
  | refl world => exact .refl world
  | round _ ih => exact .round ih
  | @received world _ _ _ nic _ ih => exact .round ((pickUp_course world.poll nic).trans ih)

end World

namespace Session

open World (Course)

/-! ## Operations -/

def Operation.rounds (world : World) : Operation → List World
  | .poll rounds => World.roundsOf rounds world
  | .receive _ => [world]
  | .receiveUpTo nic most => World.receivingRounds nic most world
  | .available _ => [world]
  | _ => []

def Operation.frames : Operation → List (NicId × Bytes)
  | .transmit nic frame => [(nic, frame)]
  | _ => []

theorem course_run (operation : Operation) (world : World) :
    Course world (operation.rounds world) operation.frames (operation.run world).2 := by
  cases operation with
  | macOf | phase => exact .refl world
  | register nic =>
      exact .still (steps_run (.register nic) world) rfl (List.Sublist.refl _)
        (Makes.refl world.kernel)
  | transmit sender frame => exact .frame sender frame (.refl _)
  | poll rounds => exact (World.row_pollTimes rounds world).course
  | receive nic => exact .round (World.pickUp_course world.poll nic)
  | receiveUpTo nic most => exact (World.row_receiveUpTo nic most world).course
  | available => exact .round (.refl world.poll)
  | describe =>
      obtain ⟨kernel, looked, made⟩ := exists_lookAt_snd world
      rw [Operation.run, looked]
      exact .looked made
  | script outcomes randoms => exact .looked (world.kernel.makes_extendScript outcomes randoms)
  | change socket edit => exact .looked (world.kernel.makes_applyChange socket edit)

theorem course_of_no_frame (world : World) {operation : Operation}
    (noFrame : ∀ sender frame, operation ≠ .transmit sender frame) :
    Course world (operation.rounds world) [] (operation.run world).2 := by
  have course := course_run operation world
  cases operation with
  | transmit sender frame => exact absurd rfl (noFrame sender frame)
  | register | macOf | phase | poll | receive | receiveUpTo | available | describe | script
  | change => exact course

def roundsIn (world : World) : List Operation → List World
  | [] => []
  | operation :: rest => operation.rounds world ++ roundsIn (operation.run world).2 rest

theorem roundsIn_append (world : World) (first second : List Operation) :
    roundsIn world (first ++ second) =
      roundsIn world first ++ roundsIn (after world first) second := by
  induction first generalizing world with
  | nil => rfl
  | cons operation rest ih => simp only [List.cons_append, roundsIn, ih, List.append_assoc, after,
      List.foldl_cons]

theorem course_after (operations : List Operation) (world : World) :
    Course world (roundsIn world operations) (operations.flatMap Operation.frames)
      (after world operations) := by
  induction operations generalizing world with
  | nil => exact .refl world
  | cons operation rest ih =>
      rw [List.flatMap_cons]
      exact (course_run operation world).trans (ih (operation.run world).2)

end Session

end Masquerade
