import Masquerade.Proofs.Gateway.Relaying
import Masquerade.Proofs.Session.Frames
import Masquerade.Proofs.Session.Rounds

/-!
# What the relay brings in a session

Whatever is done on a network, what has come to the socket of its relay has been taken from
there in rounds, or still waits there; nothing is lost, doubled or put in another place.
-/

set_option autoImplicit false

namespace Masquerade

open Kernel (Queues)
open World (Steps)

namespace World

/-- A row of changes of a world in which just these arrivals come to the socket of the relay,
and which takes them from there in just these rounds. -/
inductive Feeds (relay : Relay) : World → List World → List Arrival → World → Prop
  | refl (world : World) : Feeds relay world [] [] world
  | aside {world between after : World} {rounds : List World} {news later : List Arrival}
      (queues : ∀ waiting, world.kernel.Queues relay.socket waiting →
        between.kernel.Queues relay.socket (waiting ++ news))
      (steps : ∃ happenings, Steps world happenings between)
      (rest : Feeds relay between rounds later after) :
      Feeds relay world rounds (news ++ later) after
  | round {world after : World} {rounds : List World} {later : List Arrival}
      (rest : Feeds relay world.poll rounds later after) :
      Feeds relay world (world :: rounds) later after

namespace Feeds

variable {relay : Relay} {world between after : World} {early late : List World}
  {news later : List Arrival}

theorem trans (start : Feeds relay world early news between)
    (rest : Feeds relay between late later after) :
    Feeds relay world (early ++ late) (news ++ later) after := by
  induction start with
  | refl => exact rest
  | aside queues steps _ ih =>
      rw [List.append_assoc]
      exact .aside queues steps (ih rest)
  | round _ ih => exact .round (ih rest)

theorem come (queues : ∀ waiting, world.kernel.Queues relay.socket waiting →
      after.kernel.Queues relay.socket (waiting ++ news))
    (steps : ∃ happenings, Steps world happenings after) : Feeds relay world [] news after := by
  have rest := aside queues steps (refl after)
  rwa [List.append_nil] at rest

theorem still (queues : ∀ waiting, world.kernel.Queues relay.socket waiting →
      after.kernel.Queues relay.socket waiting)
    (steps : ∃ happenings, Steps world happenings after) : Feeds relay world [] [] after := by
  refine come (fun waiting waits => ?_) steps
  rw [List.append_nil]
  exact queues waiting waits

/-- What was there and what has come is used up or is left, in its order, and what is used up is
taken but for the failures.  Of what was there, so much is used up as has fewer failures than
there are rounds that look, since each of them gets past one. -/
theorem uses_up (feeds : Feeds relay world early news after) (sound : world.Sound)
    (here : world.gateway.relay = some relay) {waiting : List Arrival}
    (queues : world.kernel.Queues relay.socket waiting) :
    ∃ used left, after.kernel.Queues relay.socket left ∧ waiting ++ news = used ++ left ∧
      early.flatMap (fun round => round.takes relay.socket) =
        (used.filter fun arrival => !arrival.isFailure).map (Arrival.kept mostRelayed) ∧
      ∀ first, first <+: waiting → first.countP Arrival.isFailure < early.countP looks →
        first <+: used := by
  induction feeds generalizing waiting with
  | refl =>
      exact ⟨[], waiting, queues, List.append_nil waiting, rfl,
        fun _ _ few => absurd few (Nat.not_lt_zero _)⟩
  | aside later steps _ ih =>
      obtain ⟨_, steps⟩ := steps
      obtain ⟨used, left, queue, whole, took, past⟩ :=
        ih (sound.steps steps) (steps.sameSetUp.relay.trans here) (later waiting queues)
      rw [List.append_assoc] at whole
      exact ⟨used, left, queue, whole, took,
        fun first inside => past first (inside.trans (List.prefix_append ..))⟩
  | @round world _ rounds later _ ih =>
      have steps := steps_poll world
      have soundNext := sound.steps steps
      have hereNext := steps.sameSetUp.relay.trans here
      cases succeeds : world.looks with
      | true =>
          obtain ⟨received, errno, left, split⟩ := SplitAtFailure.exists_split waiting
          obtain ⟨taken, rest⟩ := drained_of_split split
          obtain ⟨gone, parted, fine, behind⟩ := split.exists_used
          obtain ⟨tookNow, next, _⟩ := poll_drains sound here queues succeeds
          rw [rest] at next
          obtain ⟨used, left, queue, whole, took, past⟩ := ih soundNext hereNext next
          refine ⟨gone ++ used, left, queue, ?_, ?_, fun first inside few => ?_⟩
          · rw [parted, List.append_assoc, whole, List.append_assoc]
          · rw [List.flatMap_cons, tookNow, taken, took, List.filter_append, fine,
              List.map_append]
          · rcases behind first inside with before | ⟨more, rfl, goesOn, one⟩
            · exact before.trans (List.prefix_append ..)
            · -- A part that goes on behind the failure needs a look less than before.
              rw [one, List.countP_cons_of_pos succeeds] at few
              exact (List.prefix_append_right_inj gone).mpr
                (past more goesOn (Nat.lt_of_succ_lt_succ few))
      | false =>
          obtain ⟨tookNow, next⟩ := poll_of_not_looks queues succeeds
          obtain ⟨used, left, queue, whole, took, past⟩ := ih soundNext hereNext next
          refine ⟨used, left, queue, whole, ?_, fun first inside few => past first inside ?_⟩
          · rw [List.flatMap_cons, tookNow, took, List.nil_append]
          · rwa [List.countP_cons_of_neg (Bool.eq_false_iff.mp succeeds)] at few

theorem queues_exists (feeds : Feeds relay world early news after) (sound : world.Sound)
    (here : world.gateway.relay = some relay) {waiting : List Arrival}
    (queues : world.kernel.Queues relay.socket waiting) :
    ∃ left, after.kernel.Queues relay.socket left := by
  obtain ⟨_, left, queue, _⟩ := feeds.uses_up sound here queues
  exact ⟨left, queue⟩

theorem conserves (feeds : Feeds relay world early news after) (sound : world.Sound)
    (here : world.gateway.relay = some relay) {waiting : List Arrival}
    (queues : world.kernel.Queues relay.socket waiting)
    (clean : ∀ arrival ∈ waiting ++ news, arrival.isFailure = false) :
    ∃ left, after.kernel.Queues relay.socket left ∧
      (∀ arrival ∈ left, arrival.isFailure = false) ∧
      (waiting ++ news).map (Arrival.kept mostRelayed) =
        early.flatMap (fun round => round.takes relay.socket) ++
          left.map (Arrival.kept mostRelayed) := by
  obtain ⟨used, left, queue, whole, took, _⟩ := feeds.uses_up sound here queues
  rw [whole] at clean
  obtain ⟨fineUsed, fineLeft⟩ := List.forall_mem_append.mp clean
  have all : used.filter (fun arrival => !arrival.isFailure) = used :=
    List.filter_eq_self.mpr (by simpa using fineUsed)
  refine ⟨left, queue, fineLeft, ?_⟩
  rw [whole, took, all, List.map_append]

theorem drains (feeds : Feeds relay world early news after) (sound : world.Sound)
    (here : world.gateway.relay = some relay) {waiting : List Arrival}
    (queues : world.kernel.Queues relay.socket waiting)
    (clean : ∀ arrival ∈ waiting, arrival.isFailure = false) (ended : news = [])
    (looked : waiting = [] ∨ ∃ round ∈ early, round.looks = true) :
    after.kernel.Queues relay.socket [] := by
  obtain ⟨used, left, queue, whole, _, past⟩ := feeds.uses_up sound here queues
  rw [ended, List.append_nil] at whole
  suffices nothing : left = [] by rwa [nothing] at queue
  rcases looked with rfl | found
  · exact (List.append_eq_nil_iff.mp whole.symm).2
  · have none : waiting.countP Arrival.isFailure = 0 :=
      List.countP_eq_zero.mpr (by simpa using clean)
    have all := past waiting List.prefix_rfl (none ▸ List.countP_pos_iff.mpr found)
    have short := all.length_le
    rw [whole, List.length_append] at short
    exact List.length_eq_zero_iff.mp (by omega)

end Feeds

variable {relay : Relay}

theorem pickUp_feeds (nic : NicId) (world : World) :
    Feeds relay world [] [] (world.pickUp nic).2 := by
  refine .still (fun waiting queues => ?_) ⟨[], steps_pickUp world nic⟩
  unfold pickUp
  split <;> exact queues

theorem RowOfRounds.feeds {world after : World} {rounds : List World}
    {happenings : List Happening} (row : RowOfRounds world rounds happenings after) :
    Feeds relay world rounds [] after := by
  induction row with
  | refl world => exact .refl world
  | round _ ih => exact .round ih
  | @received world _ _ _ nic _ ih => exact .round ((pickUp_feeds nic world.poll).trans ih)

end World

namespace Session

open World (Feeds)

variable {relay : Relay}

def Operation.arrivals (socket : SocketId) : Operation → List Arrival
  | .change other edit => if other = socket then edit.arrivals else []
  | _ => []

theorem feeds_run {world : World} (sound : world.Sound)
    (here : world.gateway.relay = some relay) (operation : Operation) :
    Feeds relay world (operation.rounds world) (operation.arrivals relay.socket)
      (operation.run world).2 := by
  have steps := steps_run operation world
  cases operation with
  | register | macOf | phase => exact .still (fun _ queues => queues) ⟨_, steps⟩
  | transmit sender frame =>
      exact .still (fun _ queues => World.queues_transmit sound here queues sender frame)
        ⟨_, steps⟩
  | poll rounds => exact (World.row_pollTimes rounds world).feeds
  | receive nic => exact .round (World.pickUp_feeds nic world.poll)
  | receiveUpTo nic most => exact (World.row_receiveUpTo nic most world).feeds
  | available => exact .round (.refl world.poll)
  | describe =>
      refine .still (fun _ queues => ?_) ⟨_, steps⟩
      rw [Operation.run, lookAt_snd, here]
      exact queues.of_same (world.kernel.leavesAlone_localPort relay.socket relay.socket).same
  | script => exact .still (fun _ queues => queues.of_same rfl) ⟨_, steps⟩
  | change socket edit =>
      refine .come (fun waiting queues => ?_) ⟨_, steps⟩
      by_cases own : socket = relay.socket
      · subst own
        rw [Operation.arrivals, if_pos rfl]
        have isOpen := (sound.held.isOpen_iff_mem _).mpr (World.relay_mem_holders here)
        exact queues.applyChange isOpen edit
      · rw [Operation.arrivals, if_neg own, List.append_nil]
        exact queues.of_same (world.kernel.leavesAlone_applyChange own edit).same

theorem feeds_after {world : World} (sound : world.Sound)
    (here : world.gateway.relay = some relay) (operations : List Operation) :
    Feeds relay world (roundsIn world operations)
      (operations.flatMap (Operation.arrivals relay.socket)) (after world operations) := by
  induction operations generalizing world with
  | nil => exact .refl world
  | cons operation rest ih =>
      have steps := steps_run operation world
      rw [List.flatMap_cons]
      exact (feeds_run sound here operation).trans
        (ih (sound.steps steps) (steps.sameSetUp.relay.trans here))

end Session

theorem World.openRelay_queues {port : Option UInt16} {peers : List Endpoint}
    {kernel after : Kernel} {relay : Relay}
    (opened : openRelay port peers kernel = (.ok (some relay), after)) :
    after.Queues relay.socket [] := by
  unfold openRelay at opened
  split at opened
  · cases opened
  · dsimp only at opened
    split at opened
    · cases opened
    · rename_i bound
      cases opened
      exact (Kernel.openBound_queues bound).of_same (Kernel.leavesAlone_localPort ..).same

theorem World.IsNew.queues {start : World} (new : start.IsNew) {relay : Relay}
    (here : start.gateway.relay = some relay) : start.kernel.Queues relay.socket [] := by
  obtain ⟨settings, book, nameServiceFile, outcomes, randoms, run⟩ := new
  obtain ⟨_, _, opened, _, relayed, same⟩ := setUp_ok run
  rw [same] at here
  have here : opened = some relay := here
  exact openRelay_queues (here ▸ relayed)

end Masquerade
