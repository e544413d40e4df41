import Mathlib.Data.List.Pairwise
import Masquerade.Proofs.Gateway.Replication
import Masquerade.Proofs.Gateway.Turns

/-!
# The clock of the gateway

The clock never goes back.  What a stream sends is stamped with the clock as it is when that is
done, also where a round counts only the turns that send something, so that the stamps go up
in the order of the frames.
-/

set_option autoImplicit false

namespace Masquerade

open Kernel (Readiness)

/-- The times with which a happening stamps its frames, before they are cut to the width of the
option. -/
def Happening.stamps : Happening → List Nat
  | .opened _ _ _ _ => []
  | .turned cause now before start => (before.turn now start cause).frames.map fun _ => now

namespace World

/-- The clock does not go back from one world to the other, and the stamps lie in between, in
order. -/
structure Ticks (before : World) (happenings : List Happening) (after : World) : Prop where
  forward : before.gateway.clock ≤ after.gateway.clock
  within : ∀ stamp ∈ happenings.flatMap Happening.stamps,
    before.gateway.clock ≤ stamp ∧ stamp ≤ after.gateway.clock
  sorted : (happenings.flatMap Happening.stamps).Pairwise (· ≤ ·)

namespace Ticks

variable {before between after : World} {first second happenings : List Happening}

theorem trans (start : Ticks before first between) (rest : Ticks between second after) :
    Ticks before (first ++ second) after where
  forward := Nat.le_trans start.forward rest.forward
  within := by
    rw [List.flatMap_append]
    refine List.forall_mem_append.mpr ⟨fun stamp member => ?_, fun stamp member => ?_⟩
    · obtain ⟨atLeast, atMost⟩ := start.within stamp member
      exact ⟨atLeast, Nat.le_trans atMost rest.forward⟩
    · obtain ⟨atLeast, atMost⟩ := rest.within stamp member
      exact ⟨Nat.le_trans start.forward atLeast, atMost⟩
  sorted := by
    rw [List.flatMap_append]
    refine List.pairwise_append.mpr ⟨start.sorted, rest.sorted, fun early first late second => ?_⟩
    exact Nat.le_trans (start.within early first).2 (rest.within late second).1

theorem quiet (forward : before.gateway.clock ≤ after.gateway.clock) : Ticks before [] after :=
  ⟨forward, by simp, List.Pairwise.nil⟩

theorem at_once (forward : before.gateway.clock ≤ after.gateway.clock)
    (now : ∀ stamp ∈ happenings.flatMap Happening.stamps, stamp = after.gateway.clock) :
    Ticks before happenings after where
  forward := forward
  within := fun stamp member => by
    rw [now stamp member]
    exact ⟨forward, Nat.le_refl _⟩
  sorted := List.pairwise_of_forall_mem_list fun early first late second =>
    Nat.le_of_eq ((now early first).trans (now late second).symm)

end Ticks

/-! ## Frames -/

theorem clock_le_transmit (world : World) (sender : NicId) (frame : Bytes) :
    world.gateway.clock ≤ (world.transmit sender frame).gateway.clock := by
  by_cases usable : frame.length < Request.shortestFrame ∨ Request.longestFrame < frame.length
  · simp only [transmit, if_pos usable, Nat.le_refl]
  · rw [clock_transmit world sender (by omega) (by omega)]
    exact Nat.le_succ _

/-- Frames are counted before anything is sent because of them. -/
theorem transmit_ticks (world : World) (sender : NicId) (frame : Bytes) :
    Ticks world (world.transmitHappenings sender frame) (world.transmit sender frame) := by
  refine .at_once (world.clock_le_transmit sender frame) fun stamp stamped => ?_
  obtain ⟨happening, member, stamped⟩ := List.mem_flatMap.mp stamped
  obtain ⟨guest, flow, segment, asked, brought⟩ := asked_of_mem_transmitHappenings member
  have counted : (world.transmit sender frame).gateway.clock =
      (world.spread sender frame).gateway.clock := by
    rw [transmit_of_asked asked, clock_serve]
  rw [counted]
  cases broughtBy_of_mem brought with
  | turned =>
      obtain ⟨_, _, now⟩ := List.mem_map.mp stamped
      exact now.symm
  | opened => cases stamped

/-! ## Rounds -/

theorem clock_le_serveMapping (world : World) (flow : Flow) (ready : Readiness) :
    world.gateway.clock ≤ (world.serveMapping flow ready).gateway.clock := by
  generalize leads : world.serveMapping flow ready = after
  cases serveMapping_outcome leads with
  | idle | failed => exact Nat.le_refl _
  | replied =>
      unfold onReply
      dsimp only
      split
      · exact Nat.le_refl _
      · exact Nat.le_succ _

theorem serveMappings_tick (turns : List (Flow × Readiness)) (world : World) :
    Ticks world []
      (turns.foldl (fun world (flow, ready) => world.serveMapping flow ready) world) := by
  induction turns generalizing world with
  | nil => exact .quiet (Nat.le_refl _)
  | cons turn rest ih =>
      have first := Ticks.quiet (world.clock_le_serveMapping turn.1 turn.2)
      exact first.trans (ih (world.serveMapping turn.1 turn.2))

/-- The clock moves on with a turn just if that sends something. -/
theorem clock_serveStream {world : World} {flow : Flow} {stream : Stream}
    (found : world.gateway.streams.get? flow = some stream) (ready : Readiness) :
    (world.serveStream flow ready).gateway.clock =
      if (stream.onReady (world.gateway.clock + 1) world.gateway.retransmitRounds ready
        world.kernel).frames.isEmpty then world.gateway.clock
      else world.gateway.clock + 1 := by
  generalize leads : world.serveStream flow ready = after
  cases serveStream_outcome leads with
  | idle absent => cases absent.symm.trans found
  | kept there turned =>
      obtain rfl := Option.some.inj (there.symm.trans found)
      rw [clock_keepTurn, ← turned]
      rfl
  | dropped there turned =>
      obtain rfl := Option.some.inj (there.symm.trans found)
      rw [clock_dropStream, clock_keepTurn, ← turned]
      rfl

theorem serveStream_ticks (world : World) (flow : Flow) (ready : Readiness) :
    Ticks world (world.streamHappenings flow ready) (world.serveStream flow ready) := by
  cases found : world.gateway.streams.get? flow with
  | none =>
      rw [serveStream_of_none found, streamHappenings_of_none found]
      exact .quiet (Nat.le_refl _)
  | some stream =>
      have clock := clock_serveStream found ready
      refine .at_once ?_ fun stamp stamped => ?_
      · rw [clock]
        split
        · exact Nat.le_refl _
        · exact Nat.le_succ _
      · rw [streamHappenings_of_some found, List.flatMap_singleton] at stamped
        obtain ⟨frame, sent, rfl⟩ := List.mem_map.mp stamped
        have some : (stream.onReady (world.gateway.clock + 1) world.gateway.retransmitRounds ready
            world.kernel).frames.isEmpty = false :=
          List.isEmpty_eq_false_iff_exists_mem.mpr ⟨frame, sent⟩
        rw [clock, some]
        rfl

theorem serveStreams_tick (turns : List (Flow × Readiness)) (world : World) :
    Ticks world (serveHappenings turns world)
      (turns.foldl (fun world (flow, ready) => world.serveStream flow ready) world) := by
  induction turns generalizing world with
  | nil => exact .quiet (Nat.le_refl _)
  | cons turn rest ih =>
      exact (world.serveStream_ticks turn.1 turn.2).trans (ih (world.serveStream turn.1 turn.2))

theorem clock_serveRelay (world : World) (ready : List Readiness) :
    (world.serveRelay ready).gateway.clock = world.gateway.clock := by
  unfold serveRelay
  split
  · rfl
  · split
    · obtain ⟨mailbox, same⟩ := postAllToAll_gateway _ _
      rw [relayIn, same]
    · rfl

theorem poll_ticks (world : World) : Ticks world world.pollHappenings world.poll := by
  cases world.round_outcome with
  | failed _ _ silent leads =>
      rw [silent, leads]
      exact .quiet (Nat.le_refl _)
  | @served ready looked _ _ turns leads =>
      rw [turns, leads]
      have began : Ticks world [] (world.withKernel looked) := .quiet (Nat.le_refl _)
      have mapped := began.trans (serveMappings_tick (world.gateway.mappings.flows.zip ready)
        (world.withKernel looked))
      have served := mapped.trans (serveStreams_tick
        (world.gateway.streams.flows.zip (ready.drop world.gateway.mappings.flows.length)) _)
      have whole := served.trans (.quiet (Nat.le_of_eq (clock_serveRelay _
        ((ready.drop world.gateway.mappings.flows.length).drop
          world.gateway.streams.flows.length)).symm))
      rw [List.append_nil] at whole
      exact whole

end World

end Masquerade
