import Masquerade.Proofs.Gateway.Transmit

/-!
# A round is a row of steps

Every mapping is served by at most one call and every stream by at most one turn;
the relay is read until nothing is left.  Rounds one after the other, with or
without frames picked up in between, are rows of steps again.
-/

set_option autoImplicit false

namespace Masquerade.World

open Kernel (Readiness)

/-! ## Mappings -/

theorem onReply_kernel (world : World) (flow : Flow) (mapping : Mapping) (payload : Bytes) :
    (world.onReply flow mapping payload).kernel = world.kernel := by
  unfold onReply
  dsimp only
  split <;> rfl

theorem steps_onReply {world : World} {flow : Flow} {mapping : Mapping}
    (found : world.gateway.mappings.get? flow = some mapping) (payload : Bytes) :
    Steps world [] (world.onReply flow mapping payload) := by
  have numbered := Steps.single (Step.mappingNumbered found (mapping.identification + 1))
  unfold onReply
  dsimp only
  split
  · exact numbered
  · rename_i frames _
    have touched := numbered.then_quiet (.single (.mappingTouched flow))
    have counted := touched.then_quiet
      (.single (.aside (world.gateway.clock + 1) world.gateway.mailbox world.gateway.nics))
    exact counted.then_quiet (steps_post _ mapping.owner frames)

theorem steps_serveMapping (world : World) (flow : Flow) (ready : Readiness) :
    Steps world [] (world.serveMapping flow ready) := by
  generalize leads : world.serveMapping flow ready = after
  cases serveMapping_outcome leads with
  | idle => exact .refl world
  | failed found missed =>
      exact .single (.mappingUsed found (Kernel.makes_receiveFrom missed) rfl rfl)
  | @replied mapping payload _ kernel found received =>
      have used : Steps world [] (world.withKernel kernel) :=
        .single (.mappingUsed found (Kernel.makes_receiveFrom received) rfl rfl)
      rw [← world.gateway_withKernel kernel] at found
      exact used.after_quiet (steps_onReply found payload)

/-! ## Streams -/

theorem steps_serveStream (world : World) (flow : Flow) (ready : Readiness) :
    Steps world (world.streamHappenings flow ready) (world.serveStream flow ready) := by
  generalize leads : world.serveStream flow ready = after
  cases serveStream_outcome leads with
  | idle absent =>
      rw [streamHappenings_of_none absent]
      exact .refl world
  | kept found turned goesOn =>
      rw [streamHappenings_of_some found]
      subst turned
      have turned := Steps.single
        (Step.streamTurned (.ready world.gateway.retransmitRounds ready)
          (world.gateway.clock + 1) found goesOn)
      unfold keepTurn
      split
      · exact turned
      · have touched := turned.then_quiet (.single (.streamTouched flow))
        have counted := touched.then_quiet
          (.single (.aside (world.gateway.clock + 1) world.gateway.mailbox world.gateway.nics))
        exact counted.then_quiet (steps_post ..)
  | @dropped stream _ found turned ends =>
      rw [streamHappenings_of_some found]
      subst turned
      have kept := get?_set_turn found (stream.turn (world.gateway.clock + 1) world.kernel
        (.ready world.gateway.retransmitRounds ready)).stream
      unfold keepTurn
      split
      · exact steps_dropStream found ends _ _ kept (FlowTable.remove_set ..)
      · exact steps_dropStream found ends _ _ ((FlowTable.get?_touch ..).trans kept)
          ((FlowTable.remove_touch ..).trans (FlowTable.remove_set ..))

/-! ## The relay -/

theorem steps_receiveAll {world : World} {relay : Relay} (here : world.gateway.relay = some relay)
    (rounds : Nat) :
    Steps world [] (world.withKernel (receiveAll relay.socket rounds world.kernel).2) := by
  induction rounds generalizing world with
  | zero => exact .refl world
  | succ rounds ih =>
      unfold receiveAll
      split
      · rename_i received
        exact .single (.relayed here (Kernel.makes_receiveFrom received) rfl rfl)
      · rename_i frame sender kernel received
        have first : Steps world [] (world.withKernel kernel) :=
          .single (.relayed here (Kernel.makes_receiveFrom received) rfl rfl)
        have later : Steps (world.withKernel kernel) [] _ := ih here
        exact first.after_quiet later

theorem steps_relayIn {world : World} {relay : Relay} (here : world.gateway.relay = some relay) :
    Steps world [] (world.relayIn relay) := by
  have received := steps_receiveAll here (waitingOn world.kernel relay.socket + 1)
  exact received.after_quiet
    (Steps.foldl (fun world (frame : Bytes) => steps_postToAll world world.gateway.nics frame) _ _)

theorem steps_serveRelay (world : World) (ready : List Readiness) :
    Steps world [] (world.serveRelay ready) := by
  unfold serveRelay
  split
  · exact .refl world
  · rename_i relay here
    split
    · exact steps_relayIn here
    · exact .refl world

/-! ## Rounds -/

theorem steps_serveStreams (turns : List (Flow × Readiness)) (world : World) :
    Steps world (serveHappenings turns world)
      (turns.foldl (fun world (flow, ready) => world.serveStream flow ready) world) := by
  induction turns generalizing world with
  | nil => exact .refl world
  | cons turn rest ih =>
      obtain ⟨flow, ready⟩ := turn
      exact (steps_serveStream world flow ready).trans (ih (world.serveStream flow ready))

theorem steps_serveMappings (turns : List (Flow × Readiness)) (world : World) :
    Steps world []
      (turns.foldl (fun world (flow, ready) => world.serveMapping flow ready) world) :=
  Steps.foldl (fun world (turn : Flow × Readiness) => steps_serveMapping world turn.1 turn.2) _ _

theorem steps_poll (world : World) : Steps world world.pollHappenings world.poll := by
  cases world.round_outcome with
  | failed _ made silent leads =>
      rw [silent, leads]
      exact steps_looked made
  | @served ready looked _ made turns leads =>
      rw [turns, leads]
      have mappingsServed := (steps_looked made).after_quiet
        (steps_serveMappings (world.gateway.mappings.flows.zip ready) (world.withKernel looked))
      have streamsServed := mappingsServed.after_quiet (steps_serveStreams
        (world.gateway.streams.flows.zip (ready.drop world.gateway.mappings.flows.length)) _)
      exact streamsServed.then_quiet (steps_serveRelay _ _)

/-! ## Picking frames up -/

theorem steps_pickUp (world : World) (nic : NicId) : Steps world [] (world.pickUp nic).2 := by
  unfold pickUp
  split
  · exact .refl world
  · rename_i frame mailbox _
    exact .single (.aside world.gateway.clock mailbox world.gateway.nics)

theorem steps_pollAndReceive (world : World) (nic : NicId) :
    Steps world world.pollHappenings (world.pollAndReceive nic).2 :=
  (steps_poll world).then_quiet (steps_pickUp world.poll nic)

/-! ## Rounds in a row -/

/-- Rounds one after the other, which begin in these worlds and bring about just these
happenings; after each of them a frame may be picked up. -/
inductive RowOfRounds : World → List World → List Happening → World → Prop
  | refl (world : World) : RowOfRounds world [] [] world
  | round {world after : World} {rounds : List World} {happenings : List Happening}
      (later : RowOfRounds world.poll rounds happenings after) :
      RowOfRounds world (world :: rounds) (world.pollHappenings ++ happenings) after
  | received {world after : World} {rounds : List World} {happenings : List Happening}
      (nic : NicId) (later : RowOfRounds (world.pollAndReceive nic).2 rounds happenings after) :
      RowOfRounds world (world :: rounds) (world.pollHappenings ++ happenings) after

theorem RowOfRounds.steps {world after : World} {rounds : List World} {happenings : List Happening}
    (row : RowOfRounds world rounds happenings after) : Steps world happenings after := by
  induction row with
  | refl world => exact .refl world
  | @round world _ _ _ _ ih => exact (steps_poll world).trans ih
  | @received world _ _ _ nic _ ih => exact (steps_pollAndReceive world nic).trans ih

theorem row_pollTimes (rounds : Nat) (world : World) :
    RowOfRounds world (roundsOf rounds world) (pollTimesHappenings rounds world)
      (pollTimes rounds world) := by
  induction rounds generalizing world with
  | zero => exact .refl world
  | succ rounds ih => exact .round (ih world.poll)

theorem row_receiveUpTo (nic : NicId) (most : Nat) (world : World) :
    RowOfRounds world (receivingRounds nic most world) (receiveUpToHappenings nic most world)
      (receiveUpTo nic most world).2 := by
  induction most generalizing world with
  | zero => exact .refl world
  | succ most ih =>
      simp only [receivingRounds, receiveUpToHappenings, receiveUpTo]
      cases picked : world.pollAndReceive nic with
      | mk frame next =>
          have received : ∀ {rounds happenings after},
              RowOfRounds next rounds happenings after →
              RowOfRounds world (world :: rounds) (world.pollHappenings ++ happenings) after :=
            fun later => .received nic (by rwa [picked])
          cases frame with
          | none => exact received (.refl next)
          | some frame => exact received (ih next)

end Masquerade.World
