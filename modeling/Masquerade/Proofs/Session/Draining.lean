import Masquerade.Proofs.Session.Relaying

/-!
# Failures do not lose what waits behind them

Receiving from the socket of the relay may fail while more waits there.  Serving the relay ends
with the failure, and what waits behind it is left for later rounds, each of which gets past the
next one.  So every datagram reaches the controllers once and in its turn, and a failure
costs no more than itself.
-/

set_option autoImplicit false

namespace Masquerade.Session

/-- Whatever waits for the relay, serving it ends: with the first failure, or when nothing is
left.  Each frame that is received and has a header is left for all controllers, one frame after
another, and what waits behind the failure still waits.  A round does this just if it looks.
Over any operations, what waits and what comes is used up in its order or still waits; each
controller is left the frames among what is used up, once each; and all that
waited is used up after more rounds that look than there are failures in it. -/
theorem relay_is_drained_up_to_failures {start : World} (new : start.IsNew) {relay : Relay}
    (here : start.gateway.relay = some relay) (past : List Operation) :
    let world := after start past
    let waiting := world.kernel.incoming relay.socket
    (world.gateway.nics.map Nic.id).Nodup ∧
    (∀ arrivals, (after world [.change relay.socket { arrivals }]).kernel.incoming relay.socket =
      waiting ++ arrivals) ∧
    (∃ received errno left, SplitAtFailure waiting received errno left) ∧
    (∀ received errno left, SplitAtFailure waiting received errno left →
      let posts := world.gateway.relayPosts (received.map (Arrival.kept World.mostRelayed))
      Exhausts relay received errno left posts world (world.relayIn relay) ∧
      (world.looks = true →
        world.brings = posts ∧ world.poll.kernel.incoming relay.socket = left ∧
        (waiting ≠ [] → world.poll = world.served.relayIn relay ∧
          Exhausts relay received errno left posts world.served world.poll)) ∧
      (world.looks = false →
        world.brings = [] ∧ world.poll.kernel.incoming relay.socket = waiting)) ∧
    ∀ operations, ∃ used,
      waiting ++ operations.flatMap (Operation.arrivals relay.socket) =
        used ++ (after world operations).kernel.incoming relay.socket ∧
      (∀ nic ∈ world.gateway.nics.map Nic.id, broughtTo world operations nic =
        ((used.filter fun arrival => !arrival.isFailure).map
          (Arrival.kept World.mostRelayed)).filter Packet.isWhole) ∧
      (waiting.countP Arrival.isFailure < (roundsIn world operations).countP World.looks →
        waiting <+: used) := by
  intro world waiting
  have sound : world.Sound := sound_after new past
  have there : world.gateway.relay = some relay := relay_after here past
  have queues : world.kernel.Queues relay.socket waiting := queues_after new here past
  refine ⟨?_, fun arrivals => ?_, SplitAtFailure.exists_split waiting,
    fun received errno left split => ?_, fun operations => ?_⟩
  · rw [nics_after new]
    exact Nic.nodup_registerAll _
  · have isOpen := (sound.held.isOpen_iff_mem _).mpr (World.relay_mem_holders there)
    exact (queues.applyChange isOpen { arrivals }).incoming_eq
  · refine ⟨(World.relayIn_exhausts queues split).1, fun succeeds => ?_, fun fails => ?_⟩
    · obtain ⟨took, queue, _⟩ := World.poll_drains sound there queues succeeds
      obtain ⟨frames, rest⟩ := drained_of_split split
      rw [rest] at queue
      refine ⟨?_, queue.incoming_eq, fun some =>
        World.poll_exhausts sound there queues succeeds some split⟩
      rw [World.brings_eq there, took, frames]
    · obtain ⟨took, queue⟩ := World.poll_of_not_looks queues fails
      refine ⟨?_, queue.incoming_eq⟩
      rw [World.brings_eq there, took]
      rfl
  · obtain ⟨used, left, queue, whole, took, past⟩ :=
      (feeds_after sound there operations).uses_up sound there queues
    refine ⟨used, ?_, fun nic known => ?_, past waiting List.prefix_rfl⟩
    · rw [queue.incoming_eq]
      exact whole
    · rw [broughtTo_eq new here known, took]

/-! ## A failure between two frames -/

def longFrame : Bytes := questionFrame ++ List.replicate 2048 0

/-- Before a failure a frame, an end and a datagram without a whole header wait, and behind it
a frame that is too long. -/
def refusedBetween (sender : Endpoint) : List Arrival :=
  [.data questionFrame sender, .endOfStream, .data [2, 0, 0] sender,
    .failure ⟨"ECONNREFUSED"⟩, .data longFrame sender]

theorem long_frame_comes_after_failure :
    let sender : Endpoint := ⟨.ofOctets 192 0 2 1, 9000⟩
    let relay : Relay := ⟨0, [sender, secondPeer]⟩
    let world := after related (registered ++ [.change 0 { arrivals := refusedBetween sender }])
    let received : List Arrival :=
      [.data questionFrame sender, .endOfStream, .data [2, 0, 0] sender]
    related.IsNew ∧ related.gateway.relay = some relay ∧
      world.kernel.incoming 0 = refusedBetween sender ∧ world.looks = true ∧
      Exhausts relay received ⟨"ECONNREFUSED"⟩ [.data longFrame sender]
        [(⟨1⟩, questionFrame), (⟨2⟩, questionFrame)] world.served world.poll ∧
      world.poll.kernel.incoming 0 = [.data longFrame sender] ∧
      ∀ nic ∈ [⟨1⟩, ⟨2⟩], broughtTo world [.poll 2] nic = [questionFrame, longFrame.take 2048] := by
  intro sender relay world received
  have here : related.gateway.relay = some relay := rfl
  obtain ⟨_, _, _, drains, delivers⟩ := relay_is_drained_up_to_failures related_isNew here
    (registered ++ [.change 0 { arrivals := refusedBetween sender }])
  have waiting : world.kernel.incoming 0 = refusedBetween sender := by decide +kernel
  have looks : world.looks = true := by decide +kernel
  have fine : ∀ arrival ∈ received, arrival.isFailure = false := by decide +kernel
  have split : SplitAtFailure (world.kernel.incoming 0) received ⟨"ECONNREFUSED"⟩
      [.data longFrame sender] := by
    rw [waiting]
    exact .first fine
  obtain ⟨_, succeeds, _⟩ := drains _ _ _ split
  obtain ⟨_, left, exhausts⟩ := succeeds looks
  have some : world.kernel.incoming 0 ≠ [] := by
    rw [waiting]
    exact List.cons_ne_nil _ _
  have posts : world.gateway.relayPosts (received.map (Arrival.kept World.mostRelayed)) =
      [(⟨1⟩, questionFrame), (⟨2⟩, questionFrame)] := by decide +kernel
  refine ⟨related_isNew, here, waiting, looks, posts ▸ (exhausts some).2, left, ?_⟩
  obtain ⟨used, whole, brought, _⟩ := delivers [.poll 2]
  have nothing : (after world [.poll 2]).kernel.incoming 0 = [] := by decide +kernel
  have all : used = refusedBetween sender := by
    have parted : world.kernel.incoming 0 ++ [] =
        used ++ (after world [.poll 2]).kernel.incoming 0 := whole
    rw [waiting, nothing, List.append_nil, List.append_nil] at parted
    exact parted.symm
  have known : world.gateway.nics.map Nic.id = [⟨1⟩, ⟨2⟩] := by decide +kernel
  intro nic member
  have each := brought nic (known ▸ member)
  rw [all] at each
  exact each.trans (by decide +kernel)

end Masquerade.Session
