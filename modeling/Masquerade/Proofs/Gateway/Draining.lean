import Mathlib.Data.List.TakeWhile
import Masquerade.Proofs.Gateway.Rounds
import Masquerade.Proofs.Gateway.Service
import Masquerade.Proofs.Kernel.Receiving

/-!
# What comes through the relay

A round whose look succeeds takes from the socket of the relay all that waits there, up to
the first failure.  Each frame that is long enough to have a header is left for every
controller as it came, and nothing else is done because of it.
-/

set_option autoImplicit false

namespace Masquerade

open Kernel (LeavesAlone Makes Queues Readiness ReceivesUntil)

/-! ## Draining -/

def drained (waiting : List Arrival) : List Bytes :=
  (waiting.takeWhile fun arrival => !arrival.isFailure).map (Arrival.kept World.mostRelayed)

/-- What is not taken; the failure that ends the taking is gone. -/
def undrained (waiting : List Arrival) : List Arrival :=
  (waiting.dropWhile fun arrival => !arrival.isFailure).tail

theorem drained_of_split {waiting received left : List Arrival} {errno : Errno}
    (split : SplitAtFailure waiting received errno left) :
    drained waiting = received.map (Arrival.kept World.mostRelayed) ∧ undrained waiting = left := by
  have all : ∀ arrival ∈ received, (!arrival.isFailure) = true := by simpa using split.fine
  cases split with
  | never =>
      constructor
      · rw [drained, List.takeWhile_eq_self_iff.mpr all]
      · rw [undrained, List.dropWhile_eq_nil_iff.mpr all]
        rfl
  | first =>
      constructor
      · rw [drained, List.takeWhile_append_of_pos all]
        exact congrArg _ (List.append_nil received)
      · rw [undrained, List.dropWhile_append_of_pos all]
        rfl

/-- Only the relay has been served: these frames have been received, these posts have been
left, and nothing else has been called or changed. -/
structure OnlyRelays (relay : Relay) (frames : List Bytes) (posts : List (NicId × Bytes))
    (before after : World) : Prop where
  calls : ∃ calls, Makes calls before.kernel after.kernel ∧
    (∀ call ∈ calls, call.TakesFrom relay.socket) ∧ calls.flatMap Call.datagrams = frames
  gateway : after.gateway =
    { before.gateway with mailbox := ⟨before.gateway.mailbox.entries ++ posts⟩ }

/-- The relay has been served once.  Receiving without a bound ends, and in this way alone: with
these arrivals one after another and then with this failure.  No other call is made, these
arrivals wait afterwards, and nothing in the gateway changes but that these posts are left. -/
structure Exhausts (relay : Relay) (received : List Arrival) (errno : Errno) (left : List Arrival)
    (posts : List (NicId × Bytes)) (before after : World) : Prop where
  receives : ReceivesUntil relay.socket World.mostRelayed before.kernel
    (outcomes World.mostRelayed received errno) after.kernel
  alone : ∀ results kernel,
    ReceivesUntil relay.socket World.mostRelayed before.kernel results kernel →
      results = outcomes World.mostRelayed received errno ∧ kernel = after.kernel
  calls : after.kernel.callsSince before.kernel =
    (outcomes World.mostRelayed received errno).map (.receiveFrom relay.socket World.mostRelayed)
  waits : after.kernel.incoming relay.socket = left
  gateway : after.gateway =
    { before.gateway with mailbox := ⟨before.gateway.mailbox.entries ++ posts⟩ }

namespace World

/-- The bound makes no difference to receiving that ends within it. -/
theorem receiveAll_of_receivesUntil {socket : SocketId} {rounds : Nat} {kernel after : Kernel}
    {results : List (Except Errno (Bytes × Endpoint))}
    (receives : ReceivesUntil socket mostRelayed kernel results after)
    (enough : results.length ≤ rounds) :
    receiveAll socket rounds kernel = (results.filterMap bytesOf, after) := by
  induction receives generalizing rounds with
  | fails run =>
      cases rounds with
      | zero => cases enough
      | succ rounds => simp only [receiveAll, run]; rfl
  | goesOn run _ ih =>
      cases rounds with
      | zero => cases enough
      | succ rounds =>
          have rest := ih (Nat.le_of_succ_le_succ enough)
          simp only [receiveAll, run, rest]
          rfl

section Relay

variable {world : World} {relay : Relay} {waiting : List Arrival}

theorem relayIn_of_receiveAll {frames : List Bytes} {kernel : Kernel}
    (run : receiveAll relay.socket (waitingOn world.kernel relay.socket + 1) world.kernel =
      (frames, kernel)) :
    (world.relayIn relay).kernel = kernel ∧ (world.relayIn relay).gateway =
      { world.gateway with
        mailbox := ⟨world.gateway.mailbox.entries ++ world.gateway.relayPosts frames⟩ } := by
  let whole := frames.filter fun frame => Packet.EthernetHeader.size ≤ frame.length
  have same : world.relayIn relay = whole.foldl
      (fun world frame => world.postToAll world.gateway.nics frame) (world.withKernel kernel) := by
    simp only [relayIn, run]
    rfl
  obtain ⟨mailbox, rest⟩ := postAllToAll_gateway whole (world.withKernel kernel)
  have posted := (postAllToAll_leaves whole (world.withKernel kernel)).1.mailbox
  rw [same]
  refine ⟨postAllToAll_kernel whole (world.withKernel kernel), ?_⟩
  rw [rest] at posted ⊢
  have entries : mailbox = ⟨world.gateway.mailbox.entries ++ world.gateway.relayPosts frames⟩ :=
    congrArg Backlog.mk posted
  rw [entries]
  rfl

/-- Serving the relay ends at the first failure among what waits. -/
theorem relayIn_exhausts (queues : world.kernel.Queues relay.socket waiting)
    {received left : List Arrival} {errno : Errno}
    (split : SplitAtFailure waiting received errno left) :
    Exhausts relay received errno left
        (world.gateway.relayPosts (received.map (Arrival.kept mostRelayed))) world
        (world.relayIn relay) ∧
      (world.relayIn relay).kernel.Queues relay.socket left := by
  obtain ⟨after, receives, queue⟩ := queues.receivesUntil split mostRelayed
  -- One more try is made than there are arrivals, so that the tries do not run out first.
  have enough : (outcomes mostRelayed received errno).length ≤
      waitingOn world.kernel relay.socket + 1 := by
    obtain ⟨found, there, _, waits⟩ := queues
    rw [waitingOn, there, Option.map_some, Option.getD_some, waits, outcomes, List.length_append,
      List.length_map]
    exact Nat.succ_le_succ split.length_le
  have run := receiveAll_of_receivesUntil receives enough
  rw [bytesOf_outcomes split.fine] at run
  obtain ⟨rfl, gateway⟩ := relayIn_of_receiveAll run
  exact ⟨⟨receives, fun _ _ again => receives.unique again, receives.makes.callsSince_eq,
    queue.incoming_eq, gateway⟩, queue⟩

theorem relayIn_drains (queues : world.kernel.Queues relay.socket waiting) :
    OnlyRelays relay (drained waiting) (world.gateway.relayPosts (drained waiting)) world
        (world.relayIn relay) ∧
      (world.relayIn relay).kernel.Queues relay.socket (undrained waiting) := by
  obtain ⟨received, errno, left, split⟩ := SplitAtFailure.exists_split waiting
  obtain ⟨exhausts, queue⟩ := relayIn_exhausts queues split
  obtain ⟨frames, rest⟩ := drained_of_split split
  rw [frames, rest]
  refine ⟨⟨⟨_, exhausts.receives.makes, fun call member => ?_, ?_⟩, exhausts.gateway⟩, queue⟩
  · obtain ⟨result, _, rfl⟩ := List.mem_map.mp member
    exact ⟨_, _, rfl⟩
  · rw [← bytesOf_outcomes split.fine mostRelayed errno]
    exact flatMap_datagrams ..

theorem serveRelay_drains (here : world.gateway.relay = some relay)
    (queues : world.kernel.Queues relay.socket waiting) {ready : List Readiness}
    (readable : waiting ≠ [] → ready.any Readiness.readable = true) :
    OnlyRelays relay (drained waiting) (world.gateway.relayPosts (drained waiting)) world
        (world.serveRelay ready) ∧
      (world.serveRelay ready).kernel.Queues relay.socket (undrained waiting) := by
  simp only [serveRelay, here]
  split
  · exact relayIn_drains queues
  · rename_i idle
    have none : waiting = [] := Classical.byContradiction fun some => idle (readable some)
    subst none
    refine ⟨⟨⟨[], Makes.refl world.kernel, by simp, rfl⟩, ?_⟩, queues⟩
    have nothing : world.gateway.relayPosts (drained []) = [] := rfl
    rw [nothing, List.append_nil]

end Relay

/-! ## Rounds -/

def takes (world : World) (socket : SocketId) : List Bytes :=
  datagramsOn (world.poll.kernel.callsSince world.kernel) socket

def brings (world : World) : List (NicId × Bytes) :=
  world.gateway.relayPostsOn (world.poll.kernel.callsSince world.kernel)

theorem brings_eq {world : World} {relay : Relay} (here : world.gateway.relay = some relay) :
    world.brings = world.gateway.relayPosts (world.takes relay.socket) := by
  rw [brings, Gateway.relayPostsOn, here, Option.toList_some, List.flatMap_singleton, takes]

/-- What the mappings and the streams have made of a world in a round, when the turn of the
relay comes. -/
def served (world : World) : World :=
  (world.withKernel (world.kernel.readiness (interests world.gateway)).2).serveTurns
    (roundTurns world.gateway world.kernel)

theorem takes_of_apart {world between : World} {socket : SocketId} {calls : List Call}
    (uncalled : between.kernel.callsOn socket = world.kernel.callsOn socket)
    (made : Makes calls between.kernel world.poll.kernel) :
    world.takes socket = datagramsOn calls socket := by
  obtain ⟨whole, madeWhole⟩ := (steps_poll world).makes
  have same := (madeWhole.callsOn_eq socket).symm.trans (made.callsOn_eq socket)
  rw [uncalled] at same
  rw [takes, madeWhole.callsSince_eq, datagramsOn, List.append_cancel_left same]
  rfl

section Round

variable {world : World} {relay : Relay} {waiting : List Arrival} (sound : world.Sound)
  (here : world.gateway.relay = some relay)
  (queues : world.kernel.Queues relay.socket waiting)
include sound here queues

/-- A round that looks serves the relay last, and the turns before leave it alone: what waited
for the look still waits. -/
theorem poll_of_looks (succeeds : world.looks = true) :
    world.poll = world.served.serveRelay (relayReadiness world.gateway world.kernel) ∧
      LeavesAlone relay.socket world.kernel world.served.kernel ∧
      world.served.gateway.relay = some relay ∧
      world.served.gateway.nics = world.gateway.nics ∧
      (waiting ≠ [] →
        (relayReadiness world.gateway world.kernel).any Readiness.readable = true) := by
  obtain ⟨ready, looked, look⟩ := exists_look succeeds
  have serves := servesEach_of_look sound look
  have same : world.served =
      (world.withKernel looked).serveTurns (roundTurns world.gateway world.kernel) := by
    rw [served, look]
  have run := serves.run
  have alone := serves.relay relay here
  rw [← same] at run alone
  have still : world.served.gateway.relay = some relay := by
    rw [same]
    exact (leavesAlone_relay_serveTurns (sound.looked (makes_of_look look)) _ here).2
  obtain ⟨_, relays, _⟩ :=
    serveRelay_leaves world.served (relayReadiness world.gateway world.kernel)
  obtain ⟨_, leaves, _⟩ := poll_leaves sound
  rw [← run] at relays
  refine ⟨run, alone, still, relays.nics.symm.trans leaves.nics, fun some => ?_⟩
  obtain ⟨found, there, _, waits⟩ := queues
  rw [relayReadiness, here]
  simp [Kernel.readinessOf, there, waits, some]

/-- A round that looks drains the relay, and does so last. -/
theorem poll_drains (succeeds : world.looks = true) :
    world.takes relay.socket = drained waiting ∧
      world.poll.kernel.Queues relay.socket (undrained waiting) ∧
      OnlyRelays relay (drained waiting) world.brings world.served world.poll := by
  obtain ⟨run, alone, still, nics, readable⟩ := poll_of_looks sound here queues succeeds
  obtain ⟨only, left⟩ := serveRelay_drains still (queues.of_same alone.same) readable
  rw [← run] at only left
  obtain ⟨calls, madeLast, takes, datagrams⟩ := only.calls
  have took : world.takes relay.socket = drained waiting := by
    rw [takes_of_apart alone.uncalled madeLast,
      datagramsOn_of_about fun call member => (takes call member).about, datagrams]
  have posts : world.served.gateway.relayPosts (drained waiting) = world.brings := by
    rw [brings_eq here, took, Gateway.relayPosts, Gateway.relayPosts, nics]
  rw [posts] at only
  exact ⟨took, left, only⟩

theorem poll_exhausts (succeeds : world.looks = true) (some : waiting ≠ [])
    {received left : List Arrival} {errno : Errno}
    (split : SplitAtFailure waiting received errno left) :
    world.poll = world.served.relayIn relay ∧
      Exhausts relay received errno left
        (world.gateway.relayPosts (received.map (Arrival.kept mostRelayed))) world.served
        world.poll := by
  obtain ⟨run, alone, still, nics, readable⟩ := poll_of_looks sound here queues succeeds
  have serves : world.poll = world.served.relayIn relay := by
    rw [run]
    simp only [serveRelay, still, readable some, if_true]
  obtain ⟨exhausts, _⟩ := relayIn_exhausts (queues.of_same alone.same) split
  rw [← serves, Gateway.relayPosts, nics] at exhausts
  exact ⟨serves, exhausts⟩

omit sound here in
theorem poll_of_not_looks (fails : world.looks = false) :
    world.takes relay.socket = [] ∧ world.poll.kernel.Queues relay.socket waiting := by
  have alone := world.kernel.leavesAlone_readiness relay.socket (interests world.gateway)
  cases world.round_outcome with
  | served look =>
      rw [looks, look] at fails
      cases fails
  | @failed _ looked look made _ leads =>
      rw [look] at alone
      have kernel : world.poll.kernel = looked := congrArg World.kernel leads
      rw [takes, kernel, made.callsSince_eq]
      exact ⟨rfl, queues.of_same alone.same⟩

end Round

end World

end Masquerade
