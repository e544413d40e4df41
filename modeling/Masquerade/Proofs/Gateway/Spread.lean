import Masquerade.Proofs.Gateway.Mailbox
import Masquerade.Proofs.Gateway.Requests
import Masquerade.Proofs.Kernel.Opening

/-!
# Spreading a frame

Every frame of a usable length is first passed on as it is: one copy for each other
controller, and one datagram to each peer of the relay.  Nothing else changes but the
clock.  What the frame asks for is served after that.
-/

set_option autoImplicit false

namespace Masquerade

open Kernel (Makes)

def Relay.Passes (relay : Relay) (frame : Bytes) (call : Call) : Prop :=
  ∃ peer ∈ relay.peers, ∃ result, call = .sendTo relay.socket peer frame result

def SendsToAll (socket : SocketId) (frame : Bytes) : List Endpoint → List Call → Prop :=
  List.Forall₂ fun peer call => ∃ result, call = .sendTo socket peer frame result

def Gateway.Relays (gateway : Gateway) (frame : Bytes) (calls : List Call) : Prop :=
  match gateway.relay with
  | none => calls = []
  | some relay => SendsToAll relay.socket frame relay.peers calls

theorem SendsToAll.passes {relay : Relay} {frame : Bytes} {calls : List Call}
    (sends : SendsToAll relay.socket frame relay.peers calls) :
    ∀ call ∈ calls, relay.Passes frame call := by
  intro call member
  obtain ⟨place, bound, rfl⟩ := List.mem_iff_getElem.mp member
  have there : place < relay.peers.length := by
    rw [sends.length_eq]
    exact bound
  obtain ⟨result, sent⟩ := sends.get there bound
  exact ⟨relay.peers[place], List.getElem_mem there, result, sent⟩

theorem Gateway.relays_of_same {gateway other : Gateway} {frame : Bytes} {calls : List Call}
    (same : other.relay = gateway.relay) :
    other.Relays frame calls ↔ gateway.Relays frame calls := by
  rw [Relays, Relays, same]

theorem Gateway.Relays.passes {gateway : Gateway} {frame : Bytes} {calls : List Call}
    (relays : gateway.Relays frame calls) :
    ∀ call ∈ calls, ∃ relay, gateway.relay = some relay ∧ relay.Passes frame call := by
  intro call member
  simp only [Gateway.Relays] at relays
  split at relays
  · rw [relays] at member
    cases member
  · rename_i relay here
    exact ⟨relay, here, SendsToAll.passes relays call member⟩

namespace World

theorem makes_relayed (socket : SocketId) (frame : Bytes) (peers : List Endpoint)
    (kernel : Kernel) :
    ∃ calls, Makes calls kernel (peers.foldl
        (fun kernel peer => (kernel.sendTo socket peer frame).2) kernel) ∧
      SendsToAll socket frame peers calls := by
  induction peers generalizing kernel with
  | nil => exact ⟨[], Makes.refl kernel, .nil⟩
  | cons peer rest ih =>
      cases sent : kernel.sendTo socket peer frame with
      | mk result after =>
          obtain ⟨calls, made, sends⟩ := ih after
          rw [List.foldl_cons, sent]
          exact ⟨_, (Kernel.makes_sendTo sent).trans made, .cons ⟨result, rfl⟩ sends⟩

theorem postToAll_gateway (nics : List Nic) (frame : Bytes) (world : World) :
    ∃ mailbox, (world.postToAll nics frame).gateway = { world.gateway with mailbox } := by
  simp only [postToAll]
  induction nics generalizing world with
  | nil => exact ⟨world.gateway.mailbox, rfl⟩
  | cons nic rest ih => exact ih (world.post nic.id [frame])

theorem postToAll_kernel (nics : List Nic) (frame : Bytes) (world : World) :
    (world.postToAll nics frame).kernel = world.kernel := by
  simp only [postToAll]
  induction nics generalizing world with
  | nil => rfl
  | cons nic rest ih => exact ih (world.post nic.id [frame])

theorem spread_gateway (world : World) (sender : NicId) (frame : Bytes) :
    ∃ mailbox, (world.spread sender frame).gateway =
      { world.gateway with clock := world.gateway.clock + 1, mailbox } := by
  obtain ⟨mailbox, posted⟩ := postToAll_gateway
    (world.gateway.nics.filter fun nic => nic.id ≠ sender) frame
    { world with gateway := { world.gateway with clock := world.gateway.clock + 1 } }
  refine ⟨mailbox, ?_⟩
  simp only [spread, relayOut]
  split <;> exact posted

theorem spread_kernel (world : World) (sender : NicId) (frame : Bytes) :
    (world.spread sender frame).kernel =
      world.gateway.relay.elim world.kernel fun relay => relay.peers.foldl
        (fun kernel peer => (kernel.sendTo relay.socket peer frame).2) world.kernel := by
  obtain ⟨mailbox, posted⟩ := postToAll_gateway
    (world.gateway.nics.filter fun nic => nic.id ≠ sender) frame
    { world with gateway := { world.gateway with clock := world.gateway.clock + 1 } }
  simp only [spread, relayOut, posted]
  cases world.gateway.relay with
  | none => exact postToAll_kernel ..
  | some relay => simp only [postToAll_kernel, Option.elim]

section Fields

variable (world : World) (sender : NicId) (frame : Bytes)

@[simp] theorem spread_streams :
    (world.spread sender frame).gateway.streams = world.gateway.streams := by
  obtain ⟨mailbox, same⟩ := world.spread_gateway sender frame
  rw [same]

@[simp] theorem spread_mappings :
    (world.spread sender frame).gateway.mappings = world.gateway.mappings := by
  obtain ⟨mailbox, same⟩ := world.spread_gateway sender frame
  rw [same]

@[simp] theorem spread_subnet :
    (world.spread sender frame).gateway.subnet = world.gateway.subnet := by
  obtain ⟨mailbox, same⟩ := world.spread_gateway sender frame
  rw [same]

@[simp] theorem spread_nameService :
    (world.spread sender frame).gateway.nameService = world.gateway.nameService := by
  obtain ⟨mailbox, same⟩ := world.spread_gateway sender frame
  rw [same]

end Fields

theorem canOpen_spread_iff (world : World) (sender : NicId) (frame : Bytes) :
    (world.spread sender frame).kernel.CanOpen ↔ world.kernel.CanOpen := by
  have relayed : ∀ (relay : Relay) (peers : List Endpoint) (kernel : Kernel),
      (peers.foldl (fun kernel peer => (kernel.sendTo relay.socket peer frame).2) kernel).CanOpen ↔
        kernel.CanOpen := by
    intro relay peers
    induction peers with
    | nil => exact fun kernel => Iff.rfl
    | cons peer rest ih => exact fun kernel => (ih _).trans (kernel.canOpen_sendTo_iff ..)
  simp only [spread, relayOut]
  split
  · rw [postToAll_kernel]
  · rw [relayed, postToAll_kernel]

theorem relayOut_leaves (world : World) (frame : Bytes) :
    ∃ calls, Leaves calls [] world (world.relayOut frame) ∧
      world.gateway.Relays frame calls := by
  cases here : world.gateway.relay with
  | none =>
      refine ⟨[], ?_, ?_⟩
      · simp only [relayOut, here]
        exact .refl world
      · simp only [Gateway.Relays, here]
  | some relay =>
      obtain ⟨calls, made, sends⟩ :=
        makes_relayed relay.socket frame relay.peers world.kernel
      refine ⟨calls, ?_, ?_⟩
      · simp only [relayOut, here]
        exact .called made
      · simp only [Gateway.Relays, here]
        exact sends

/-- A frame is left for all controllers but its sender, and sent to all peers. -/
theorem spread_relays (world : World) (sender : NicId) (frame : Bytes) :
    ∃ calls, Leaves calls
        ((world.gateway.nics.filter fun nic => nic.id ≠ sender).map fun nic => (nic.id, frame))
        world (world.spread sender frame) ∧
      world.gateway.Relays frame calls := by
  have counted : Leaves [] [] world
      { world with gateway := { world.gateway with clock := world.gateway.clock + 1 } } :=
    ⟨Makes.refl _, (List.append_nil _).symm, rfl, rfl⟩
  have left := counted.trans
    (postToAll_leaves (world.gateway.nics.filter fun nic => nic.id ≠ sender) frame _).1
  obtain ⟨calls, sent, relays⟩ := relayOut_leaves (World.postToAll _ _ frame) frame
  have whole := left.trans sent
  simp only [List.nil_append, List.append_nil] at whole
  exact ⟨calls, whole, (Gateway.relays_of_same left.relay).mp relays⟩

theorem spread_leaves (world : World) (sender : NicId) (frame : Bytes) :
    ∃ calls, Leaves calls
        ((world.gateway.nics.filter fun nic => nic.id ≠ sender).map fun nic => (nic.id, frame))
        world (world.spread sender frame) ∧
      ∀ call ∈ calls, ∃ relay, world.gateway.relay = some relay ∧ relay.Passes frame call := by
  obtain ⟨calls, leaves, relays⟩ := world.spread_relays sender frame
  exact ⟨calls, leaves, relays.passes⟩

end World

/-! ## What a frame asks for -/

def Gateway.copies (gateway : Gateway) (sender : NicId) (frame : Bytes) : List (NicId × Bytes) :=
  if frame.length < Request.shortestFrame ∨ Request.longestFrame < frame.length then []
  else (gateway.nics.filter fun nic => nic.id ≠ sender).map fun nic => (nic.id, frame)

namespace World

variable {world : World} {sender : NicId} {frame : Bytes} {request : Request}

theorem transmit_of_asked (asked : Request.asked world.gateway.subnet frame = some request) :
    world.transmit sender frame = (world.spread sender frame).serve sender request := by
  obtain ⟨atLeast, atMost, found⟩ := asked_eq_some_iff.mp asked
  rw [transmit, if_neg (by omega), found]

theorem transmitHappenings_of_asked
    (asked : Request.asked world.gateway.subnet frame = some request) :
    world.transmitHappenings sender frame =
      (world.spread sender frame).requestHappenings sender request := by
  obtain ⟨atLeast, atMost, found⟩ := asked_eq_some_iff.mp asked
  rw [transmitHappenings, if_neg (by omega), found]

theorem transmit_of_not_asked (none : Request.asked world.gateway.subnet frame = none) :
    world.transmit sender frame = world ∨
      world.transmit sender frame = world.spread sender frame := by
  rw [Request.asked] at none
  rw [transmit]
  split
  · exact Or.inl rfl
  · rename_i usable
    rw [if_neg usable] at none
    rw [none]
    exact Or.inr rfl

theorem transmitHappenings_of_not_asked
    (none : Request.asked world.gateway.subnet frame = none) :
    world.transmitHappenings sender frame = [] := by
  rw [Request.asked] at none
  rw [transmitHappenings]
  split
  · rfl
  · rename_i usable
    rw [if_neg usable] at none
    rw [none]

theorem asked_of_mem_transmitHappenings {happening : Happening}
    (member : happening ∈ world.transmitHappenings sender frame) :
    ∃ guest flow segment,
      Request.asked world.gateway.subnet frame = some (.segment guest flow segment) ∧
        happening ∈ (world.spread sender frame).segmentHappenings sender guest flow segment := by
  cases asked : Request.asked world.gateway.subnet frame with
  | none =>
      rw [transmitHappenings_of_not_asked asked] at member
      cases member
  | some request =>
      rw [transmitHappenings_of_asked asked] at member
      cases request with
      | hardwareAddress | ownAddress | echo | datagram => cases member
      | segment guest flow segment => exact ⟨guest, flow, segment, rfl, member⟩

/-- What is asked for is served after the copies were left. -/
theorem copies_of_asked (sender : NicId)
    (asked : Request.asked world.gateway.subnet frame = some request) :
    ∃ calls, Leaves calls (world.gateway.copies sender frame) world (world.spread sender frame) ∧
      ∀ call ∈ calls, ∃ relay, world.gateway.relay = some relay ∧ relay.Passes frame call := by
  obtain ⟨atLeast, atMost, _⟩ := asked_eq_some_iff.mp asked
  rw [Gateway.copies, if_neg (by omega)]
  exact world.spread_leaves sender frame

theorem copies_of_not_asked (sender : NicId)
    (none : Request.asked world.gateway.subnet frame = none) :
    ∃ calls, Leaves calls (world.gateway.copies sender frame) world
        (world.transmit sender frame) ∧
      ∀ call ∈ calls, ∃ relay, world.gateway.relay = some relay ∧ relay.Passes frame call := by
  rw [Request.asked] at none
  rw [Gateway.copies, transmit]
  split
  · exact ⟨[], .refl world, fun call member => absurd member List.not_mem_nil⟩
  · rename_i usable
    rw [if_neg usable] at none
    rw [none]
    exact world.spread_leaves sender frame

end World

end Masquerade
