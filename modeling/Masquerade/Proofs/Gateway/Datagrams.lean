import Masquerade.Proofs.Gateway.Requests
import Masquerade.Proofs.Gateway.Segments
import Masquerade.Proofs.Gateway.Spread

/-!
# Datagrams of guests

A datagram that asks to be carried is sent once, on the socket of the mapping of its
flow, where there is such a mapping or one can be opened.  Nothing else that the
gateway does with a frame sends on the socket of a mapping.
-/

set_option autoImplicit false

namespace Masquerade

open Kernel (Makes)

/-! ## Sending on some sockets -/

def Call.sendsFrom (sockets : List SocketId) : Call → Bool
  | .sendTo handle _ _ _ => decide (handle ∈ sockets)
  | _ => false

def sentFrom (sockets : List SocketId) (calls : List Call) : List Call :=
  calls.filter (Call.sendsFrom sockets)

theorem sentFrom_append (sockets : List SocketId) (first second : List Call) :
    sentFrom sockets (first ++ second) = sentFrom sockets first ++ sentFrom sockets second :=
  List.filter_append ..

theorem sentFrom_of_spare {sockets : List SocketId} {calls : List Call}
    (spare : Spare sockets calls) : sentFrom sockets calls = [] := by
  refine List.filter_eq_nil_iff.mpr fun call member sends => ?_
  cases call with
  | sendTo socket target bytes result =>
      exact spare _ member socket (of_decide_eq_true sends) rfl
  | _ => cases sends

theorem sentFrom_of_uncalled {socket : SocketId} {calls : List Call} {before after : Kernel}
    (made : Kernel.Makes calls before after)
    (uncalled : after.callsOn socket = before.callsOn socket) : sentFrom [socket] calls = [] := by
  rw [made.callsOn_eq, List.append_right_eq_self] at uncalled
  refine List.filter_eq_nil_iff.mpr fun call member sends => ?_
  cases call with
  | sendTo own target bytes result =>
      obtain rfl : own = socket := List.mem_singleton.mp (of_decide_eq_true sends)
      exact List.filter_eq_nil_iff.mp uncalled _ member (decide_eq_true rfl)
  | _ => cases sends

theorem sentFrom_of_givings {calls : List Call}
    (givings : ∀ call ∈ calls, call.keepsSockets = false) (sockets : List SocketId) :
    sentFrom sockets calls = [] := by
  refine List.filter_eq_nil_iff.mpr fun call member sends => ?_
  cases call with
  | sendTo socket target bytes result => cases givings _ member
  | _ => cases sends

theorem Spare.mono {sockets others : List SocketId} {calls : List Call}
    (spare : Spare sockets calls) (fewer : ∀ socket ∈ others, socket ∈ sockets) :
    Spare others calls :=
  fun call member socket inside => spare call member socket (fewer socket inside)

namespace Gateway

def mappingSockets (gateway : Gateway) : List SocketId :=
  gateway.mappings.rows.map fun row => row.2.socket

theorem mem_mappingSockets {gateway : Gateway} {row : Flow × Mapping}
    (member : row ∈ gateway.mappings.rows) : row.2.socket ∈ gateway.mappingSockets :=
  List.mem_map.mpr ⟨row, member, rfl⟩

theorem mappingSockets_of_same {gateway other : Gateway}
    (same : other.mappings = gateway.mappings) : other.mappingSockets = gateway.mappingSockets := by
  rw [mappingSockets, same, mappingSockets]

end Gateway

namespace World

/-! ## Opening a mapping -/

/-- A mapping for a flow can be opened: the kernel gives a socket, and where the flow
leads to the gateway there is a name server to stand for it. -/
structure CanMap (world : World) (flow : Flow) : Prop where
  socket : world.kernel.CanOpen
  target : flow.outside.address = world.gateway.subnet.gateway →
    world.gateway.nameService.nameserver.isSome = true

variable {world : World} {flow : Flow}

theorem targetOf_isSome_iff (world : World) (flow : Flow) :
    (world.targetOf flow).isSome = true ↔
      (flow.outside.address = world.gateway.subnet.gateway →
        world.gateway.nameService.nameserver.isSome = true) := by
  simp only [targetOf]
  split
  · rename_i toGateway
    simp only [Option.isSome_map, toGateway, forall_const]
  · rename_i away
    simp only [Option.isSome_some, away, false_imp_iff]

/-- What opening a mapping comes to: sockets are given and closed at most, and the flow gets
a mapping, with a socket of its own and numbers from zero on, just if it can have one. -/
theorem openMapping_leaves (sound : world.Sound) (owner : NicId) (guestMac : Mac) (flow : Flow) :
    ∃ calls, Leaves calls [] world (world.openMapping owner guestMac flow) ∧
      ((¬ world.CanMap flow ∧ Spare world.gateway.datagramSockets calls ∧
          (world.openMapping owner guestMac flow).gateway.mappings = world.gateway.mappings) ∨
        (world.CanMap flow ∧ (∀ call ∈ calls, call.keepsSockets = false) ∧
          ∃ (mapping : Mapping) (evicted : Option (Flow × Mapping)),
            mapping.socket = world.kernel.sockets.length ∧ mapping.identification = 0 ∧
            world.gateway.mappings.insertEvicting flow mapping =
              (evicted, (world.openMapping owner guestMac flow).gateway.mappings))) := by
  have targeted := world.targetOf_isSome_iff flow
  have opening := world.kernel.openSocket_isOk_iff .datagram
  have newcomer : ∀ {target socket kernel}, world.targetOf flow = some target →
      world.kernel.openDatagram = (.ok socket, kernel) →
      world.CanMap flow ∧ socket = world.kernel.sockets.length ∧
        Makes [.socket .datagram (.ok socket)] world.kernel kernel := by
    intro target socket kernel aimed opened
    refine ⟨⟨opening.mp ⟨_, _, opened⟩, targeted.mp ?_⟩, Kernel.openSocket_ok opened⟩
    rw [aimed]
    rfl
  generalize leads : world.openMapping owner guestMac flow = after
  cases openMapping_outcome leads with
  | aimless nowhere =>
      refine ⟨[], .refl world, Or.inl ⟨fun can => ?_, by simp [Spare], rfl⟩⟩
      rw [nowhere] at targeted
      exact Bool.false_ne_true (targeted.mpr can.target)
  | @failed errno kernel missed =>
      obtain ⟨calls, made, fruitless⟩ := Kernel.openSocket_error missed
      refine ⟨calls, .called made,
        Or.inl ⟨fun can => ?_, sound.spare_of_fresh fruitless.about, rfl⟩⟩
      obtain ⟨socket, between, succeeded⟩ := opening.mpr can.socket
      have failed : world.kernel.openSocket .datagram = (.error errno, kernel) := missed
      rw [failed] at succeeded
      cases succeeded
  | added aimed opened put =>
      obtain ⟨can, rfl, made⟩ := newcomer aimed opened
      exact ⟨_, ⟨made, (List.append_nil _).symm, rfl, rfl⟩,
        Or.inr ⟨can, by simp [Call.keepsSockets], _, _, rfl, rfl, put⟩⟩
  | @replaced _ _ kernel _ evicted _ aimed opened put =>
      -- The mapping that makes room gives its socket back.
      obtain ⟨can, rfl, made⟩ := newcomer aimed opened
      have closed := made.trans (Kernel.makes_close kernel evicted.socket)
      exact ⟨_, ⟨closed, (List.append_nil _).symm, rfl, rfl⟩,
        Or.inr ⟨can, by simp [Call.keepsSockets], _, _, rfl, rfl, put⟩⟩

/-! ## Sending a datagram -/

theorem mappings_sendDatagram (world : World) (flow : Flow) (payload : Bytes) :
    (world.sendDatagram flow payload).gateway.mappings = world.gateway.mappings.touch flow := by
  rw [sendDatagram]
  cases found : world.gateway.mappings.get? flow with
  | none => exact (FlowTable.touch_of_none found).symm
  | some mapping => rfl

theorem sendDatagram_leaves {mapping : Mapping}
    (found : world.gateway.mappings.get? flow = some mapping) (payload : Bytes) :
    ∃ result, Leaves [.sendTo mapping.socket mapping.target payload result] [] world
        (world.sendDatagram flow payload) := by
  simp only [sendDatagram, found]
  cases sent : world.kernel.sendTo mapping.socket mapping.target payload with
  | mk result kernel => exact ⟨result, Kernel.makes_sendTo sent, (List.append_nil _).symm, rfl, rfl⟩

theorem sendDatagram_of_none (absent : world.gateway.mappings.get? flow = none)
    (payload : Bytes) : world.sendDatagram flow payload = world := by
  rw [sendDatagram, absent]

def Carries (world : World) (flow : Flow) : Prop :=
  (∃ mapping, world.gateway.mappings.get? flow = some mapping) ∨ world.CanMap flow

structure Forwards (before after : World) (flow : Flow) (payload : Bytes) (calls : List Call)
    (mapping : Mapping) : Prop where
  mapped : after.gateway.mappings.get? flow = some mapping
  kept : ∀ old, before.gateway.mappings.get? flow = some old → mapping = old
  once : ∃ result, ∀ sockets, mapping.socket ∈ sockets →
    sentFrom sockets calls = [.sendTo mapping.socket mapping.target payload result]

theorem sentFrom_singleton {sockets : List SocketId} {socket : SocketId}
    (inside : socket ∈ sockets) (target : Endpoint) (payload : Bytes)
    (result : Except Errno Nat) :
    sentFrom sockets [.sendTo socket target payload result] =
      [.sendTo socket target payload result] := by
  refine List.filter_eq_self.mpr fun call member => ?_
  rw [List.mem_singleton.mp member]
  exact decide_eq_true inside

/-- A datagram is sent just if its flow is carried. -/
theorem onDatagram_leaves (sound : world.Sound) (sender : NicId) (guestMac : Mac) (flow : Flow)
    (payload : Bytes) :
    ∃ calls, Leaves calls [] world (world.onDatagram sender guestMac flow payload) ∧
      ((¬ world.Carries flow ∧ Spare world.gateway.datagramSockets calls ∧
          (world.onDatagram sender guestMac flow payload).gateway.mappings =
            world.gateway.mappings) ∨
        (world.Carries flow ∧ ∃ mapping, Forwards world
          (world.onDatagram sender guestMac flow payload) flow payload calls mapping)) := by
  cases found : world.gateway.mappings.get? flow with
  | some mapping =>
      obtain ⟨result, leaves⟩ := sendDatagram_leaves found payload
      rw [onDatagram_of_some found]
      refine ⟨_, leaves, Or.inr ⟨Or.inl ⟨mapping, found⟩, mapping, ?_, ?_, result, ?_⟩⟩
      · rw [mappings_sendDatagram, FlowTable.get?_touch, found]
      · intro old same
        rw [found] at same
        exact Option.some.inj same
      · exact fun sockets inside => sentFrom_singleton inside ..
  | none =>
      rw [onDatagram_of_none found]
      obtain ⟨opening, opened, outcome⟩ := openMapping_leaves sound sender guestMac flow
      rcases outcome with ⟨cannot, spare, same⟩ | ⟨can, givings, mapping, _, _, _, put⟩
      · have still := found
        rw [← same] at still
        rw [sendDatagram_of_none still]
        refine ⟨opening, opened, Or.inl ⟨?_, spare, same⟩⟩
        rintro (⟨mapping, there⟩ | can)
        · rw [found] at there
          cases there
        · exact cannot can
      · have given := FlowTable.get?_insertEvicting found put
        obtain ⟨result, leaves⟩ := sendDatagram_leaves given payload
        refine ⟨_, opened.trans leaves, Or.inr ⟨Or.inr can, mapping, ?_, ?_, result, ?_⟩⟩
        · rw [mappings_sendDatagram, FlowTable.get?_touch, given]
        · intro old there
          rw [found] at there
          cases there
        · intro sockets inside
          rw [sentFrom_append, sentFrom_of_givings givings, sentFrom_singleton inside]
          rfl

end World

end Masquerade
