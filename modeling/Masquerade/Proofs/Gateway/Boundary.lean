import Masquerade.Proofs.Gateway.Answers
import Masquerade.Proofs.Gateway.SetUp
import Masquerade.Proofs.Gateway.Turns
import Masquerade.Proofs.Kernel.Targets

/-!
# How far traffic goes

Guests reach single hosts outside of their network and, through the gateway's own
address, the name server; nothing else.  Rounds name no endpoint at all.  A frame names
the outside of its flow, or the target of the mapping of its flow, and the relay names its
peers.
-/

set_option autoImplicit false

namespace Masquerade

open Kernel (MakesOnly NamesNone NamesOnly)
open Packet

/-! ## Bounds -/

structure Subnet.IsBeyond (subnet : Subnet) (address : Ipv4Address) : Prop where
  outside : subnet.contains address = false
  noBroadcast : address.isBroadcast = false
  noMulticast : address.isMulticast = false

/-- Where datagrams of a flow may go: to its outside or, where that is the gateway, to the
name server. -/
inductive Gateway.LeadsTo (gateway : Gateway) (flow : Flow) : Endpoint → Prop
  | outside (beyond : gateway.subnet.IsBeyond flow.outside.address) :
      LeadsTo gateway flow flow.outside
  | nameServer {address : Ipv4Address}
      (toGateway : flow.outside.address = gateway.subnet.gateway)
      (known : gateway.nameService.nameserver = some address) :
      LeadsTo gateway flow ⟨address, flow.outside.port⟩

/-- Connecting is for hosts outside of the network.  Datagrams are for the peers of the
relay on its socket, and on the socket of a mapping for where its flow leads. -/
def Gateway.Permits (gateway : Gateway) : Call → Prop
  | .connect _ target _ => gateway.subnet.IsBeyond target.address
  | .sendTo socket target _ _ =>
    (∃ relay, gateway.relay = some relay ∧ socket = relay.socket ∧ target ∈ relay.peers) ∨
      ∃ flow mapping, gateway.mappings.get? flow = some mapping ∧ socket = mapping.socket ∧
        target = mapping.target ∧ gateway.LeadsTo flow target
  | _ => True

def Gateway.SendsFor (gateway : Gateway) (flow : Flow) (payload : Bytes) (call : Call) : Prop :=
  ∃ mapping result, gateway.mappings.get? flow = some mapping ∧
    call = .sendTo mapping.socket mapping.target payload result

theorem Gateway.permits_of_none (gateway : Gateway) (call : Call) (none : call.target? = none) :
    gateway.Permits call := by
  cases call with
  | connect | sendTo => cases none
  | socket | bind | send | receive | receiveFrom | shutdown | close => trivial

theorem Relay.Passes.permits {gateway : Gateway} {relay : Relay} {frame : Bytes} {call : Call}
    (passes : relay.Passes frame call) (here : gateway.relay = some relay) :
    gateway.Permits call := by
  obtain ⟨peer, member, result, rfl⟩ := passes
  exact Or.inl ⟨relay, here, rfl, member⟩

section Served

variable {subnet : Subnet} {address : Ipv4Address}

theorem Subnet.contains_gateway (subnet : Subnet) : subnet.contains subnet.gateway = true :=
  subnet.contains_host 254

theorem isBeyond_of_isServed (served : Request.isServed subnet address = true)
    (away : address ≠ subnet.gateway) : subnet.IsBeyond address := by
  obtain ⟨noBroadcast, noMulticast, outward⟩ := (isServed_iff subnet address).mp served
  exact ⟨outward.resolve_left away, noBroadcast, noMulticast⟩

theorem Reaches.isServed {frame : Bytes} {delivery : Delivery}
    (reaches : Reaches subnet frame delivery) :
    Request.isServed subnet delivery.ip.destination = true :=
  (isServed_iff ..).mpr ⟨reaches.noBroadcast, reaches.noMulticast, reaches.outward⟩

variable {frame : Bytes} {guest : Mac} {flow : Flow}

theorem isServed_of_datagram {payload : Bytes}
    (asked : Request.asked subnet frame = some (.datagram guest flow payload)) :
    Request.isServed subnet flow.outside.address = true := by
  obtain ⟨_, _, found⟩ := asked_eq_some_iff.mp asked
  obtain ⟨delivery, _, reaches, _, holds⟩ := (ofFrame_datagram_iff ..).mp found
  rw [holds.flow]
  exact reaches.isServed

theorem isServed_of_segment {segment : Segment}
    (asked : Request.asked subnet frame = some (.segment guest flow segment)) :
    Request.isServed subnet flow.outside.address = true := by
  obtain ⟨_, _, found⟩ := asked_eq_some_iff.mp asked
  obtain ⟨delivery, reaches, _, holds⟩ := (ofFrame_segment_iff ..).mp found
  rw [holds.flow]
  exact reaches.isServed

end Served

theorem World.Directs.leadsTo {gateway : Gateway} {flow : Flow} {mapping : Mapping}
    (directs : World.Directs gateway.subnet gateway.nameService flow mapping)
    (served : Request.isServed gateway.subnet flow.outside.address = true) :
    gateway.LeadsTo flow mapping.target := by
  by_cases toGateway : flow.outside.address = gateway.subnet.gateway
  · obtain ⟨known, port⟩ := directs.nameServer toGateway
    have target : mapping.target = ⟨mapping.target.address, flow.outside.port⟩ := by
      rw [← port]
    rw [target]
    exact .nameServer toGateway known
  · rw [directs.outside toGateway]
    exact .outside (isBeyond_of_isServed served toGateway)

theorem Stream.Move.namesNone {stream : Stream} {now : Nat} {cause : Stream.Cause}
    {calls : List Call} {sent : Stream × List Bytes} {ends : Bool}
    (move : Stream.Move stream now cause calls sent ends) :
    ∀ call ∈ calls, call.target? = none := by
  cases move <;> simp [Call.target?]

theorem Stream.turn_namesNone (stream : Stream) (now : Nat) (kernel : Kernel) (cause : Cause) :
    NamesNone kernel (stream.turn now kernel cause).kernel := by
  obtain ⟨calls, made, move⟩ := stream.turn_move now kernel cause
  exact ⟨calls, made, move.namesNone⟩

namespace World

/-! ## Setting up -/

theorem openRelay_namesNone (port : Option UInt16) (peers : List Endpoint) (kernel : Kernel) :
    NamesNone kernel (openRelay port peers kernel).2 := by
  have bound := kernel.namesNone_openBound (port.getD 0)
  unfold openRelay
  split
  · exact .refl _ kernel
  · dsimp only
    split
    · rename_i failed
      rwa [failed] at bound
    · rename_i socket between opened
      rw [opened] at bound
      exact bound.trans (Kernel.namesNone_of_makes_nothing (between.makes_localPort socket))

theorem setUp_namesNone (settings : Settings) (book : HostBook) (nameServiceFile : Option Bytes)
    (kernel : Kernel) : NamesNone kernel (setUp settings book nameServiceFile kernel).2 := by
  unfold setUp
  split
  · exact .refl _ kernel
  · exact .refl _ kernel
  · rename_i peers _ _
    have relayed := openRelay_namesNone settings.relayPort peers kernel
    split
    · rename_i failed
      rwa [failed] at relayed
    · rename_i opened
      rwa [opened] at relayed

theorem IsNew.namesNone {world : World} (new : world.IsNew) :
    ∀ call ∈ world.kernel.log, call.target? = none := by
  obtain ⟨settings, book, nameServiceFile, outcomes, randoms, run⟩ := new
  obtain ⟨calls, made, none⟩ := setUp_namesNone settings book nameServiceFile
    (Kernel.fresh.extendScript outcomes randoms)
  rw [run] at made
  intro call member
  rw [made.log, (untouched_fresh outcomes randoms).log, List.append_nil] at member
  exact none call (List.mem_reverse.mp member)

/-! ## Rounds -/

section Allowed

variable {allowed : Call → Prop} (closes : ∀ socket, allowed (.close socket))
include closes

theorem makesOnly_dropped {kernel : Kernel} {world : World}
    (made : MakesOnly allowed kernel world.kernel) (flow : Flow) :
    MakesOnly allowed kernel (world.dropStream flow).kernel := by
  unfold dropStream
  split
  · exact made
  · exact made.trans (.close _ _ (closes _))

theorem serveStream_makesOnly
    (turns : ∀ (stream : Stream) (now : Nat) (kernel : Kernel) (cause : Stream.Cause),
      MakesOnly allowed kernel (stream.turn now kernel cause).kernel)
    (world : World) (flow : Flow) (ready : Kernel.Readiness) :
    MakesOnly allowed world.kernel (world.serveStream flow ready).kernel := by
  generalize leads : world.serveStream flow ready = after
  cases serveStream_outcome leads with
  | idle => exact .refl _ world.kernel
  | kept _ turned =>
      rw [kernel_keepTurn, ← turned]
      exact turns ..
  | dropped _ turned =>
      refine makesOnly_dropped closes ?_ flow
      rw [kernel_keepTurn, ← turned]
      exact turns ..

end Allowed

theorem namesNone_of_takes {calls : List Call} {before after : World}
    (made : Kernel.Makes calls before.kernel after.kernel)
    (takes : ∀ call ∈ calls, ∃ socket, call.TakesFrom socket) :
    NamesNone before.kernel after.kernel := by
  refine ⟨calls, made, fun call member => ?_⟩
  obtain ⟨socket, its⟩ := takes call member
  exact its.namesNone

theorem serveMapping_namesNone (world : World) (flow : Flow) (ready : Kernel.Readiness) :
    NamesNone world.kernel (world.serveMapping flow ready).kernel := by
  obtain ⟨calls, made, takes⟩ := serveMapping_takes world flow ready
  exact namesNone_of_takes made takes

theorem serveStream_namesNone (world : World) (flow : Flow) (ready : Kernel.Readiness) :
    NamesNone world.kernel (world.serveStream flow ready).kernel :=
  serveStream_makesOnly (fun _ => rfl) Stream.turn_namesNone world flow ready

theorem serveTurns_namesNone (turns : List (Place × Kernel.Readiness)) (world : World) :
    NamesNone world.kernel (world.serveTurns turns).kernel := by
  induction turns generalizing world with
  | nil => exact .refl _ world.kernel
  | cons turn rest ih =>
      refine .trans ?_ (ih (world.serveTurn turn))
      obtain ⟨place, ready⟩ := turn
      cases place with
      | stream flow => exact serveStream_namesNone world flow ready
      | mapping flow => exact serveMapping_namesNone world flow ready

theorem serveRelay_namesNone (world : World) (ready : List Kernel.Readiness) :
    NamesNone world.kernel (world.serveRelay ready).kernel := by
  obtain ⟨calls, made, takes⟩ := serveRelay_takes world ready
  exact namesNone_of_takes made takes

theorem poll_namesNone (world : World) : NamesNone world.kernel world.poll.kernel := by
  cases world.round_outcome with
  | failed _ made _ leads =>
      rw [leads]
      exact Kernel.namesNone_of_makes_nothing made
  | @served _ looked look made =>
      rw [poll_of_look look]
      exact (Kernel.namesNone_of_makes_nothing made).trans
        (.trans (serveTurns_namesNone _ (world.withKernel looked)) (serveRelay_namesNone ..))

/-! ## Frames -/

section Frames

variable {world : World} {flow : Flow}

theorem postBuilt_kernel (world : World) (nic : NicId) (frame : Except WireError Bytes) :
    (world.postBuilt nic frame).kernel = world.kernel := by
  unfold postBuilt
  split <;> rfl

theorem continueStream_namesNone (world : World) (flow : Flow) (stream : Stream)
    (segment : Segment) :
    NamesNone world.kernel (world.continueStream flow stream segment).kernel := by
  have turned := stream.turn_namesNone world.gateway.clock world.kernel (.segment segment)
  unfold continueStream
  dsimp only
  split
  · exact makesOnly_dropped (fun _ => rfl) turned flow
  · exact turned

theorem openStream_permits {gateway : Gateway} (same : gateway.subnet = world.gateway.subnet)
    (served : Request.isServed world.gateway.subnet flow.outside.address = true)
    (sender : NicId) (guestMac : Mac) (segment : Segment) :
    MakesOnly gateway.Permits world.kernel
      (world.openStream sender guestMac flow segment).kernel := by
  have begun : ¬ (world.gateway.streams.isFull = true ∨
        flow.outside.address = world.gateway.subnet.gateway) →
      MakesOnly gateway.Permits world.kernel (world.kernel.openStream flow.outside).2 := by
    intro granted
    have beyond : gateway.subnet.IsBeyond flow.outside.address := by
      rw [same]
      exact isBeyond_of_isServed served fun toGateway => granted (Or.inr toGateway)
    refine (world.kernel.openStream_connects flow.outside).mono fun call outcome => ?_
    rcases outcome with none | ⟨socket, result, rfl⟩
    · exact gateway.permits_of_none call none
    · exact beyond
  have drawn : ∀ kernel : Kernel, MakesOnly gateway.Permits kernel kernel.drawRandom.2 :=
    fun kernel =>
      (Kernel.namesNone_of_makes_nothing kernel.makes_drawRandom).mono gateway.permits_of_none
  generalize leads : world.openStream sender guestMac flow segment = after
  cases openStream_outcome leads with
  | declined =>
      rw [refuse, postBuilt_kernel]
      exact .refl _ world.kernel
  | failed granted missed =>
      have connected := begun granted
      rw [missed] at connected
      rw [refuse, postBuilt_kernel]
      exact connected
  | @taken socket kernel granted opened =>
      have connected := begun granted
      rw [opened] at connected
      exact (connected.trans (drawn kernel)).trans
        ((Kernel.namesNone_close _ socket).mono gateway.permits_of_none)
  | @added _ kernel _ granted opened =>
      have connected := begun granted
      rw [opened] at connected
      exact connected.trans (drawn kernel)

theorem onSegment_permits {gateway : Gateway} (same : gateway.subnet = world.gateway.subnet)
    (served : Request.isServed world.gateway.subnet flow.outside.address = true)
    (sender : NicId) (guestMac : Mac) (segment : Segment) :
    MakesOnly gateway.Permits world.kernel
      (world.onSegment sender guestMac flow segment).kernel := by
  generalize leads : world.onSegment sender guestMac flow segment = after
  cases onSegment_outcome leads with
  | repeated | passedOver => exact .refl _ world.kernel
  | continued => exact (continueStream_namesNone ..).mono gateway.permits_of_none
  | opened => exact openStream_permits same served sender guestMac segment
  | refused =>
      rw [refuse, postBuilt_kernel]
      exact .refl _ world.kernel

theorem openMapping_namesNone (world : World) (owner : NicId) (guestMac : Mac) (flow : Flow) :
    NamesNone world.kernel (world.openMapping owner guestMac flow).kernel := by
  have opening : NamesNone world.kernel world.kernel.openDatagram.2 :=
    world.kernel.namesNone_openSocket .datagram
  generalize leads : world.openMapping owner guestMac flow = after
  cases openMapping_outcome leads with
  | aimless => exact .refl _ world.kernel
  | failed missed => rwa [missed] at opening
  | added _ opened => rwa [opened] at opening
  | replaced _ opened =>
      rw [opened] at opening
      exact opening.trans (Kernel.namesNone_close ..)

theorem sendDatagram_sends (world : World) (flow : Flow) (payload : Bytes) :
    NamesOnly ((world.sendDatagram flow payload).gateway.SendsFor flow payload) world.kernel
      (world.sendDatagram flow payload).kernel := by
  have mappings := mappings_sendDatagram world flow payload
  cases found : world.gateway.mappings.get? flow with
  | none =>
      rw [sendDatagram_of_none found]
      exact .refl _ world.kernel
  | some mapping =>
      obtain ⟨result, sent⟩ := sendDatagram_leaves found payload
      refine .one sent.makes (Or.inr ⟨mapping, result, ?_, rfl⟩)
      rw [mappings]
      exact (FlowTable.get?_touch ..).trans found

theorem onDatagram_sends (world : World) (sender : NicId) (guestMac : Mac) (flow : Flow)
    (payload : Bytes) :
    NamesOnly ((world.onDatagram sender guestMac flow payload).gateway.SendsFor flow payload)
      world.kernel (world.onDatagram sender guestMac flow payload).kernel := by
  unfold onDatagram
  split
  · exact sendDatagram_sends world flow payload
  · exact ((openMapping_namesNone ..).namesOnly _).trans (sendDatagram_sends ..)

/-- What a frame brings about goes to the peers, or to where its flow leads. -/
theorem transmit_permits (sound : world.Sound) (sender : NicId) (frame : Bytes) :
    MakesOnly (world.transmit sender frame).gateway.Permits world.kernel
      (world.transmit sender frame).kernel := by
  have steps := steps_transmit world sender frame
  have soundLater := sound.steps steps
  obtain ⟨subnet, _, names, relay⟩ := steps.sameSetUp
  have passed : ∀ calls : List Call, (∀ call ∈ calls, ∃ relay,
      world.gateway.relay = some relay ∧ relay.Passes frame call) →
      ∀ call ∈ calls, (world.transmit sender frame).gateway.Permits call := by
    intro calls passes call member
    obtain ⟨_, here, passes⟩ := passes call member
    exact passes.permits (relay.trans here)
  cases asked : Request.asked world.gateway.subnet frame with
  | none =>
      obtain ⟨calls, leaves, passes⟩ := copies_of_not_asked sender asked
      exact ⟨calls, leaves.makes, passed calls passes⟩
  | some request =>
      obtain ⟨calls, leaves, passes⟩ := copies_of_asked sender asked
      have spread : MakesOnly (world.transmit sender frame).gateway.Permits world.kernel
          (world.spread sender frame).kernel := ⟨calls, leaves.makes, passed calls passes⟩
      refine spread.trans ?_
      rw [transmit_of_asked asked] at subnet names soundLater ⊢
      cases request with
      | hardwareAddress | ownAddress => exact .refl _ _
      | echo =>
          rw [serve, postBuilt_kernel]
          exact .refl _ _
      | segment guest flow segment =>
          have same := spread_subnet world sender frame
          refine onSegment_permits (subnet.trans same.symm) ?_ sender guest segment
          rw [same]
          exact isServed_of_segment asked
      | datagram guest flow payload =>
          refine (onDatagram_sends _ sender guest flow payload).mono fun call outcome => ?_
          rcases outcome with none | ⟨mapping, result, mapped, rfl⟩
          · exact Gateway.permits_of_none _ call none
          · have served := isServed_of_datagram asked
            rw [← subnet] at served
            exact Or.inr ⟨flow, mapping, mapped, rfl, rfl,
              (soundLater.mappings.get mapped).leadsTo served⟩

end Frames

/-! ## Frames to other stations -/

def IsElsewhere (frame : Bytes) : Prop :=
  ∃ header length, EthernetHeader.decode frame = .ok (header, length) ∧
    header.destination ≠ Settings.gatewayMac ∧ header.isGroup = false

theorem ofFrame_of_isElsewhere {subnet : Subnet} {frame : Bytes} (elsewhere : IsElsewhere frame) :
    Request.ofFrame subnet frame = none := by
  obtain ⟨header, length, decoded, away, single⟩ := elsewhere
  have closed : Request.openFrame frame = none := by
    simp [Request.openFrame, decoded, away, single]
  rw [Request.ofFrame, closed]

end World

end Masquerade
