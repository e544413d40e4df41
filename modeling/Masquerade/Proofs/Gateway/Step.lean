import Masquerade.Proofs.FlowTable
import Masquerade.Proofs.Session.History

/-!
# Steps of a world

Whatever a gateway does falls into the few steps listed here, each of which touches
one row of one table or none, and makes calls about one socket.  A step of a stream
brings exactly one happening with it and any other step none.  What holds in the
course of sessions is proved step by step; that each operation is a row of steps is
proved elsewhere, once for all of them.
-/

set_option autoImplicit false

namespace Masquerade.World

open Kernel (Makes)

def withKernel (world : World) (kernel : Kernel) : World := { world with kernel }

@[simp] theorem gateway_withKernel (world : World) (kernel : Kernel) :
    (world.withKernel kernel).gateway = world.gateway := rfl

def withMappings (world : World) (mappings : FlowTable Mapping) : World :=
  { world with gateway := { world.gateway with mappings } }

def withStreams (world : World) (streams : FlowTable Stream) : World :=
  { world with gateway := { world.gateway with streams } }

/-- What is settled about a mapping when it is opened: it goes to where the guest
sends, or to the name server if the guest sends to the gateway. -/
structure Directs (subnet : Subnet) (names : NameService) (flow : Flow) (mapping : Mapping) :
    Prop where
  forNameServer : mapping.isForNameServer = decide (flow.outside.address = subnet.gateway)
  outside : flow.outside.address ≠ subnet.gateway → mapping.target = flow.outside
  nameServer : flow.outside.address = subnet.gateway →
    names.nameserver = some mapping.target.address ∧ mapping.target.port = flow.outside.port

inductive Step (world : World) : List Happening → World → Prop
  /-- Nothing happens to the tables or to the kernel. -/
  | aside (clock : Nat) (mailbox : Backlog NicId Bytes) (nics : List Nic) :
      Step world [] { world with gateway := { world.gateway with clock, mailbox, nics } }
  | looked {kernel : Kernel} (made : Makes [] world.kernel kernel) :
      Step world [] (world.withKernel kernel)
  | relayed {kernel : Kernel} {relay : Relay} {call : Call}
      (here : world.gateway.relay = some relay) (made : Makes [call] world.kernel kernel)
      (about : call.socket? = some relay.socket) (keeps : call.keepsSockets = true) :
      Step world [] (world.withKernel kernel)
  /-- A socket could not be opened. -/
  | missed {kernel : Kernel} {calls : List Call} (made : Makes calls world.kernel kernel)
      (fruitless : Call.Fruitless world.kernel.sockets.length calls) :
      Step world [] (world.withKernel kernel)
  | mappingUsed {kernel : Kernel} {flow : Flow} {mapping : Mapping} {call : Call}
      (found : world.gateway.mappings.get? flow = some mapping)
      (made : Makes [call] world.kernel kernel) (about : call.socket? = some mapping.socket)
      (keeps : call.keepsSockets = true) :
      Step world [] (world.withKernel kernel)
  | mappingNumbered {flow : Flow} {mapping : Mapping}
      (found : world.gateway.mappings.get? flow = some mapping) (identification : UInt16) :
      Step world []
        (world.withMappings (world.gateway.mappings.set flow { mapping with identification }))
  | mappingTouched (flow : Flow) :
      Step world [] (world.withMappings (world.gateway.mappings.touch flow))
  | mappingAdded {kernel : Kernel} {flow : Flow} {mapping : Mapping}
      {mappings : FlowTable Mapping} (absent : world.gateway.mappings.get? flow = none)
      (directs : Directs world.gateway.subnet world.gateway.nameService flow mapping)
      (fresh : mapping.socket = world.kernel.sockets.length)
      (made : Makes [.socket .datagram (.ok mapping.socket)] world.kernel kernel)
      (put : world.gateway.mappings.insertEvicting flow mapping = (none, mappings)) :
      Step world [] ((world.withKernel kernel).withMappings mappings)
  /-- In a full table, another mapping makes room. -/
  | mappingReplaced {kernel : Kernel} {flow : Flow} {mapping : Mapping}
      {evicted : Flow × Mapping} {mappings : FlowTable Mapping}
      (absent : world.gateway.mappings.get? flow = none)
      (directs : Directs world.gateway.subnet world.gateway.nameService flow mapping)
      (fresh : mapping.socket = world.kernel.sockets.length)
      (made : Makes [.socket .datagram (.ok mapping.socket)] world.kernel kernel)
      (put : world.gateway.mappings.insertEvicting flow mapping = (some evicted, mappings)) :
      Step world []
        ((world.withKernel (kernel.close evicted.2.socket)).withMappings mappings)
  | streamAdded {kernel : Kernel} {stream : Stream} {request : Segment}
      {result : Except Errno Unit} {streams : FlowTable Stream}
      (absent : world.gateway.streams.get? stream.flow = none) (opens : request.opens = true)
      (opening : stream = Stream.opening stream.owner stream.guestMac stream.flow
        world.kernel.sockets.length request stream.outsideNext)
      (made : Makes [.socket .stream (.ok stream.socket),
        .connect stream.socket stream.flow.outside result] world.kernel kernel)
      (put : world.gateway.streams.insert? stream.flow stream = some streams) :
      Step world [.opened request stream world.kernel kernel]
        ((world.withKernel kernel).withStreams streams)
  | streamTurned {flow : Flow} {stream : Stream} (cause : Stream.Cause) (now : Nat)
      (found : world.gateway.streams.get? flow = some stream)
      (goesOn : (stream.turn now world.kernel cause).ends = false) :
      Step world [.turned cause now stream world.kernel]
        ((world.withKernel (stream.turn now world.kernel cause).kernel).withStreams
          (world.gateway.streams.set flow (stream.turn now world.kernel cause).stream))
  | streamTouched (flow : Flow) :
      Step world [] (world.withStreams (world.gateway.streams.touch flow))
  | streamEnded {flow : Flow} {stream : Stream} (cause : Stream.Cause) (now : Nat)
      (found : world.gateway.streams.get? flow = some stream)
      (ends : (stream.turn now world.kernel cause).ends = true) :
      Step world [.turned cause now stream world.kernel]
        ((world.withKernel
          ((stream.turn now world.kernel cause).kernel.close stream.socket)).withStreams
          (world.gateway.streams.remove flow).2)

theorem Step.makes {before after : World} {happenings : List Happening}
    (step : Step before happenings after) : ∃ calls, Makes calls before.kernel after.kernel := by
  cases step with
  | aside | mappingNumbered | mappingTouched | streamTouched => exact ⟨[], Makes.refl _⟩
  | looked made | relayed _ made | missed made | mappingUsed _ made | mappingAdded _ _ _ made
  | streamAdded _ _ _ made => exact ⟨_, made⟩
  | mappingReplaced _ _ _ made => exact ⟨_, made.trans (Kernel.makes_close ..)⟩
  | @streamTurned flow stream cause now =>
      obtain ⟨calls, made, _⟩ := stream.turn_move now before.kernel cause
      exact ⟨calls, made⟩
  | @streamEnded flow stream cause now =>
      obtain ⟨calls, made, _⟩ := stream.turn_move now before.kernel cause
      exact ⟨_, made.trans (Kernel.makes_close ..)⟩

structure SameSetUp (before after : Gateway) : Prop where
  subnet : after.subnet = before.subnet
  retransmitRounds : after.retransmitRounds = before.retransmitRounds
  nameService : after.nameService = before.nameService
  relay : after.relay = before.relay

theorem Step.sameSetUp {before after : World} {happenings : List Happening}
    (step : Step before happenings after) : SameSetUp before.gateway after.gateway := by
  cases step <;> exact ⟨rfl, rfl, rfl, rfl⟩

inductive Steps : World → List Happening → World → Prop
  | refl (world : World) : Steps world [] world
  | more {before between after : World} {first rest : List Happening}
      (step : Step before first between) (steps : Steps between rest after) :
      Steps before (first ++ rest) after

namespace Steps

theorem trans {before between after : World} {first second : List Happening}
    (start : Steps before first between) (rest : Steps between second after) :
    Steps before (first ++ second) after := by
  induction start with
  | refl => exact rest
  | more step _ ih =>
      rw [List.append_assoc]
      exact .more step (ih rest)

theorem single {before after : World} {happenings : List Happening}
    (step : Step before happenings after) : Steps before happenings after := by
  have steps := more step (refl after)
  rwa [List.append_nil] at steps

theorem after_quiet {before between after : World} {happenings : List Happening}
    (start : Steps before [] between) (rest : Steps between happenings after) :
    Steps before happenings after := start.trans rest

theorem then_quiet {before between after : World} {happenings : List Happening}
    (start : Steps before happenings between) (rest : Steps between [] after) :
    Steps before happenings after := by
  have steps := start.trans rest
  rwa [List.append_nil] at steps

theorem makes {before after : World} {happenings : List Happening}
    (steps : Steps before happenings after) : ∃ calls, Makes calls before.kernel after.kernel := by
  induction steps with
  | refl world => exact ⟨[], Makes.refl _⟩
  | more step _ ih =>
      obtain ⟨first, made⟩ := step.makes
      obtain ⟨rest, later⟩ := ih
      exact ⟨first ++ rest, made.trans later⟩

theorem sameSetUp {before after : World} {happenings : List Happening}
    (steps : Steps before happenings after) : SameSetUp before.gateway after.gateway := by
  induction steps with
  | refl world => exact ⟨rfl, rfl, rfl, rfl⟩
  | more step _ ih =>
      obtain ⟨subnet, retransmitRounds, nameService, relay⟩ := step.sameSetUp
      exact ⟨ih.subnet.trans subnet, ih.retransmitRounds.trans retransmitRounds,
        ih.nameService.trans nameService, ih.relay.trans relay⟩

end Steps

end Masquerade.World
