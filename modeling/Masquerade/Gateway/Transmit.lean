import Masquerade.Gateway.Basic

/-!
# Frames from controllers

Each frame goes to all other controllers and to the peers as it is; then the
gateway does what it asks for, if anything.
-/

set_option autoImplicit false

namespace Masquerade.World

/-! ## Datagrams -/

/-- Where the datagrams of a flow go: to the outside, or for those sent to the
gateway to the name server, if one is known. -/
def targetOf (world : World) (flow : Flow) : Option Endpoint :=
  if flow.outside.address = world.gateway.subnet.gateway then
    world.gateway.nameService.nameserver.map fun address => ⟨address, flow.outside.port⟩
  else some flow.outside

/-- Opens a mapping for a flow without one.  In a full table it takes the place of
the least recently used mapping, whose socket is closed. -/
def openMapping (world : World) (owner : NicId) (guestMac : Mac) (flow : Flow) : World :=
  match world.targetOf flow with
  | none => world
  | some target =>
    match world.kernel.openDatagram with
    | (.error _, kernel) => { world with kernel }
    | (.ok socket, kernel) =>
      let mapping : Mapping :=
        { owner, guestMac, socket, identification := 0, target
          isForNameServer := flow.outside.address = world.gateway.subnet.gateway }
      match world.gateway.mappings.insertEvicting flow mapping with
      | (none, mappings) => { gateway := { world.gateway with mappings }, kernel }
      | (some (_, evicted), mappings) =>
        { gateway := { world.gateway with mappings }, kernel := kernel.close evicted.socket }

def sendDatagram (world : World) (flow : Flow) (payload : Bytes) : World :=
  match world.gateway.mappings.get? flow with
  | none => world
  | some mapping =>
    { gateway := { world.gateway with mappings := world.gateway.mappings.touch flow }
      kernel := (world.kernel.sendTo mapping.socket mapping.target payload).2 }

def onDatagram (world : World) (sender : NicId) (guestMac : Mac) (flow : Flow)
    (payload : Bytes) : World :=
  if world.gateway.mappings.contains flow then world.sendDatagram flow payload
  else (world.openMapping sender guestMac flow).sendDatagram flow payload

/-! ## Segments -/

def refuse (world : World) (sender : NicId) (guestMac : Mac) (flow : Flow) (segment : Segment)
    (length : Nat) : World :=
  world.postBuilt sender (Answer.reset guestMac flow segment.header length)

/-- Opens a stream for a flow without one.  Streams never make room for others,
and nothing listens on the gateway itself. -/
def openStream (world : World) (sender : NicId) (guestMac : Mac) (flow : Flow)
    (segment : Segment) : World :=
  if world.gateway.streams.isFull ∨ flow.outside.address = world.gateway.subnet.gateway then
    world.refuse sender guestMac flow segment 0
  else
    match world.kernel.openStream flow.outside with
    | (.error _, kernel) => { world with kernel }.refuse sender guestMac flow segment 0
    | (.ok socket, kernel) =>
      let (initial, kernel) := kernel.drawRandom
      let stream := Stream.opening sender guestMac flow socket segment initial
      match world.gateway.streams.insert? flow stream with
      | none => { world with kernel := kernel.close socket }
      | some streams => { gateway := { world.gateway with streams }, kernel }

def continueStream (world : World) (flow : Flow) (stream : Stream) (segment : Segment) : World :=
  let turn := stream.onSegment world.gateway.clock segment world.kernel
  let world :=
    ({ world with kernel := turn.kernel }.keepStream flow turn.stream).post stream.owner
      turn.frames
  if turn.ends then world.dropStream flow else world.touchStream flow

/-- A segment of a guest.  One that asks for a stream that is there is ignored. -/
def onSegment (world : World) (sender : NicId) (guestMac : Mac) (flow : Flow)
    (segment : Segment) : World :=
  match world.gateway.streams.get? flow with
  | some stream =>
    if segment.opens then world else world.continueStream flow stream segment
  | none =>
    if segment.opens then world.openStream sender guestMac flow segment
    else if segment.has .rst then world
    else world.refuse sender guestMac flow segment segment.payload.length

/-! ## Frames -/

def serve (world : World) (sender : NicId) : Request → World
  | .hardwareAddress guest packet =>
    world.post sender [Answer.hardwareAddress world.gateway.subnet guest packet]
  | .ownAddress guest packet =>
    world.post sender [Answer.ownAddress world.gateway.subnet guest packet]
  | .echo guest ip message =>
    world.postBuilt sender (Answer.echo world.gateway.subnet guest ip message)
  | .datagram guest flow payload => world.onDatagram sender guest flow payload
  | .segment guest flow segment => world.onSegment sender guest flow segment

def relayOut (world : World) (frame : Bytes) : World :=
  match world.gateway.relay with
  | none => world
  | some relay =>
    { world with
      kernel := relay.peers.foldl
        (fun kernel peer => (kernel.sendTo relay.socket peer frame).2) world.kernel }

def spread (world : World) (sender : NicId) (frame : Bytes) : World :=
  let world := { world with gateway := { world.gateway with clock := world.gateway.clock + 1 } }
  (world.postToAll (world.gateway.nics.filter (fun nic => nic.id ≠ sender)) frame).relayOut frame

/-- A frame from a controller, without its check sequence.  Frames of a length
that cannot be are ignored altogether. -/
def transmit (world : World) (sender : NicId) (frame : Bytes) : World :=
  if frame.length < Request.shortestFrame ∨ Request.longestFrame < frame.length then world
  else
    let spread := world.spread sender frame
    match Request.ofFrame world.gateway.subnet frame with
    | none => spread
    | some request => spread.serve sender request

end Masquerade.World
