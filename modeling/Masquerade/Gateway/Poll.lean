import Masquerade.Gateway.Basic

/-!
# Rounds

A round finds out in one look what all sockets are ready for and then serves each
of them once: the mappings, the streams, and last the relay.
-/

set_option autoImplicit false

namespace Masquerade.World

open Kernel (Interest Readiness)

/-! ## Mappings -/

/-- Numbers a reply and leaves its frames for the guest.  A reply that cannot be
built is dropped, and its number with it. -/
def onReply (world : World) (flow : Flow) (mapping : Mapping) (payload : Bytes) : World :=
  let gateway := world.gateway
  let numbered : Mapping := { mapping with identification := mapping.identification + 1 }
  let mappings := gateway.mappings.set flow numbered
  match mapping.replyFrames flow payload with
  | .error _ => { world with gateway := { gateway with mappings } }
  | .ok frames =>
    { world with
      gateway :=
        { gateway with
          clock := gateway.clock + 1
          mappings := mappings.touch flow } }.post mapping.owner frames

def serveMapping (world : World) (flow : Flow) (ready : Readiness) : World :=
  if !ready.readable then world
  else
    match world.gateway.mappings.get? flow with
    | none => world
    | some mapping =>
      match world.kernel.receiveFrom mapping.socket Mapping.mostReceived with
      | (.error _, kernel) => { world with kernel }
      | (.ok (payload, _), kernel) => { world with kernel }.onReply flow mapping payload

/-! ## Streams -/

/-- Gives the stream of a flow its turn.  The clock moves on only if something is
sent, and so does the place in the table. -/
def serveStream (world : World) (flow : Flow) (ready : Readiness) : World :=
  match world.gateway.streams.get? flow with
  | none => world
  | some stream =>
    let now := world.gateway.clock + 1
    let turn := stream.onReady now world.gateway.retransmitRounds ready world.kernel
    let kept := { world with kernel := turn.kernel }.keepStream flow turn.stream
    let sent :=
      if turn.frames.isEmpty then kept
      else
        { kept with gateway := { kept.gateway with clock := now } }.touchStream flow
          |>.post stream.owner turn.frames
    if turn.ends then sent.dropStream flow else sent

/-! ## The relay -/

def mostRelayed : Nat := 2048

def receiveAll (socket : SocketId) : Nat → Kernel → List Bytes × Kernel
  | 0, kernel => ([], kernel)
  | rounds + 1, kernel =>
    match kernel.receiveFrom socket mostRelayed with
    | (.error _, kernel) => ([], kernel)
    | (.ok (frame, _), kernel) =>
      let (frames, kernel) := receiveAll socket rounds kernel
      (frame :: frames, kernel)

def waitingOn (kernel : Kernel) (socket : SocketId) : Nat :=
  ((kernel.socket? socket).map (fun found => found.incoming.length)).getD 0

/-- Leaves each frame that the peers have sent for every controller.  What is
shorter than a header is dropped. -/
def relayIn (world : World) (relay : Relay) : World :=
  let (frames, kernel) :=
    receiveAll relay.socket (waitingOn world.kernel relay.socket + 1) world.kernel
  (frames.filter (fun frame => Packet.EthernetHeader.size ≤ frame.length)).foldl
    (fun world frame => world.postToAll world.gateway.nics frame) { world with kernel }

/-! ## Rounds -/

def interests (gateway : Gateway) : List Interest :=
  gateway.mappings.rows.map (fun row => ⟨row.2.socket, true, false⟩) ++
    gateway.streams.rows.map (fun row => ⟨row.2.socket, true, true⟩) ++
    gateway.relay.toList.map (fun relay => ⟨relay.socket, true, false⟩)

def serveRelay (world : World) (ready : List Readiness) : World :=
  match world.gateway.relay with
  | none => world
  | some relay => if ready.any Readiness.readable then world.relayIn relay else world

/-- Serves all sockets with the readiness that was found, in the order in which
the round found them. -/
def serveAll (world : World) (ready : List Readiness) : World :=
  let mappings := world.gateway.mappings.flows
  let streams := world.gateway.streams.flows
  let afterMappings := (mappings.zip ready).foldl
    (fun world (flow, ready) => world.serveMapping flow ready) world
  let forStreams := ready.drop mappings.length
  let afterStreams := (streams.zip forStreams).foldl
    (fun world (flow, ready) => world.serveStream flow ready) afterMappings
  afterStreams.serveRelay (forStreams.drop streams.length)

/-- One round.  If the look fails, nothing is served. -/
def poll (world : World) : World :=
  match world.kernel.readiness (interests world.gateway) with
  | (.error _, kernel) => { world with kernel }
  | (.ok ready, kernel) => { world with kernel }.serveAll ready

def pollTimes : Nat → World → World
  | 0, world => world
  | rounds + 1, world => pollTimes rounds world.poll

/-! ## Picking frames up -/

def pickUp (world : World) (nic : NicId) : Option Bytes × World :=
  match world.gateway.mailbox.pop? nic with
  | none => (none, world)
  | some (frame, mailbox) =>
    (some frame, { world with gateway := { world.gateway with mailbox } })

def pollAndReceive (world : World) (nic : NicId) : Option Bytes × World :=
  world.poll.pickUp nic

def receiveAvailable (world : World) (nic : NicId) : Bool × World :=
  (world.poll.gateway.mailbox.has nic, world.poll)

def receiveUpTo (nic : NicId) : Nat → World → List Bytes × World
  | 0, world => ([], world)
  | most + 1, world =>
    match world.pollAndReceive nic with
    | (none, world) => ([], world)
    | (some frame, world) =>
      let (frames, world) := receiveUpTo nic most world
      (frame :: frames, world)

end Masquerade.World
