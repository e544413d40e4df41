import Masquerade.Backlog
import Masquerade.FlowTable
import Masquerade.Gateway.Mapping
import Masquerade.Gateway.Stream.Turn
import Masquerade.Settings

/-!
# The gateway

The state of one simulated network: its controllers, the streams and mappings
that are carried to the outside, and the frames that wait for controllers.  A
`World` is a gateway together with the kernel that it runs on; every operation is
a function between worlds.
-/

set_option autoImplicit false

namespace Masquerade

structure Relay where
  socket : SocketId
  peers : List Endpoint
  deriving DecidableEq, Repr

structure Gateway where
  subnet : Subnet
  retransmitRounds : Nat
  nameService : NameService
  /-- Counts frames taken from controllers and rounds that sent some. -/
  clock : Nat
  streams : FlowTable Stream
  mappings : FlowTable Mapping
  /-- The frames that wait to be picked up. -/
  mailbox : Backlog NicId Bytes
  /-- In the order of their registration. -/
  nics : List Nic
  relay : Option Relay

structure World where
  gateway : Gateway
  kernel : Kernel

namespace World

def register (world : World) (nic : Nic) : World :=
  { world with gateway := { world.gateway with nics := nic.register world.gateway.nics } }

def post (world : World) (nic : NicId) (frames : List Bytes) : World :=
  { world with
    gateway := { world.gateway with mailbox := world.gateway.mailbox.pushAll nic frames } }

def postBuilt (world : World) (nic : NicId) (frame : Except Packet.WireError Bytes) : World :=
  match frame with
  | .ok frame => world.post nic [frame]
  | .error _ => world

def postToAll (world : World) (nics : List Nic) (frame : Bytes) : World :=
  nics.foldl (fun world nic => world.post nic.id [frame]) world

def phase? (world : World) (flow : Flow) : Option Phase :=
  (world.gateway.streams.get? flow).map Stream.phase

def relayPort (world : World) : Option UInt16 × World :=
  match world.gateway.relay with
  | none => (none, world)
  | some relay =>
    match world.kernel.localPort relay.socket with
    | (.ok port, kernel) => (some port, { world with kernel })
    | (.error _, kernel) => (none, { world with kernel })

/-! ## Changing the tables -/

def keepStream (world : World) (flow : Flow) (stream : Stream) : World :=
  { world with
    gateway := { world.gateway with streams := world.gateway.streams.set flow stream } }

def touchStream (world : World) (flow : Flow) : World :=
  { world with gateway := { world.gateway with streams := world.gateway.streams.touch flow } }

def dropStream (world : World) (flow : Flow) : World :=
  match world.gateway.streams.remove flow with
  | (none, _) => world
  | (some stream, streams) =>
    { gateway := { world.gateway with streams }, kernel := world.kernel.close stream.socket }

end World

end Masquerade
