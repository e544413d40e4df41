import Masquerade.Gateway.Poll
import Masquerade.Gateway.SetUp
import Masquerade.Gateway.Transmit

/-!
# Sessions on a network

A session is a row of operations on one world, some by controllers and some by
the host.  Each operation gives a report: its reply, what the gateway then counts,
and the calls that it made.
-/

set_option autoImplicit false

namespace Masquerade.Session

inductive Operation
  | register (nic : Nic)
  | macOf (nic : NicId)
  | transmit (nic : NicId) (frame : Bytes)
  | poll (rounds : Nat)
  | receive (nic : NicId)
  | receiveUpTo (nic : NicId) (most : Nat)
  | available (nic : NicId)
  | phase (flow : Flow)
  | describe
  /-- The host settles how coming calls end. -/
  | script (outcomes : List (CallKind × Outcome)) (randoms : List UInt32)
  | change (socket : SocketId) (change : Kernel.SocketChange)

structure Description where
  address : Ipv4Address
  mac : Mac
  nameserver : Option Ipv4Address
  domain : Option String
  relayPort : Option UInt16
  deriving DecidableEq, Repr

inductive Reply
  | nothing
  | mac (found : Option Mac)
  | frame (found : Option Bytes)
  | frames (found : List Bytes)
  | flag (value : Bool)
  | phase (found : Option Phase)
  | description (found : Description)
  deriving DecidableEq, Repr

structure Report where
  reply : Reply
  clock : Nat
  streams : Nat
  mappings : Nat
  calls : List Call

/-- Looks at a network; the kernel is asked for the port of the relay. -/
def lookAt (world : World) : Description × World :=
  let (relayPort, after) := world.relayPort
  let gateway := world.gateway
  ({ address := gateway.subnet.gateway
     mac := Settings.gatewayMac
     nameserver := gateway.nameService.nameserver
     domain := gateway.nameService.domain
     relayPort }, after)

def Operation.run : Operation → World → Reply × World
  | .register nic, world => (.nothing, world.register nic)
  | .macOf nic, world => (.mac (Nic.mac? nic world.gateway.nics), world)
  | .transmit nic frame, world => (.nothing, world.transmit nic frame)
  | .poll rounds, world => (.nothing, World.pollTimes rounds world)
  | .receive nic, world =>
    let (frame, after) := world.pollAndReceive nic
    (.frame frame, after)
  | .receiveUpTo nic most, world =>
    let (frames, after) := World.receiveUpTo nic most world
    (.frames frames, after)
  | .available nic, world =>
    let (found, after) := world.receiveAvailable nic
    (.flag found, after)
  | .phase flow, world => (.phase (world.phase? flow), world)
  | .describe, world =>
    let (description, after) := lookAt world
    (.description description, after)
  | .script outcomes randoms, world =>
    (.nothing, { world with kernel := world.kernel.extendScript outcomes randoms })
  | .change socket edit, world =>
    let (found, kernel) := world.kernel.applyChange socket edit
    (.flag found, { world with kernel })

def step (world : World) (operation : Operation) : Report × World :=
  let (reply, after) := operation.run world
  ({ reply
     clock := after.gateway.clock
     streams := after.gateway.streams.size
     mappings := after.gateway.mappings.size
     calls := after.kernel.callsSince world.kernel }, after)

def run (world : World) : List Operation → List Report
  | [] => []
  | operation :: rest =>
    let (report, after) := step world operation
    report :: run after rest

end Masquerade.Session
