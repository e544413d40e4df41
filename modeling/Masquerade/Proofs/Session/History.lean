import Masquerade.Proofs.Stream.Move
import Masquerade.Session.Network

/-!
# The history of a session

A happening is the opening of a stream or one of its turns, together with the
kernel before and after.  Which happenings an operation brings about is read off
the world in which it runs, in the order in which they come; the world itself
knows nothing of them.
-/

set_option autoImplicit false

namespace Masquerade

/-- Something that happened to a stream. -/
inductive Happening
  /-- A segment asked for the stream, and a socket was opened for it. -/
  | opened (request : Segment) (stream : Stream) (start finish : Kernel)
  /-- The stream as it was had its turn. -/
  | turned (cause : Stream.Cause) (now : Nat) (before : Stream) (start : Kernel)

namespace Happening

def stream : Happening → Stream
  | .opened _ stream _ _ => stream
  | .turned cause now before start => (before.turn now start cause).stream

def start : Happening → Kernel
  | .opened _ _ start _ => start
  | .turned _ _ _ start => start

def finish : Happening → Kernel
  | .opened _ _ _ finish => finish
  | .turned cause now before start => (before.turn now start cause).kernel

def frames : Happening → List Bytes
  | .opened _ _ _ _ => []
  | .turned cause now before start => (before.turn now start cause).frames

def ends : Happening → Bool
  | .opened _ _ _ _ => false
  | .turned cause now before start => (before.turn now start cause).ends

def socket (happening : Happening) : SocketId := happening.stream.socket

def calls (happening : Happening) : List Call := happening.finish.callsSince happening.start

end Happening

namespace World

open Kernel (Readiness)

/-! ## Frames from controllers -/

def segmentHappenings (world : World) (sender : NicId) (guestMac : Mac) (flow : Flow)
    (segment : Segment) : List Happening :=
  match world.gateway.streams.get? flow with
  | some stream =>
    if segment.opens then []
    else [.turned (.segment segment) world.gateway.clock stream world.kernel]
  | none =>
    let after := world.onSegment sender guestMac flow segment
    match after.gateway.streams.get? flow with
    | some stream => [.opened segment stream world.kernel after.kernel]
    | none => []

def requestHappenings (world : World) (sender : NicId) : Request → List Happening
  | .segment guest flow segment => world.segmentHappenings sender guest flow segment
  | _ => []

def transmitHappenings (world : World) (sender : NicId) (frame : Bytes) : List Happening :=
  if frame.length < Request.shortestFrame ∨ Request.longestFrame < frame.length then []
  else
    match Request.ofFrame world.gateway.subnet frame with
    | none => []
    | some request => (world.spread sender frame).requestHappenings sender request

/-! ## Rounds -/

def streamHappenings (world : World) (flow : Flow) (ready : Readiness) : List Happening :=
  match world.gateway.streams.get? flow with
  | none => []
  | some stream =>
    [.turned (.ready world.gateway.retransmitRounds ready) (world.gateway.clock + 1) stream
      world.kernel]

def serveHappenings : List (Flow × Readiness) → World → List Happening
  | [], _ => []
  | (flow, ready) :: rest, world =>
    world.streamHappenings flow ready ++ serveHappenings rest (world.serveStream flow ready)

def pollHappenings (world : World) : List Happening :=
  match world.kernel.readiness (interests world.gateway) with
  | (.error _, _) => []
  | (.ok ready, kernel) =>
    let mappings := world.gateway.mappings.flows
    let afterMappings := (mappings.zip ready).foldl
      (fun world (flow, ready) => world.serveMapping flow ready) { world with kernel }
    serveHappenings (world.gateway.streams.flows.zip (ready.drop mappings.length)) afterMappings

def pollTimesHappenings : Nat → World → List Happening
  | 0, _ => []
  | rounds + 1, world => world.pollHappenings ++ pollTimesHappenings rounds world.poll

def receiveUpToHappenings (nic : NicId) : Nat → World → List Happening
  | 0, _ => []
  | most + 1, world =>
    world.pollHappenings ++
      match world.pollAndReceive nic with
      | (none, _) => []
      | (some _, after) => receiveUpToHappenings nic most after

def roundsOf : Nat → World → List World
  | 0, _ => []
  | rounds + 1, world => world :: roundsOf rounds world.poll

def receivingRounds (nic : NicId) : Nat → World → List World
  | 0, _ => []
  | most + 1, world =>
    world ::
      match world.pollAndReceive nic with
      | (none, _) => []
      | (some _, after) => receivingRounds nic most after

end World

namespace Session

def Operation.happenings (world : World) : Operation → List Happening
  | .transmit nic frame => world.transmitHappenings nic frame
  | .poll rounds => World.pollTimesHappenings rounds world
  | .receive _ => world.pollHappenings
  | .receiveUpTo nic most => World.receiveUpToHappenings nic most world
  | .available _ => world.pollHappenings
  | _ => []

def after (world : World) (operations : List Operation) : World :=
  operations.foldl (fun world operation => (operation.run world).2) world

def history (world : World) : List Operation → List Happening
  | [] => []
  | operation :: rest => operation.happenings world ++ history (operation.run world).2 rest

end Session

/-- A world in which a network has just been set up, with any settings and any
script. -/
def World.IsNew (world : World) : Prop :=
  ∃ settings book nameServiceFile outcomes randoms,
    World.setUp settings book nameServiceFile (Kernel.fresh.extendScript outcomes randoms) =
      (.ok world.gateway, world.kernel)

end Masquerade
