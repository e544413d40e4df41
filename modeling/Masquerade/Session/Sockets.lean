import Masquerade.Kernel.Sockets

/-!
# Sessions on sockets

A row of operations on the sockets of one kernel, without a gateway.  Sockets go
by handles that whoever opens them chooses; a handle that is given again lets go
of its old socket, which is then closed.
-/

set_option autoImplicit false

namespace Masquerade.SocketSession

abbrev Handle := Nat

structure State where
  kernel : Kernel
  handles : List (Handle × SocketId)

inductive Operation
  | openStream (handle : Handle) (target : Endpoint)
  | openDatagram (handle : Handle)
  | openBound (handle : Handle) (port : UInt16)
  | takeError (handle : Handle)
  | send (handle : Handle) (bytes : Bytes)
  | sendTo (handle : Handle) (target : Endpoint) (bytes : Bytes)
  | receive (handle : Handle) (most : Nat)
  | receiveFrom (handle : Handle) (most : Nat)
  | shutdownWrite (handle : Handle)
  | localPort (handle : Handle)
  | isWritable (handle : Handle)
  /-- The handles to look at, each with whether it is to be read and written. -/
  | readiness (interests : List (Handle × Bool × Bool))
  | drop (handle : Handle)
  | script (outcomes : List (CallKind × Outcome)) (randoms : List UInt32)
  | change (socket : SocketId) (change : Kernel.SocketChange)

inductive Reply
  /-- The host did something, or there is no such handle. -/
  | nothing
  | flag (value : Bool)
  | failed (errno : Errno)
  | done
  | error (found : Option Errno)
  | count (number : Nat)
  | countFrom (number : Nat) (sender : Endpoint)
  | port (number : UInt16)
  | readiness (found : List Kernel.Readiness)
  deriving DecidableEq, Repr

namespace State

def fresh (kernel : Kernel) : State := ⟨kernel, []⟩

def socketOf (state : State) (handle : Handle) : Option SocketId := state.handles.lookup handle

def opened (state : State) (handle : Handle) (result : Except Errno SocketId × Kernel) :
    Reply × State :=
  match result with
  | (.error errno, kernel) => (.failed errno, { state with kernel })
  | (.ok socket, kernel) =>
    let others := state.handles.filter (fun entry => entry.1 ≠ handle)
    let kernel :=
      match state.socketOf handle with
      | none => kernel
      | some old => kernel.close old
    (.done, ⟨kernel, (handle, socket) :: others⟩)

def withSocket {α : Type} (state : State) (handle : Handle)
    (act : SocketId → Except Errno α × Kernel) (reply : α → Reply) : Reply × State :=
  match state.socketOf handle with
  | none => (.nothing, state)
  | some socket =>
    match act socket with
    | (.error errno, kernel) => (.failed errno, { state with kernel })
    | (.ok value, kernel) => (reply value, { state with kernel })

/-- What each handle is ready for; handles without a socket are left out. -/
def readiness (state : State) (interests : List (Handle × Bool × Bool)) : Reply × State :=
  let found : List Kernel.Interest := interests.filterMap fun (handle, read, write) =>
    (state.socketOf handle).map fun socket => ⟨socket, read, write⟩
  match state.kernel.readiness found with
  | (.error errno, kernel) => (.failed errno, { state with kernel })
  | (.ok ready, kernel) => (.readiness ready, { state with kernel })

def drop (state : State) (handle : Handle) : Reply × State :=
  match state.socketOf handle with
  | none => (.flag false, state)
  | some socket =>
    (.flag true,
      ⟨state.kernel.close socket, state.handles.filter (fun entry => entry.1 ≠ handle)⟩)

end State

def Operation.run (state : State) : Operation → Reply × State
  | .openStream handle target => state.opened handle (state.kernel.openStream target)
  | .openDatagram handle => state.opened handle state.kernel.openDatagram
  | .openBound handle port => state.opened handle (state.kernel.openBound port)
  | .takeError handle => state.withSocket handle state.kernel.takeError .error
  | .send handle bytes => state.withSocket handle (state.kernel.send · bytes) .count
  | .sendTo handle target bytes => state.withSocket handle (state.kernel.sendTo · target bytes) .count
  | .receive handle most =>
    state.withSocket handle (state.kernel.receive · most) fun bytes => .count bytes.length
  | .receiveFrom handle most =>
    state.withSocket handle (state.kernel.receiveFrom · most) fun found =>
      .countFrom found.1.length found.2
  | .shutdownWrite handle => state.withSocket handle state.kernel.shutdownWrite fun _ => .done
  | .localPort handle => state.withSocket handle state.kernel.localPort .port
  | .isWritable handle =>
    match state.socketOf handle with
    | none => (.nothing, state)
    | some socket =>
      let (writable, kernel) := state.kernel.isWritable socket
      (.flag writable, { state with kernel })
  | .readiness interests => state.readiness interests
  | .drop handle => state.drop handle
  | .script outcomes randoms =>
    (.nothing, { state with kernel := state.kernel.extendScript outcomes randoms })
  | .change socket edit =>
    let (found, kernel) := state.kernel.applyChange socket edit
    (.flag found, { state with kernel })

def run (state : State) : List Operation → List (Reply × List Call)
  | [] => []
  | operation :: rest =>
    let (reply, after) := operation.run state
    (reply, after.kernel.callsSince state.kernel) :: run after rest

end Masquerade.SocketSession
