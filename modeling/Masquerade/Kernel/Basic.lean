import Masquerade.Backlog
import Masquerade.Kernel.Call

/-!
# The kernel

The host as the gateway meets it: numbered sockets, what has arrived on them, and
a script.  The script settles for every kind of call how the next calls of that
kind end; a call that it does not mention ends in the ordinary way.  So one
kernel state stands for one behaviour of the host, whatever that behaviour is.
-/

set_option autoImplicit false

namespace Masquerade

/-! ## The script -/

inductive CallKind
  | socket
  /-- Sets the mode of a new socket; and looks once at a socket before it is closed. -/
  | fcntl
  | connect
  | bind
  | getsockname
  | getsockopt
  | send
  | sendto
  | shutdown
  | poll
  deriving DecidableEq, Repr

inductive Outcome
  | ordinary
  /-- At once and well; a call that sends takes at most so many bytes. -/
  | count (number : Nat)
  | failure (errno : Errno)
  deriving DecidableEq, Repr

/-! ## Sockets -/

inductive Arrival
  | data (bytes : Bytes) (sender : Endpoint)
  | endOfStream
  | failure (errno : Errno)
  deriving DecidableEq, Repr

structure HostSocket where
  kind : SocketKind
  isOpen : Bool := true
  writable : Bool
  /-- Readable even though nothing has arrived. -/
  readable : Bool := false
  hasError : Bool := false
  hungUp : Bool := false
  invalid : Bool := false
  /-- An error that the next look at it clears. -/
  pendingError : Option Errno := none
  incoming : List Arrival := []
  port : UInt16 := 0
  deriving DecidableEq, Repr

/-- A new socket; a stream is not writable before it is connected. -/
def HostSocket.fresh (kind : SocketKind) : HostSocket :=
  { kind, writable := kind == .datagram }

/-! ## The state -/

structure Kernel where
  /-- The socket with number `n` is in place `n`. -/
  sockets : List HostSocket
  script : Backlog CallKind Outcome
  randoms : List UInt32
  /-- The calls so far, the latest first. -/
  log : List Call

namespace Kernel

def fresh : Kernel := ⟨[], .empty, [], []⟩

def answer (kernel : Kernel) (kind : CallKind) : Outcome × Kernel :=
  match kernel.script.pop? kind with
  | none => (.ordinary, kernel)
  | some (outcome, script) => (outcome, { kernel with script })

def record (kernel : Kernel) (call : Call) : Kernel :=
  { kernel with log := call :: kernel.log }

def socket? (kernel : Kernel) (socket : SocketId) : Option HostSocket :=
  kernel.sockets[socket]?

def changeSocket (kernel : Kernel) (socket : SocketId) (change : HostSocket → HostSocket) :
    Kernel :=
  { kernel with sockets := kernel.sockets.modify socket change }

def callsSince (kernel earlier : Kernel) : List Call :=
  (kernel.log.take (kernel.log.length - earlier.log.length)).reverse

/-- The next random number; a used-up source goes on with one fixed number. -/
def drawRandom (kernel : Kernel) : UInt32 × Kernel :=
  match kernel.randoms with
  | [] => (305419896, kernel)
  | number :: rest => (number, { kernel with randoms := rest })

/-! ## What the host does by itself -/

def extendScript (kernel : Kernel) (outcomes : List (CallKind × Outcome))
    (randoms : List UInt32) : Kernel :=
  { kernel with
    script := ⟨kernel.script.entries ++ outcomes⟩
    randoms := kernel.randoms ++ randoms }

/-- A change of a socket from outside; what is absent stays as it is. -/
structure SocketChange where
  writable : Option Bool := none
  readable : Option Bool := none
  hasError : Option Bool := none
  hungUp : Option Bool := none
  invalid : Option Bool := none
  pendingError : Option (Option Errno) := none
  /-- What arrives after all that waits. -/
  arrivals : List Arrival := []

def SocketChange.apply (change : SocketChange) (socket : HostSocket) : HostSocket :=
  { socket with
    writable := change.writable.getD socket.writable
    readable := change.readable.getD socket.readable
    hasError := change.hasError.getD socket.hasError
    hungUp := change.hungUp.getD socket.hungUp
    invalid := change.invalid.getD socket.invalid
    pendingError := change.pendingError.getD socket.pendingError
    incoming := socket.incoming ++ change.arrivals }

def applyChange (kernel : Kernel) (socket : SocketId) (change : SocketChange) : Bool × Kernel :=
  match kernel.socket? socket with
  | none => (false, kernel)
  | some found =>
    if found.isOpen then (true, kernel.changeSocket socket change.apply) else (false, kernel)

end Kernel

end Masquerade
