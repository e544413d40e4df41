import Masquerade.Kernel.Basic

/-!
# Sockets of the gateway

Sockets that never block, and what the gateway does with them.  Opening either
gives a socket or leaves none open.  Whether anything can be read or written is
found out for all sockets together, in one pass.
-/

set_option autoImplicit false

namespace Masquerade.Kernel

/-! ## Opening and closing -/

/-- Closes a socket.  Just before, one more call makes sure that the socket is
open; however that call ends, the socket is closed. -/
def close (kernel : Kernel) (socket : SocketId) : Kernel :=
  let (_, kernel) := kernel.answer .fcntl
  (kernel.changeSocket socket ({ · with isOpen := false })).record (.close socket)

def openSocket (kernel : Kernel) (kind : SocketKind) : Except Errno SocketId × Kernel :=
  match kernel.answer .socket with
  | (.failure errno, kernel) => (.error errno, kernel.record (.socket kind (.error errno)))
  | (_, kernel) =>
    let socket := kernel.sockets.length
    let kernel := { kernel with sockets := kernel.sockets ++ [HostSocket.fresh kind] }
    match (kernel.record (.socket kind (.ok socket))).answer .fcntl with
    | (.failure errno, kernel) => (.error errno, kernel.close socket)
    | (_, kernel) => (.ok socket, kernel)

/-- Starts to connect.  Ordinarily that is still going on when the call ends. -/
def connect (kernel : Kernel) (socket : SocketId) (target : Endpoint) :
    Except Errno Unit × Kernel :=
  let (outcome, kernel) := kernel.answer .connect
  let result : Except Errno Unit :=
    match outcome with
    | .ordinary => .error .inProgress
    | .count _ => .ok ()
    | .failure errno => .error errno
  (result, kernel.record (.connect socket target result))

def openStream (kernel : Kernel) (target : Endpoint) : Except Errno SocketId × Kernel :=
  match kernel.openSocket .stream with
  | (.error errno, kernel) => (.error errno, kernel)
  | (.ok socket, kernel) =>
    match kernel.connect socket target with
    | (.ok (), kernel) => (.ok socket, kernel)
    | (.error errno, kernel) =>
      if errno = .inProgress then (.ok socket, kernel) else (.error errno, kernel.close socket)

def openDatagram (kernel : Kernel) : Except Errno SocketId × Kernel :=
  kernel.openSocket .datagram

/-- The port that a socket gets that asks for `port`, zero meaning any. -/
def assignedPort (socket : SocketId) (port : UInt16) : UInt16 :=
  if port = 0 then UInt16.ofNat (49152 + socket) else port

def openBound (kernel : Kernel) (port : UInt16) : Except Errno SocketId × Kernel :=
  match kernel.openSocket .datagram with
  | (.error errno, kernel) => (.error errno, kernel)
  | (.ok socket, kernel) =>
    match kernel.answer .bind with
    | (.failure errno, kernel) =>
      (.error errno, (kernel.record (.bind socket port (.error errno))).close socket)
    | (_, kernel) =>
      (.ok socket,
        (kernel.changeSocket socket ({ · with port := assignedPort socket port })).record
          (.bind socket port (.ok ())))

/-! ## Looking at a socket -/

/-- The error that waits on a socket, which is cleared by looking at it. -/
def takeError (kernel : Kernel) (socket : SocketId) : Except Errno (Option Errno) × Kernel :=
  match kernel.answer .getsockopt with
  | (.failure errno, kernel) => (.error errno, kernel)
  | (_, kernel) =>
    (.ok ((kernel.socket? socket).bind HostSocket.pendingError),
      kernel.changeSocket socket ({ · with pendingError := none }))

def localPort (kernel : Kernel) (socket : SocketId) : Except Errno UInt16 × Kernel :=
  match kernel.answer .getsockname with
  | (.failure errno, kernel) => (.error errno, kernel)
  | (_, kernel) => (.ok (((kernel.socket? socket).map HostSocket.port).getD 0), kernel)

/-! ## Sending -/

/-- How a call that sends ends, and how many of `length` bytes are taken. -/
def takenBy (outcome : Outcome) (length : Nat) : Except Errno Nat :=
  match outcome with
  | .ordinary => .ok length
  | .count number => .ok (min number length)
  | .failure errno => .error errno

def send (kernel : Kernel) (socket : SocketId) (bytes : Bytes) : Except Errno Nat × Kernel :=
  let (outcome, kernel) := kernel.answer .send
  let result := takenBy outcome bytes.length
  (result, kernel.record (.send socket bytes result))

def sendTo (kernel : Kernel) (socket : SocketId) (target : Endpoint) (bytes : Bytes) :
    Except Errno Nat × Kernel :=
  let (outcome, kernel) := kernel.answer .sendto
  let result := takenBy outcome bytes.length
  (result, kernel.record (.sendTo socket target bytes result))

def shutdownWrite (kernel : Kernel) (socket : SocketId) : Except Errno Unit × Kernel :=
  let (outcome, kernel) := kernel.answer .shutdown
  let result : Except Errno Unit :=
    match outcome with
    | .failure errno => .error errno
    | _ => .ok ()
  (result, kernel.record (.shutdown socket result))

/-! ## Receiving -/

/-- What comes of receiving at most `most` bytes, and what waits afterwards.  The
end of a stream stays, and so do the bytes of a stream that did not fit; a
datagram is used up whatever its length.  The end has no sender. -/
def receiveFirst (kind : SocketKind) (most : Nat) :
    List Arrival → Except Errno (Bytes × Endpoint) × List Arrival
  | [] => (.error .again, [])
  | .failure errno :: rest => (.error errno, rest)
  | .endOfStream :: rest =>
    (.ok ([], ⟨.ofNat 0, 0⟩), if kind = .stream then .endOfStream :: rest else rest)
  | .data bytes sender :: rest =>
    (.ok (bytes.take most, sender),
      if kind = .stream ∧ most < bytes.length then .data (bytes.drop most) sender :: rest
      else rest)

def receiveWaiting (kernel : Kernel) (socket : SocketId) (most : Nat) :
    Except Errno (Bytes × Endpoint) × Kernel :=
  match kernel.socket? socket with
  | none => (.error .again, kernel)
  | some found =>
    let (result, incoming) := receiveFirst found.kind most found.incoming
    (result, kernel.changeSocket socket ({ · with incoming }))

/-- Receives at most `most` bytes of a stream; no bytes mean its end. -/
def receive (kernel : Kernel) (socket : SocketId) (most : Nat) : Except Errno Bytes × Kernel :=
  let (result, kernel) := kernel.receiveWaiting socket most
  let result := result.map Prod.fst
  (result, kernel.record (.receive socket most result))

def receiveFrom (kernel : Kernel) (socket : SocketId) (most : Nat) :
    Except Errno (Bytes × Endpoint) × Kernel :=
  let (result, kernel) := kernel.receiveWaiting socket most
  (result, kernel.record (.receiveFrom socket most result))

/-! ## Readiness -/

structure Interest where
  socket : SocketId
  read : Bool
  write : Bool
  deriving DecidableEq, Repr

structure Readiness where
  readable : Bool
  writable : Bool
  error : Bool
  deriving DecidableEq, Repr

/-- Errors are reported whatever the interest. -/
def readinessOf (kernel : Kernel) (interest : Interest) : Readiness :=
  match kernel.socket? interest.socket with
  | none => ⟨false, false, true⟩
  | some socket =>
    { readable := interest.read && (socket.readable || !socket.incoming.isEmpty)
      writable := interest.write && socket.writable
      error := socket.hasError || socket.pendingError.isSome || socket.hungUp || socket.invalid }

def pollOnce (kernel : Kernel) (interests : List Interest) :
    Except Errno (List Readiness) × Kernel :=
  match kernel.answer .poll with
  | (.failure errno, kernel) => (.error errno, kernel)
  | (_, kernel) => (.ok (interests.map kernel.readinessOf), kernel)

/-- What each socket is ready for, in the order of the interests.  A look that
was interrupted is repeated; without interests there is none. -/
def readiness (kernel : Kernel) (interests : List Interest) :
    Except Errno (List Readiness) × Kernel :=
  if interests.isEmpty then (.ok [], kernel)
  else
    let interrupted (outcome : Outcome) : Bool := outcome = .failure .interrupted
    { kernel with script := kernel.script.dropWhile .poll interrupted }.pollOnce interests

/-- Whether a socket takes bytes right now; an interrupted look counts as no. -/
def isWritable (kernel : Kernel) (socket : SocketId) : Bool × Kernel :=
  match kernel.pollOnce [⟨socket, false, true⟩] with
  | (.ok found, kernel) => (found.any Readiness.writable, kernel)
  | (.error _, kernel) => (false, kernel)

end Masquerade.Kernel
