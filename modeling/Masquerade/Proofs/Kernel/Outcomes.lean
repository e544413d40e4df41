import Masquerade.Kernel.Sockets

/-!
# What opening a socket can come to

Opening a socket of any kind asks for it, settles its mode and puts it to use, and each of
these may fail.  All outcomes are listed here once, with the answers that lead to them.
-/

set_option autoImplicit false

namespace Masquerade.Kernel

/-! ## Sockets of either kind -/

def withNewSocket (kernel : Kernel) (kind : SocketKind) : Kernel :=
  { kernel with sockets := kernel.sockets ++ [HostSocket.fresh kind] }.record
    (.socket kind (.ok kernel.sockets.length))

inductive SocketOutcome (kernel : Kernel) (kind : SocketKind) :
    Except Errno SocketId × Kernel → Prop
  | refused {errno : Errno} {asked : Kernel}
      (answered : kernel.answer .socket = (.failure errno, asked)) :
      SocketOutcome kernel kind (.error errno, asked.record (.socket kind (.error errno)))
  /-- The mode could not be set, and the socket was closed again. -/
  | givenUp {outcome : Outcome} {errno : Errno} {asked settled : Kernel}
      (answered : kernel.answer .socket = (outcome, asked))
      (granted : ∀ errno, outcome ≠ .failure errno)
      (unset : (asked.withNewSocket kind).answer .fcntl = (.failure errno, settled)) :
      SocketOutcome kernel kind (.error errno, settled.close asked.sockets.length)
  | given {outcome mode : Outcome} {asked settled : Kernel}
      (answered : kernel.answer .socket = (outcome, asked))
      (granted : ∀ errno, outcome ≠ .failure errno)
      (set : (asked.withNewSocket kind).answer .fcntl = (mode, settled))
      (agreed : ∀ errno, mode ≠ .failure errno) :
      SocketOutcome kernel kind (.ok asked.sockets.length, settled)

theorem openSocket_outcome {kernel : Kernel} {kind : SocketKind}
    {result : Except Errno SocketId × Kernel} (run : kernel.openSocket kind = result) :
    SocketOutcome kernel kind result := by
  subst run
  unfold openSocket
  split
  · rename_i answered
    exact .refused answered
  · rename_i granted answered
    dsimp only
    split
    · rename_i unset
      exact .givenUp answered granted unset
    · rename_i agreed set
      exact .given answered granted set agreed

/-! ## Streams -/

inductive StreamOutcome (kernel : Kernel) (target : Endpoint) :
    Except Errno SocketId × Kernel → Prop
  | unopened {errno : Errno} {after : Kernel}
      (failed : kernel.openSocket .stream = (.error errno, after)) :
      StreamOutcome kernel target (.error errno, after)
  /-- The socket is connected or being connected. -/
  | begun {socket : SocketId} {between after : Kernel} {result : Except Errno Unit}
      (opened : kernel.openSocket .stream = (.ok socket, between))
      (connected : between.connect socket target = (result, after))
      (begins : result = .ok () ∨ result = .error .inProgress) :
      StreamOutcome kernel target (.ok socket, after)
  | stopped {socket : SocketId} {between after : Kernel} {errno : Errno}
      (opened : kernel.openSocket .stream = (.ok socket, between))
      (connected : between.connect socket target = (.error errno, after))
      (stops : errno ≠ .inProgress) :
      StreamOutcome kernel target (.error errno, after.close socket)

theorem openStream_outcome {kernel : Kernel} {target : Endpoint}
    {result : Except Errno SocketId × Kernel} (run : kernel.openStream target = result) :
    StreamOutcome kernel target result := by
  subst run
  unfold openStream
  split
  · rename_i failed
    exact .unopened failed
  · rename_i opened
    split
    · rename_i connected
      exact .begun opened connected (Or.inl rfl)
    · rename_i connected
      split
      · rename_i underWay
        exact .begun opened connected (Or.inr (congrArg _ underWay))
      · rename_i stops
        exact .stopped opened connected stops

/-! ## Sockets that receive at a port -/

inductive BoundOutcome (kernel : Kernel) (port : UInt16) : Except Errno SocketId × Kernel → Prop
  | unopened {errno : Errno} {after : Kernel}
      (failed : kernel.openSocket .datagram = (.error errno, after)) :
      BoundOutcome kernel port (.error errno, after)
  /-- The port is not given, and the socket was closed again. -/
  | refused {socket : SocketId} {between after : Kernel} {errno : Errno}
      (opened : kernel.openSocket .datagram = (.ok socket, between))
      (answered : between.answer .bind = (.failure errno, after)) :
      BoundOutcome kernel port
        (.error errno, (after.record (.bind socket port (.error errno))).close socket)
  | bound {socket : SocketId} {between after : Kernel} {outcome : Outcome}
      (opened : kernel.openSocket .datagram = (.ok socket, between))
      (answered : between.answer .bind = (outcome, after)) :
      BoundOutcome kernel port
        (.ok socket, (after.changeSocket socket
          ({ · with port := assignedPort socket port })).record (.bind socket port (.ok ())))

theorem openBound_outcome {kernel : Kernel} {port : UInt16}
    {result : Except Errno SocketId × Kernel} (run : kernel.openBound port = result) :
    BoundOutcome kernel port result := by
  subst run
  unfold openBound
  split
  · rename_i failed
    exact .unopened failed
  · rename_i opened
    split
    · rename_i answered
      exact .refused opened answered
    · rename_i answered
      exact .bound opened answered

end Masquerade.Kernel
