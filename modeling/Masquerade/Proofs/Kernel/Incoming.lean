import Masquerade.Proofs.Kernel.LeftAlone

/-!
# What waits on a socket

Datagrams wait on a socket in the order in which they have come.  The host adds to them, and
receiving takes the first of them away, whatever is kept of it.
-/

set_option autoImplicit false

namespace Masquerade

namespace Arrival

def isFailure : Arrival → Bool
  | .failure _ => true
  | .data .. | .endOfStream => false

def kept (most : Nat) : Arrival → Bytes
  | .data bytes _ => bytes.take most
  | .endOfStream | .failure _ => []

end Arrival

namespace Kernel

def incoming (kernel : Kernel) (socket : SocketId) : List Arrival :=
  ((kernel.socket? socket).map HostSocket.incoming).getD []

def Queues (kernel : Kernel) (socket : SocketId) (waiting : List Arrival) : Prop :=
  ∃ found, kernel.socket? socket = some found ∧ found.kind = .datagram ∧ found.incoming = waiting

namespace Queues

variable {kernel after : Kernel} {socket : SocketId} {waiting : List Arrival}

theorem incoming_eq (queues : kernel.Queues socket waiting) : kernel.incoming socket = waiting := by
  obtain ⟨found, here, _, waits⟩ := queues
  rw [incoming, here]
  exact waits

theorem of_same (queues : kernel.Queues socket waiting)
    (same : after.socket? socket = kernel.socket? socket) : after.Queues socket waiting := by
  obtain ⟨found, here, rest⟩ := queues
  exact ⟨found, same.trans here, rest⟩

theorem of_changed (queues : kernel.Queues socket waiting) {change : HostSocket → HostSocket}
    {later : List Arrival} (kind : ∀ found, (change found).kind = found.kind)
    (waits : ∀ found, found.incoming = waiting → (change found).incoming = later) :
    (kernel.changeSocket socket change).Queues socket later := by
  obtain ⟨found, here, datagrams, its⟩ := queues
  refine ⟨change found, ?_, (kind found).trans datagrams, waits found its⟩
  have place : kernel.sockets[socket]? = some found := here
  rw [socket?, changeSocket, List.getElem?_modify_eq, place]
  rfl

theorem receiveFrom (queues : kernel.Queues socket waiting) (most : Nat) :
    (kernel.receiveFrom socket most).1 = (receiveFirst .datagram most waiting).1 ∧
      (kernel.receiveFrom socket most).2.Queues socket
        (receiveFirst .datagram most waiting).2 := by
  have ⟨found, here, datagrams, waits⟩ := queues
  have run : kernel.receiveWaiting socket most = ((receiveFirst .datagram most waiting).1,
      kernel.changeSocket socket
        ({ · with incoming := (receiveFirst .datagram most waiting).2 })) := by
    simp only [receiveWaiting, here, datagrams, waits]
  rw [Kernel.receiveFrom, run]
  exact ⟨rfl, queues.of_changed (fun _ => rfl) fun _ _ => rfl⟩

theorem applyChange (queues : kernel.Queues socket waiting) (isOpen : kernel.IsOpen socket)
    (change : SocketChange) :
    (kernel.applyChange socket change).2.Queues socket (waiting ++ change.arrivals) := by
  obtain ⟨found, here, opened⟩ := isOpen
  have run : (kernel.applyChange socket change).2 = kernel.changeSocket socket change.apply := by
    simp only [Kernel.applyChange, here, opened, if_true]
  rw [run]
  refine queues.of_changed (fun _ => rfl) fun other waits => ?_
  rw [SocketChange.apply, waits]

end Queues

/-! ## Sockets that are new or left alone -/

theorem openSocket_queues {kernel after : Kernel} {socket : SocketId}
    (run : kernel.openSocket .datagram = (.ok socket, after)) : after.Queues socket [] := by
  cases openSocket_outcome run with
  | @given _ _ asked _ _ _ set =>
      have fresh : (asked.withNewSocket .datagram).Queues asked.sockets.length [] :=
        ⟨.fresh .datagram, List.getElem?_concat_length, rfl, rfl⟩
      exact fresh.of_same (leavesAlone_of_answer set _).same

theorem openBound_queues {kernel after : Kernel} {port : UInt16} {socket : SocketId}
    (run : kernel.openBound port = (.ok socket, after)) : after.Queues socket [] := by
  cases openBound_outcome run with
  | bound opened answered =>
      have fresh := (openSocket_queues opened).of_same (leavesAlone_of_answer answered _).same
      exact fresh.of_changed (fun _ => rfl) fun _ waits => waits

theorem leavesAlone_localPort (socket other : SocketId) (kernel : Kernel) :
    LeavesAlone other kernel (kernel.localPort socket).2 := by
  unfold localPort
  split <;> rename_i answered <;> exact leavesAlone_of_answer answered other

theorem leavesAlone_applyChange {socket other : SocketId} (kernel : Kernel)
    (away : socket ≠ other) (change : SocketChange) :
    LeavesAlone other kernel (kernel.applyChange socket change).2 := by
  unfold applyChange
  split
  · exact .refl other kernel
  · split
    · exact leavesAlone_changeSocket kernel away _
    · exact .refl other kernel

end Kernel

end Masquerade
