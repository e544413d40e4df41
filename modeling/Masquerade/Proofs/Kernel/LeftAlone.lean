import Masquerade.Proofs.Kernel.Held

/-!
# Sockets that are left alone

Each operation is about one socket, and leaves every other one as it is.  This is more
than that no call is made about it: a look at the error that waits on a socket clears the
error and is no call.
-/

set_option autoImplicit false

namespace Masquerade.Kernel

/-- Nothing is done with a socket: it is as it was, and no call has been made about it. -/
structure LeavesAlone (socket : SocketId) (before after : Kernel) : Prop where
  same : after.socket? socket = before.socket? socket
  uncalled : after.callsOn socket = before.callsOn socket

namespace LeavesAlone

variable {socket : SocketId} {before between after : Kernel}

theorem refl (socket : SocketId) (kernel : Kernel) : LeavesAlone socket kernel kernel := ⟨rfl, rfl⟩

theorem trans (first : LeavesAlone socket before between)
    (second : LeavesAlone socket between after) : LeavesAlone socket before after :=
  ⟨second.same.trans first.same, second.uncalled.trans first.uncalled⟩

end LeavesAlone

/-! ## The parts of operations -/

theorem leavesAlone_answer (socket : SocketId) (kernel : Kernel) (kind : CallKind) :
    LeavesAlone socket kernel (kernel.answer kind).2 := by
  unfold answer
  split <;> exact ⟨rfl, rfl⟩

theorem leavesAlone_of_answer {kernel after : Kernel} {kind : CallKind} {outcome : Outcome}
    (run : kernel.answer kind = (outcome, after)) (socket : SocketId) :
    LeavesAlone socket kernel after := by
  have alone := kernel.leavesAlone_answer socket kind
  rwa [run] at alone

theorem leavesAlone_record {socket : SocketId} (kernel : Kernel) {call : Call}
    (away : call.socket? ≠ some socket) : LeavesAlone socket kernel (kernel.record call) := by
  refine ⟨rfl, ?_⟩
  rw [callsOn, record, List.reverse_cons, List.filter_append,
    filter_about_eq_nil (List.forall_mem_singleton.mpr away), List.append_nil]
  rfl

section Others

variable {socket other : SocketId} (kernel : Kernel) (away : socket ≠ other)
include away

theorem about_other_ne : some socket ≠ some other := fun same => away (Option.some.inj same)

theorem leavesAlone_changeSocket (change : HostSocket → HostSocket) :
    LeavesAlone other kernel (kernel.changeSocket socket change) :=
  ⟨List.getElem?_modify_ne _ _ away, rfl⟩

theorem leavesAlone_close : LeavesAlone other kernel (kernel.close socket) :=
  ((kernel.leavesAlone_answer other .fcntl).trans (leavesAlone_changeSocket _ away _)).trans
    (leavesAlone_record _ (about_other_ne away))

theorem leavesAlone_connect (target : Endpoint) :
    LeavesAlone other kernel (kernel.connect socket target).2 :=
  (kernel.leavesAlone_answer other .connect).trans (leavesAlone_record _ (about_other_ne away))

theorem leavesAlone_takeError : LeavesAlone other kernel (kernel.takeError socket).2 := by
  unfold takeError
  split
  · rename_i answered
    exact leavesAlone_of_answer answered other
  · rename_i answered
    exact (leavesAlone_of_answer answered other).trans (leavesAlone_changeSocket _ away _)

theorem leavesAlone_send (bytes : Bytes) : LeavesAlone other kernel (kernel.send socket bytes).2 :=
  (kernel.leavesAlone_answer other .send).trans (leavesAlone_record _ (about_other_ne away))

theorem leavesAlone_sendTo (target : Endpoint) (bytes : Bytes) :
    LeavesAlone other kernel (kernel.sendTo socket target bytes).2 :=
  (kernel.leavesAlone_answer other .sendto).trans (leavesAlone_record _ (about_other_ne away))

theorem leavesAlone_shutdownWrite : LeavesAlone other kernel (kernel.shutdownWrite socket).2 :=
  (kernel.leavesAlone_answer other .shutdown).trans (leavesAlone_record _ (about_other_ne away))

theorem leavesAlone_receiveWaiting (most : Nat) :
    LeavesAlone other kernel (kernel.receiveWaiting socket most).2 := by
  unfold receiveWaiting
  split
  · exact .refl other kernel
  · exact leavesAlone_changeSocket kernel away _

theorem leavesAlone_receive (most : Nat) :
    LeavesAlone other kernel (kernel.receive socket most).2 :=
  (leavesAlone_receiveWaiting kernel away most).trans
    (leavesAlone_record _ (about_other_ne away))

theorem leavesAlone_receiveFrom (most : Nat) :
    LeavesAlone other kernel (kernel.receiveFrom socket most).2 :=
  (leavesAlone_receiveWaiting kernel away most).trans
    (leavesAlone_record _ (about_other_ne away))

end Others

/-! ## Looking at many sockets -/

theorem leavesAlone_pollOnce (socket : SocketId) (kernel : Kernel) (interests : List Interest) :
    LeavesAlone socket kernel (kernel.pollOnce interests).2 := by
  unfold pollOnce
  split <;> rename_i answered <;> exact leavesAlone_of_answer answered socket

theorem leavesAlone_readiness (socket : SocketId) (kernel : Kernel) (interests : List Interest) :
    LeavesAlone socket kernel (kernel.readiness interests).2 := by
  unfold readiness
  split
  · exact .refl socket kernel
  · have skipped (script : Backlog CallKind Outcome) :
        LeavesAlone socket kernel { kernel with script } := ⟨rfl, rfl⟩
    exact (skipped _).trans (leavesAlone_pollOnce socket _ interests)

theorem leavesAlone_isWritable (socket other : SocketId) (kernel : Kernel) :
    LeavesAlone socket kernel (kernel.isWritable other).2 := by
  have alone := kernel.leavesAlone_pollOnce socket [⟨other, false, true⟩]
  unfold isWritable
  split <;> rename_i looked <;> rwa [looked] at alone

/-! ## Opening -/

section Opening

variable {socket : SocketId} {kernel : Kernel} (known : socket < kernel.sockets.length)
include known

theorem leavesAlone_openSocket (kind : SocketKind) :
    LeavesAlone socket kernel (kernel.openSocket kind).2 := by
  -- What was there before the new socket is neither it nor changed by it.
  have added : ∀ {outcome asked}, kernel.answer .socket = (outcome, asked) →
      asked.sockets.length ≠ socket ∧ LeavesAlone socket kernel (asked.withNewSocket kind) := by
    intro outcome asked answered
    have count := length_sockets_of_answer answered
    have away : asked.sockets.length ≠ socket := by
      rw [count]
      exact (Nat.ne_of_lt known).symm
    have longer : LeavesAlone socket asked
        { asked with sockets := asked.sockets ++ [HostSocket.fresh kind] } :=
      ⟨List.getElem?_append_left (count ▸ known), rfl⟩
    exact ⟨away, ((leavesAlone_of_answer answered socket).trans longer).trans
      (leavesAlone_record _ (about_other_ne away))⟩
  generalize run : kernel.openSocket kind = result
  cases openSocket_outcome run with
  | refused answered =>
      exact (leavesAlone_of_answer answered socket).trans
        (leavesAlone_record _ (by simp [Call.socket?]))
  | givenUp answered _ unset =>
      obtain ⟨away, given⟩ := added answered
      exact (given.trans (leavesAlone_of_answer unset socket)).trans (leavesAlone_close _ away)
  | given answered _ set =>
      exact (added answered).2.trans (leavesAlone_of_answer set socket)

theorem leavesAlone_openStream (target : Endpoint) :
    LeavesAlone socket kernel (kernel.openStream target).2 := by
  have opening := leavesAlone_openSocket known .stream
  have tried : ∀ {number between result after}, kernel.openSocket .stream = (.ok number, between) →
      between.connect number target = (result, after) →
      number ≠ socket ∧ LeavesAlone socket kernel after := by
    intro number between result after opened connected
    have away : number ≠ socket := by
      rw [(openSocket_ok opened).1]
      exact (Nat.ne_of_lt known).symm
    have connecting := leavesAlone_connect between away target
    rw [opened] at opening
    rw [connected] at connecting
    exact ⟨away, opening.trans connecting⟩
  generalize run : kernel.openStream target = result
  cases openStream_outcome run with
  | unopened failed => rwa [failed] at opening
  | begun opened connected => exact (tried opened connected).2
  | stopped opened connected =>
      obtain ⟨away, connecting⟩ := tried opened connected
      exact connecting.trans (leavesAlone_close _ away)

end Opening

end Masquerade.Kernel
