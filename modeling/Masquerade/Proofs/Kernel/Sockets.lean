import Masquerade.Proofs.Kernel.Calls
import Masquerade.Proofs.Kernel.Outcomes

/-!
# The calls of each operation on sockets

Opening a socket makes one call that gives it the next number, or leaves nothing
behind but perhaps a socket that is closed again.  Sending, receiving and ending
a stream make exactly one call, whatever comes of it.
-/

set_option autoImplicit false

namespace Masquerade

/-- The calls of an opening that leaves no socket open, when `next` sockets have been
given. -/
inductive Call.Fruitless (next : SocketId) : List Call → Prop
  /-- No socket was given. -/
  | refused (kind : SocketKind) (errno : Errno) : Fruitless next [.socket kind (.error errno)]
  /-- The new socket was closed again. -/
  | givenUp {kind : SocketKind} {calls : List Call}
      (about : ∀ call ∈ calls, call.socket? = some next)
      (keep : ∀ call ∈ calls, call.keepsSockets = true) :
      Fruitless next (.socket kind (.ok next) :: (calls ++ [.close next]))

namespace Call.Fruitless

variable {next : SocketId} {calls : List Call}

theorem about (fruitless : Fruitless next calls) :
    ∀ call ∈ calls, call.socket? = none ∨ call.socket? = some next := by
  cases fruitless with
  | refused => simp [Call.socket?]
  | givenUp about keep =>
      intro call member
      simp only [List.mem_cons, List.mem_append, List.not_mem_nil, or_false] at member
      rcases member with rfl | inside | rfl
      · exact Or.inr rfl
      · exact Or.inr (about call inside)
      · exact Or.inr rfl

theorem flags (fruitless : Fruitless next calls) {flags : List Bool} (length : flags.length = next) :
    (calls.foldl (fun flags call => call.mark flags) flags = flags ∧
        ∀ call ∈ calls, call.socket? = none) ∨
      calls.foldl (fun flags call => call.mark flags) flags = flags ++ [false] := by
  cases fruitless with
  | refused => exact Or.inl ⟨rfl, by simp [Call.socket?]⟩
  | givenUp about keep =>
      right
      rw [List.foldl_cons, List.foldl_append, Call.foldl_mark_of_keepsSockets keep]
      simp [Call.mark, ← length]

end Call.Fruitless

namespace Kernel

/-! ## Opening and closing -/

theorem makes_close (kernel : Kernel) (socket : SocketId) :
    Makes [.close socket] kernel (kernel.close socket) := by
  have looked := kernel.makes_answer .fcntl
  have same : kernel.close socket = ((kernel.answer .fcntl).2.changeSocket socket
      ({ · with isOpen := false })).record (.close socket) := rfl
  rw [same]
  refine ⟨congrArg (List.cons (Call.close socket)) looked.log, ?_⟩
  apply List.ext_getElem?
  intro place
  rw [List.foldl_cons, List.foldl_nil, Call.mark, ← looked.flags_of_keepsSockets (by simp)]
  simp only [openFlags, record, changeSocket, List.getElem?_map, List.getElem?_modify,
    List.getElem?_set, List.length_map]
  by_cases here : socket = place
  · subst here
    by_cases inside : socket < (kernel.answer .fcntl).2.sockets.length
    · simp [inside]
    · simp [inside]
  · simp [here]

theorem makes_newSocket (kernel : Kernel) (kind : SocketKind) :
    Makes [.socket kind (.ok kernel.sockets.length)] kernel (kernel.withNewSocket kind) := by
  refine ⟨rfl, ?_⟩
  simp [withNewSocket, openFlags, record, Call.mark, HostSocket.fresh]

theorem length_sockets_of_answer {kernel after : Kernel} {kind : CallKind} {outcome : Outcome}
    (answered : kernel.answer kind = (outcome, after)) :
    after.sockets.length = kernel.sockets.length := by
  rw [← length_openFlags, ← length_openFlags,
    (makes_of_answer answered).flags_of_keepsSockets (by simp)]

theorem openSocket_ok {kernel after : Kernel} {kind : SocketKind} {socket : SocketId}
    (run : kernel.openSocket kind = (.ok socket, after)) :
    socket = kernel.sockets.length ∧ Makes [.socket kind (.ok socket)] kernel after := by
  cases openSocket_outcome run with
  | @given _ _ asked _ answered _ set =>
      have given := asked.makes_newSocket kind
      rw [length_sockets_of_answer answered] at given ⊢
      exact ⟨rfl, (makes_of_answer answered).after_nothing (given.trans (makes_of_answer set))⟩

theorem openSocket_error {kernel after : Kernel} {kind : SocketKind} {errno : Errno}
    (run : kernel.openSocket kind = (.error errno, after)) :
    ∃ calls, Makes calls kernel after ∧ Call.Fruitless kernel.sockets.length calls := by
  cases openSocket_outcome run with
  | refused answered =>
      exact ⟨_, (makes_of_answer answered).after_nothing (makes_record _ rfl), .refused kind errno⟩
  | @givenUp _ _ asked _ answered _ unset =>
      have given := asked.makes_newSocket kind
      rw [length_sockets_of_answer answered] at given ⊢
      exact ⟨_, (makes_of_answer answered).after_nothing (given.trans
        ((makes_of_answer unset).trans (makes_close _ _))), .givenUp (by simp) (by simp)⟩

theorem makes_connect {kernel after : Kernel} {socket : SocketId} {target : Endpoint}
    {result : Except Errno Unit} (run : kernel.connect socket target = (result, after)) :
    Makes [.connect socket target result] kernel after := by
  cases run
  exact (kernel.makes_answer .connect).after_nothing (makes_record _ rfl)

theorem openStream_ok {kernel after : Kernel} {target : Endpoint} {socket : SocketId}
    (run : kernel.openStream target = (.ok socket, after)) :
    socket = kernel.sockets.length ∧ ∃ result,
      Makes [.socket .stream (.ok socket), .connect socket target result] kernel after ∧
        (result = .ok () ∨ result = .error .inProgress) := by
  cases openStream_outcome run with
  | begun opened connected begins =>
      obtain ⟨number, given⟩ := openSocket_ok opened
      exact ⟨number, _, given.trans (makes_connect connected), begins⟩

theorem openStream_error {kernel after : Kernel} {target : Endpoint} {errno : Errno}
    (run : kernel.openStream target = (.error errno, after)) :
    ∃ calls, Makes calls kernel after ∧ Call.Fruitless kernel.sockets.length calls := by
  cases openStream_outcome run with
  | unopened failed => exact openSocket_error failed
  | stopped opened connected =>
      obtain ⟨rfl, given⟩ := openSocket_ok opened
      exact ⟨_, given.trans ((makes_connect connected).trans (makes_close _ _)),
        .givenUp (by simp [Call.socket?]) (by simp [Call.keepsSockets])⟩

theorem openBound_ok {kernel after : Kernel} {port : UInt16} {socket : SocketId}
    (run : kernel.openBound port = (.ok socket, after)) :
    socket = kernel.sockets.length ∧
      Makes [.socket .datagram (.ok socket), .bind socket port (.ok ())] kernel after := by
  cases openBound_outcome run with
  | @bound _ _ between _ opened answered =>
      obtain ⟨number, given⟩ := openSocket_ok opened
      have named := makes_changeSocket between socket
        ({ · with port := assignedPort socket port }) fun _ => rfl
      exact ⟨number, given.trans ((makes_of_answer answered).after_nothing
        (named.after_nothing (makes_record _ rfl)))⟩

theorem openBound_error {kernel after : Kernel} {port : UInt16} {errno : Errno}
    (run : kernel.openBound port = (.error errno, after)) :
    ∃ calls, Makes calls kernel after ∧ Call.Fruitless kernel.sockets.length calls := by
  cases openBound_outcome run with
  | unopened failed => exact openSocket_error failed
  | refused opened answered =>
      obtain ⟨rfl, given⟩ := openSocket_ok opened
      exact ⟨_, given.trans ((makes_of_answer answered).after_nothing
        ((makes_record _ rfl).trans (makes_close _ _))),
        .givenUp (by simp [Call.socket?]) (by simp [Call.keepsSockets])⟩

/-! ## Sending -/

theorem makes_send {kernel after : Kernel} {socket : SocketId} {bytes : Bytes}
    {result : Except Errno Nat} (run : kernel.send socket bytes = (result, after)) :
    Makes [.send socket bytes result] kernel after := by
  cases run
  exact (kernel.makes_answer .send).after_nothing (makes_record _ rfl)

theorem takenBy_le {outcome : Outcome} {length count : Nat}
    (taken : takenBy outcome length = .ok count) : count ≤ length := by
  cases outcome with
  | ordinary =>
      cases taken
      exact Nat.le_refl _
  | count number =>
      cases taken
      exact Nat.min_le_right ..
  | failure errno => cases taken

theorem send_le {kernel after : Kernel} {socket : SocketId} {bytes : Bytes} {count : Nat}
    (run : kernel.send socket bytes = (.ok count, after)) : count ≤ bytes.length :=
  takenBy_le (congrArg Prod.fst run)

theorem makes_sendTo {kernel after : Kernel} {socket : SocketId} {target : Endpoint}
    {bytes : Bytes} {result : Except Errno Nat}
    (run : kernel.sendTo socket target bytes = (result, after)) :
    Makes [.sendTo socket target bytes result] kernel after := by
  cases run
  exact (kernel.makes_answer .sendto).after_nothing (makes_record _ rfl)

theorem makes_shutdownWrite {kernel after : Kernel} {socket : SocketId}
    {result : Except Errno Unit} (run : kernel.shutdownWrite socket = (result, after)) :
    Makes [.shutdown socket result] kernel after := by
  cases run
  exact (kernel.makes_answer .shutdown).after_nothing (makes_record _ rfl)

/-! ## Receiving -/

theorem makes_receiveWaiting (kernel : Kernel) (socket : SocketId) (most : Nat) :
    Makes [] kernel (kernel.receiveWaiting socket most).2 := by
  unfold receiveWaiting
  split
  · exact Makes.refl kernel
  · exact makes_changeSocket _ socket _ fun _ => rfl

theorem makes_receive {kernel after : Kernel} {socket : SocketId} {most : Nat}
    {result : Except Errno Bytes} (run : kernel.receive socket most = (result, after)) :
    Makes [.receive socket most result] kernel after := by
  cases run
  exact (kernel.makes_receiveWaiting socket most).after_nothing (makes_record _ rfl)

theorem makes_receiveFrom {kernel after : Kernel} {socket : SocketId} {most : Nat}
    {result : Except Errno (Bytes × Endpoint)}
    (run : kernel.receiveFrom socket most = (result, after)) :
    Makes [.receiveFrom socket most result] kernel after := by
  cases run
  exact (kernel.makes_receiveWaiting socket most).after_nothing (makes_record _ rfl)

theorem receiveFirst_le {kind : SocketKind} {most : Nat} {incoming rest : List Arrival}
    {bytes : Bytes} {sender : Endpoint}
    (run : receiveFirst kind most incoming = (.ok (bytes, sender), rest)) :
    bytes.length ≤ most := by
  unfold receiveFirst at run
  split at run
  · cases run
  · cases run
  · cases run
    exact Nat.zero_le most
  · cases run
    rw [List.length_take]
    exact Nat.min_le_left ..

theorem receiveWaiting_le {kernel after : Kernel} {socket : SocketId} {most : Nat} {bytes : Bytes}
    {sender : Endpoint}
    (run : kernel.receiveWaiting socket most = (.ok (bytes, sender), after)) :
    bytes.length ≤ most := by
  unfold receiveWaiting at run
  split at run
  · cases run
  · rename_i found _
    have result : (receiveFirst found.kind most found.incoming).1 = .ok (bytes, sender) :=
      congrArg Prod.fst run
    exact receiveFirst_le (Prod.ext result rfl)

theorem receive_le {kernel after : Kernel} {socket : SocketId} {most : Nat} {bytes : Bytes}
    (run : kernel.receive socket most = (.ok bytes, after)) : bytes.length ≤ most := by
  have result : (kernel.receiveWaiting socket most).1.map Prod.fst = .ok bytes :=
    congrArg Prod.fst run
  cases waited : kernel.receiveWaiting socket most with
  | mk outcome between =>
      rw [waited] at result
      cases outcome with
      | error errno => cases result
      | ok found =>
          cases result
          exact receiveWaiting_le waited

end Kernel

end Masquerade
