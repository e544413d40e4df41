import Masquerade.Proofs.Kernel.Looking
import Masquerade.Proofs.Kernel.Outcomes

/-!
# Whether a socket can be opened

How the next call of a kind ends is what waits first under that kind.  A socket can be
opened just if neither the call that gives it fails nor the one that sets its mode, and a
stream just if connecting its socket does not fail either; calls of other kinds do not
matter.
-/

set_option autoImplicit false

namespace Masquerade.Kernel

def next (kernel : Kernel) (kind : CallKind) : Outcome :=
  (kernel.script.waiting kind).head?.getD .ordinary

structure CanOpen (kernel : Kernel) : Prop where
  given : ∀ errno, kernel.next .socket ≠ .failure errno
  settled : ∀ errno, kernel.next .fcntl ≠ .failure errno

theorem answer_fst (kernel : Kernel) (kind : CallKind) :
    (kernel.answer kind).1 = kernel.next kind := by
  rw [(kernel.answer_eq kind).1, next, List.headD_eq_head?_getD]

theorem next_of_answer {kernel after : Kernel} {kind : CallKind} {outcome : Outcome}
    (answered : kernel.answer kind = (outcome, after)) : kernel.next kind = outcome := by
  rw [← answer_fst, answered]

theorem next_answer (kernel : Kernel) (kind other : CallKind) (away : kind ≠ other) :
    (kernel.answer kind).2.next other = kernel.next other := by
  rw [next, next, (kernel.answer_eq kind).2.1 other, if_neg away]

theorem next_sendTo (kernel : Kernel) (socket : SocketId) (target : Endpoint) (bytes : Bytes)
    (kind : CallKind) (away : CallKind.sendto ≠ kind) :
    (kernel.sendTo socket target bytes).2.next kind = kernel.next kind :=
  kernel.next_answer .sendto kind away

theorem CanOpen.of_next {kernel after : Kernel} (can : kernel.CanOpen)
    (given : after.next .socket = kernel.next .socket)
    (settled : after.next .fcntl = kernel.next .fcntl) : after.CanOpen := by
  constructor
  · rw [given]
    exact can.given
  · rw [settled]
    exact can.settled

theorem canOpen_sendTo_iff (kernel : Kernel) (socket : SocketId) (target : Endpoint)
    (bytes : Bytes) : (kernel.sendTo socket target bytes).2.CanOpen ↔ kernel.CanOpen := by
  have given := kernel.next_sendTo socket target bytes .socket (by decide)
  have settled := kernel.next_sendTo socket target bytes .fcntl (by decide)
  exact ⟨fun after => after.of_next given.symm settled.symm,
    fun before => before.of_next given settled⟩

theorem openSocket_isOk_iff (kernel : Kernel) (kind : SocketKind) :
    (∃ socket after, kernel.openSocket kind = (.ok socket, after)) ↔ kernel.CanOpen := by
  -- Giving a socket and noting the call leave the script as it is.
  have later : ∀ {outcome asked}, kernel.answer .socket = (outcome, asked) →
      (asked.withNewSocket kind).next .fcntl = kernel.next .fcntl := by
    intro outcome asked answered
    have same := kernel.next_answer .socket .fcntl (by decide)
    rwa [answered] at same
  generalize run : kernel.openSocket kind = result
  cases openSocket_outcome run with
  | @refused errno _ answered =>
      refine ⟨?_, fun can => absurd (next_of_answer answered) (can.given errno)⟩
      rintro ⟨_, _, given⟩
      cases given
  | @givenUp _ errno _ _ answered _ unset =>
      have failing := (later answered).symm.trans (next_of_answer unset)
      refine ⟨?_, fun can => absurd failing (can.settled errno)⟩
      rintro ⟨_, _, given⟩
      cases given
  | given answered granted set agreed =>
      refine ⟨fun _ => ⟨fun errno fails => ?_, fun errno fails => ?_⟩, fun _ => ⟨_, _, rfl⟩⟩
      · exact granted errno ((next_of_answer answered).symm.trans fails)
      · rw [← later answered, next_of_answer set] at fails
        exact agreed errno fails

/-! ## Streams -/

/-- Neither call that opens a socket is about to fail, and the one that connects it succeeds
or goes on. -/
structure CanConnect (kernel : Kernel) : Prop where
  opens : kernel.CanOpen
  connects : ∀ errno, kernel.next .connect = .failure errno → errno = .inProgress

theorem canConnect_congr {kernel other : Kernel}
    (same : ∀ kind, kind ≠ .sendto → other.next kind = kernel.next kind) :
    other.CanConnect ↔ kernel.CanConnect := by
  have given := same .socket (by decide)
  have settled := same .fcntl (by decide)
  have connected := same .connect (by decide)
  constructor
  · rintro ⟨opens, connects⟩
    exact ⟨opens.of_next given.symm settled.symm, connected ▸ connects⟩
  · rintro ⟨opens, connects⟩
    exact ⟨opens.of_next given settled, connected.symm ▸ connects⟩

theorem next_openSocket {kernel after : Kernel} {kind : SocketKind} {socket : SocketId}
    (run : kernel.openSocket kind = (.ok socket, after)) {other : CallKind}
    (noSocket : CallKind.socket ≠ other) (noMode : CallKind.fcntl ≠ other) :
    after.next other = kernel.next other := by
  have given := kernel.next_answer .socket other noSocket
  cases openSocket_outcome run with
  | @given _ _ asked _ answered _ set =>
      have settled := (asked.withNewSocket kind).next_answer .fcntl other noMode
      rw [answered] at given
      rw [set] at settled
      exact settled.trans given

/-- A connection is begun just if the next call of its kind succeeds or goes on. -/
theorem connects_iff (kernel : Kernel) (socket : SocketId) (target : Endpoint) :
    ((kernel.connect socket target).1 = .ok () ∨
        (kernel.connect socket target).1 = .error .inProgress) ↔
      ∀ errno, kernel.next .connect = .failure errno → errno = .inProgress := by
  have ends := kernel.answer_fst .connect
  unfold connect
  cases answered : kernel.answer .connect with
  | mk outcome rest =>
      rw [answered] at ends
      rw [← ends]
      cases outcome with
      | ordinary | count number => simp
      | failure errno => simp

theorem openStream_isOk_iff (kernel : Kernel) (target : Endpoint) :
    (∃ socket after, kernel.openStream target = (.ok socket, after)) ↔ kernel.CanConnect := by
  have opening := kernel.openSocket_isOk_iff .stream
  generalize run : kernel.openStream target = result
  cases openStream_outcome run with
  | unopened failed =>
      constructor
      · rintro ⟨_, _, given⟩
        cases given
      · rintro ⟨opens, _⟩
        obtain ⟨_, _, given⟩ := opening.mpr opens
        rw [failed] at given
        cases given
  | @begun socket between _ _ opened connected begins =>
      have connects := between.connects_iff socket target
      rw [next_openSocket opened (by decide) (by decide), connected] at connects
      exact ⟨fun _ => ⟨opening.mp ⟨_, _, opened⟩, connects.mp begins⟩, fun _ => ⟨_, _, rfl⟩⟩
  | @stopped socket between _ _ opened connected stops =>
      have connects := between.connects_iff socket target
      rw [next_openSocket opened (by decide) (by decide), connected] at connects
      constructor
      · rintro ⟨_, _, given⟩
        cases given
      · rintro ⟨_, goesOn⟩
        rcases connects.mpr goesOn with given | underWay
        · cases given
        · exact absurd (Except.error.inj underWay) stops

end Masquerade.Kernel
