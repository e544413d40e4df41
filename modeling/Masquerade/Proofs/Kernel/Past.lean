import Masquerade.Kernel.Sockets

/-!
# The past does not matter

No operation on the kernel reads the log.  With other calls made before, an operation ends
in the same way and makes the same calls, which stand behind those others in the log.
-/

set_option autoImplicit false

namespace Masquerade.Kernel

/-- The same kernel with some calls, the latest first, made before all that it has logged. -/
def precededBy (kernel : Kernel) (past : List Call) : Kernel :=
  { kernel with log := kernel.log ++ past }

def resultAfter {α : Type} (past : List Call) (result : α × Kernel) : α × Kernel :=
  (result.1, result.2.precededBy past)

def blank (kernel : Kernel) : Kernel := { kernel with log := [] }

variable (kernel : Kernel) (past : List Call)

@[simp] theorem precededBy_record (call : Call) :
    (kernel.precededBy past).record call = (kernel.record call).precededBy past := rfl

@[simp] theorem precededBy_changeSocket (socket : SocketId) (change : HostSocket → HostSocket) :
    (kernel.precededBy past).changeSocket socket change =
      (kernel.changeSocket socket change).precededBy past := rfl

@[simp] theorem precededBy_answer (kind : CallKind) :
    (kernel.precededBy past).answer kind = resultAfter past (kernel.answer kind) := by
  have same : (kernel.precededBy past).script = kernel.script := rfl
  simp only [answer, same]
  split <;> rfl

@[simp] theorem precededBy_drawRandom :
    (kernel.precededBy past).drawRandom = resultAfter past kernel.drawRandom := by
  have same : (kernel.precededBy past).randoms = kernel.randoms := rfl
  simp only [drawRandom, same]
  split <;> rfl

/-! ## Opening and closing -/

@[simp] theorem precededBy_close (socket : SocketId) :
    (kernel.precededBy past).close socket = (kernel.close socket).precededBy past := by
  simp only [close, precededBy_answer, resultAfter, precededBy_changeSocket, precededBy_record]

theorem precededBy_settle (socket : SocketId) :
    (match (kernel.precededBy past).answer .fcntl with
      | (.failure errno, kernel) => (Except.error errno, kernel.close socket)
      | (_, kernel) => (Except.ok socket, kernel) : Except Errno SocketId × Kernel) =
    resultAfter past
      (match kernel.answer .fcntl with
        | (.failure errno, kernel) => (Except.error errno, kernel.close socket)
        | (_, kernel) => (Except.ok socket, kernel)) := by
  rw [precededBy_answer]
  cases kernel.answer .fcntl with
  | mk outcome after =>
      cases outcome with
      | ordinary | count => rfl
      | failure errno => simp only [resultAfter, precededBy_close]

@[simp] theorem precededBy_openSocket (kind : SocketKind) :
    (kernel.precededBy past).openSocket kind = resultAfter past (kernel.openSocket kind) := by
  simp only [openSocket, precededBy_answer]
  cases kernel.answer .socket with
  | mk outcome between =>
      cases outcome with
      | failure => rfl
      | ordinary | count =>
          simp only [resultAfter]
          exact precededBy_settle (({ between with
            sockets := between.sockets ++ [HostSocket.fresh kind] }).record _) past _

@[simp] theorem precededBy_connect (socket : SocketId) (target : Endpoint) :
    (kernel.precededBy past).connect socket target =
      resultAfter past (kernel.connect socket target) := by
  simp only [connect, precededBy_answer, resultAfter, precededBy_record]

@[simp] theorem precededBy_openStream (target : Endpoint) :
    (kernel.precededBy past).openStream target = resultAfter past (kernel.openStream target) := by
  simp only [openStream, precededBy_openSocket]
  cases kernel.openSocket .stream with
  | mk opened between =>
      cases opened with
      | error => rfl
      | ok socket =>
          simp only [resultAfter, precededBy_connect]
          cases between.connect socket target with
          | mk connected after =>
              cases connected with
              | ok => rfl
              | error errno =>
                  by_cases going : errno = .inProgress
                  · simp only [going, if_true]
                  · simp only [going, if_false, precededBy_close]

@[simp] theorem precededBy_openDatagram :
    (kernel.precededBy past).openDatagram = resultAfter past kernel.openDatagram :=
  precededBy_openSocket kernel past .datagram

/-! ## Sending -/

@[simp] theorem precededBy_send (socket : SocketId) (bytes : Bytes) :
    (kernel.precededBy past).send socket bytes = resultAfter past (kernel.send socket bytes) := by
  simp only [send, precededBy_answer, resultAfter, precededBy_record]

@[simp] theorem precededBy_sendTo (socket : SocketId) (target : Endpoint) (bytes : Bytes) :
    (kernel.precededBy past).sendTo socket target bytes =
      resultAfter past (kernel.sendTo socket target bytes) := by
  simp only [sendTo, precededBy_answer, resultAfter, precededBy_record]

theorem blank_sendTo (socket : SocketId) (target : Endpoint) (bytes : Bytes) :
    (kernel.sendTo socket target bytes).2.blank = (kernel.blank.answer .sendto).2 := by
  have same : kernel.blank.script = kernel.script := rfl
  simp only [sendTo, answer, same]
  cases kernel.script.pop? .sendto <;> rfl

@[simp] theorem precededBy_shutdownWrite (socket : SocketId) :
    (kernel.precededBy past).shutdownWrite socket =
      resultAfter past (kernel.shutdownWrite socket) := by
  simp only [shutdownWrite, precededBy_answer, resultAfter, precededBy_record]

@[simp] theorem precededBy_isWritable (socket : SocketId) :
    (kernel.precededBy past).isWritable socket = resultAfter past (kernel.isWritable socket) := by
  simp only [isWritable, pollOnce, precededBy_answer]
  cases kernel.answer .poll with
  | mk outcome after => cases outcome <;> rfl

end Masquerade.Kernel
