import Masquerade.Kernel.Sockets

/-!
# What calls leave behind

Everything that the gateway does to the kernel is a row of calls.  The row alone
decides how the log grows and which sockets are open afterwards: `Makes` says
so, and each operation on sockets is given by the calls that it makes.  Looking at
sockets, and whatever the host does by itself, makes no calls.
-/

set_option autoImplicit false

namespace Masquerade

/-! ## Calls -/

namespace Call

def socket? : Call → Option SocketId
  | .socket _ (.ok handle) => some handle
  | .socket _ (.error _) => none
  | .bind handle _ _ => some handle
  | .connect handle _ _ => some handle
  | .send handle _ _ => some handle
  | .sendTo handle _ _ _ => some handle
  | .receive handle _ _ => some handle
  | .receiveFrom handle _ _ => some handle
  | .shutdown handle _ => some handle
  | .close handle => some handle

/-- What a call does to the row that tells of each socket whether it is open. -/
def mark : Call → List Bool → List Bool
  | .socket _ (.ok _), flags => flags ++ [true]
  | .close handle, flags => flags.set handle false
  | _, flags => flags

def keepsSockets : Call → Bool
  | .socket _ (.ok _) => false
  | .close _ => false
  | _ => true

def taken : Call → Bytes
  | .send _ bytes (.ok count) => bytes.take count
  | _ => []

def received : Call → Bytes
  | .receive _ _ (.ok bytes) => bytes
  | _ => []

def datagrams : Call → List Bytes
  | .receiveFrom _ _ (.ok (bytes, _)) => [bytes]
  | _ => []

def isSend : Call → Bool
  | .send _ _ _ => true
  | _ => false

def isShutdown : Call → Bool
  | .shutdown _ _ => true
  | _ => false

def isReceive : Call → Bool
  | .receive _ _ _ => true
  | _ => false

def TakesFrom (socket : SocketId) (call : Call) : Prop :=
  ∃ most result, call = .receiveFrom socket most result

theorem TakesFrom.about {socket : SocketId} {call : Call} (takes : call.TakesFrom socket) :
    call.socket? = some socket := by
  obtain ⟨most, result, rfl⟩ := takes
  rfl

theorem TakesFrom.silent {socket : SocketId} {call : Call} (takes : call.TakesFrom socket) :
    call.isReceive = false := by
  obtain ⟨most, result, rfl⟩ := takes
  rfl

theorem mark_of_keepsSockets {call : Call} (keeps : call.keepsSockets = true) (flags : List Bool) :
    call.mark flags = flags := by
  unfold keepsSockets at keeps
  unfold mark
  split <;> simp_all

theorem foldl_mark_of_keepsSockets {calls : List Call}
    (keep : ∀ call ∈ calls, call.keepsSockets = true) (flags : List Bool) :
    calls.foldl (fun flags call => call.mark flags) flags = flags := by
  induction calls with
  | nil => rfl
  | cons call rest ih =>
      rw [List.foldl_cons, mark_of_keepsSockets (keep call (List.mem_cons_self ..))]
      exact ih fun later member => keep later (List.mem_cons_of_mem _ member)

end Call

/-! ## Calls about one socket -/

def datagramsOn (calls : List Call) (socket : SocketId) : List Bytes :=
  (calls.filter (fun call => call.socket? = some socket)).flatMap Call.datagrams

section About

variable {calls : List Call} {socket : SocketId}

theorem filter_about_eq_self (about : ∀ call ∈ calls, call.socket? = some socket) :
    calls.filter (fun call => call.socket? = some socket) = calls :=
  List.filter_eq_self.mpr fun call member => by simpa using about call member

theorem filter_about_eq_nil (away : ∀ call ∈ calls, call.socket? ≠ some socket) :
    calls.filter (fun call => call.socket? = some socket) = [] :=
  List.filter_eq_nil_iff.mpr fun call member => by simpa using away call member

theorem datagramsOn_of_about (about : ∀ call ∈ calls, call.socket? = some socket) :
    datagramsOn calls socket = calls.flatMap Call.datagrams := by
  rw [datagramsOn, filter_about_eq_self about]

theorem datagramsOn_append_left (first : List Call)
    (away : ∀ call ∈ calls, call.socket? ≠ some socket) :
    datagramsOn (first ++ calls) socket = datagramsOn first socket := by
  rw [datagramsOn, List.filter_append, filter_about_eq_nil away, List.append_nil]
  rfl

theorem datagramsOn_append_right (second : List Call)
    (away : ∀ call ∈ calls, call.socket? ≠ some socket) :
    datagramsOn (calls ++ second) socket = datagramsOn second socket := by
  rw [datagramsOn, List.filter_append, filter_about_eq_nil away, List.nil_append]
  rfl

end About

namespace Kernel

def openFlags (kernel : Kernel) : List Bool := kernel.sockets.map HostSocket.isOpen

def IsOpen (kernel : Kernel) (socket : SocketId) : Prop :=
  ∃ found, kernel.socket? socket = some found ∧ found.isOpen = true

def callsOn (kernel : Kernel) (socket : SocketId) : List Call :=
  kernel.log.reverse.filter (fun call => call.socket? = some socket)

def takenOn (kernel : Kernel) (socket : SocketId) : Bytes :=
  (kernel.callsOn socket).flatMap Call.taken

def receivedOn (kernel : Kernel) (socket : SocketId) : Bytes :=
  (kernel.callsOn socket).flatMap Call.received

theorem isOpen_iff (kernel : Kernel) (socket : SocketId) :
    kernel.IsOpen socket ↔ kernel.openFlags[socket]? = some true := by
  simp only [IsOpen, openFlags, socket?, List.getElem?_map, Option.map_eq_some_iff]

@[simp] theorem length_openFlags (kernel : Kernel) :
    kernel.openFlags.length = kernel.sockets.length := List.length_map ..

theorem callsSince_of_log {calls : List Call} {before after : Kernel}
    (log : after.log = calls.reverse ++ before.log) : after.callsSince before = calls := by
  have extra : after.log.length - before.log.length = calls.reverse.length := by
    rw [log, List.length_append, Nat.add_sub_cancel]
  rw [callsSince, extra, log, List.take_left, List.reverse_reverse]

/-- `after` comes from `before` by these calls. -/
structure Makes (calls : List Call) (before after : Kernel) : Prop where
  log : after.log = calls.reverse ++ before.log
  flags : after.openFlags = calls.foldl (fun flags call => call.mark flags) before.openFlags

namespace Makes

theorem refl (kernel : Kernel) : Makes [] kernel kernel := ⟨rfl, rfl⟩

theorem trans {first second : List Call} {before between after : Kernel}
    (start : Makes first before between) (rest : Makes second between after) :
    Makes (first ++ second) before after := by
  constructor
  · rw [rest.log, start.log, List.reverse_append, List.append_assoc]
  · rw [rest.flags, start.flags, List.foldl_append]

theorem after_nothing {calls : List Call} {before between after : Kernel}
    (start : Makes [] before between) (rest : Makes calls between after) :
    Makes calls before after := start.trans rest

theorem callsOn_eq {calls : List Call} {before after : Kernel} (made : Makes calls before after)
    (socket : SocketId) :
    after.callsOn socket =
      before.callsOn socket ++ calls.filter (fun call => call.socket? = some socket) := by
  rw [callsOn, made.log, List.reverse_append, List.reverse_reverse, List.filter_append]
  rfl

theorem callsOn_of_about {calls : List Call} {before after : Kernel} {socket : SocketId}
    (made : Makes calls before after) (about : ∀ call ∈ calls, call.socket? = some socket) :
    after.callsOn socket = before.callsOn socket ++ calls := by
  rw [made.callsOn_eq, filter_about_eq_self about]

theorem receivedOn_of_about {calls : List Call} {before after : Kernel} {socket : SocketId}
    (made : Makes calls before after) (about : ∀ call ∈ calls, call.socket? = some socket) :
    after.receivedOn socket = before.receivedOn socket ++ calls.flatMap Call.received := by
  rw [receivedOn, made.callsOn_of_about about, List.flatMap_append]
  rfl

theorem callsOn_of_not_about {calls : List Call} {before after : Kernel} {socket : SocketId}
    (made : Makes calls before after) (away : ∀ call ∈ calls, call.socket? ≠ some socket) :
    after.callsOn socket = before.callsOn socket := by
  rw [made.callsOn_eq, filter_about_eq_nil away, List.append_nil]

theorem callsSince_eq {calls : List Call} {before after : Kernel}
    (made : Makes calls before after) : after.callsSince before = calls :=
  callsSince_of_log made.log

theorem flags_of_keepsSockets {calls : List Call} {before after : Kernel}
    (made : Makes calls before after) (keep : ∀ call ∈ calls, call.keepsSockets = true) :
    after.openFlags = before.openFlags := by
  rw [made.flags, Call.foldl_mark_of_keepsSockets keep]

end Makes

/-! ## Steps without a call -/

theorem makes_answer (kernel : Kernel) (kind : CallKind) :
    Makes [] kernel (kernel.answer kind).2 := by
  unfold answer
  cases kernel.script.pop? kind <;> exact ⟨rfl, rfl⟩

theorem makes_of_answer {kernel after : Kernel} {kind : CallKind} {outcome : Outcome}
    (run : kernel.answer kind = (outcome, after)) : Makes [] kernel after := by
  have made := kernel.makes_answer kind
  rwa [run] at made

theorem makes_changeSocket (kernel : Kernel) (socket : SocketId) (change : HostSocket → HostSocket)
    (keeps : ∀ found, (change found).isOpen = found.isOpen) :
    Makes [] kernel (kernel.changeSocket socket change) := by
  refine ⟨rfl, ?_⟩
  apply List.ext_getElem?
  intro place
  simp only [openFlags, changeSocket, List.getElem?_map, List.getElem?_modify, List.foldl_nil]
  cases kernel.sockets[place]? with
  | none => rfl
  | some found =>
      by_cases here : socket = place
      · simp [here, keeps]
      · simp [here]

theorem makes_record (kernel : Kernel) {call : Call} (keeps : call.keepsSockets = true) :
    Makes [call] kernel (kernel.record call) :=
  ⟨rfl, (Call.mark_of_keepsSockets keeps _).symm⟩

theorem makes_drawRandom (kernel : Kernel) : Makes [] kernel kernel.drawRandom.2 := by
  unfold drawRandom
  cases kernel.randoms <;> exact ⟨rfl, rfl⟩

theorem makes_extendScript (kernel : Kernel) (outcomes : List (CallKind × Outcome))
    (randoms : List UInt32) : Makes [] kernel (kernel.extendScript outcomes randoms) := ⟨rfl, rfl⟩

theorem makes_applyChange (kernel : Kernel) (socket : SocketId) (change : SocketChange) :
    Makes [] kernel (kernel.applyChange socket change).2 := by
  unfold applyChange
  cases kernel.socket? socket with
  | none => exact Makes.refl kernel
  | some found =>
      by_cases isOpen : found.isOpen
      · simpa only [isOpen, if_true] using
          kernel.makes_changeSocket socket change.apply fun _ => rfl
      · simpa only [isOpen, if_false, Bool.false_eq_true] using Makes.refl kernel

/-! ## Looking at sockets -/

theorem makes_takeError (kernel : Kernel) (socket : SocketId) :
    Makes [] kernel (kernel.takeError socket).2 := by
  unfold takeError
  split
  · rename_i answered
    exact makes_of_answer answered
  · rename_i answered
    exact (makes_of_answer answered).trans (makes_changeSocket _ socket _ fun _ => rfl)

theorem makes_localPort (kernel : Kernel) (socket : SocketId) :
    Makes [] kernel (kernel.localPort socket).2 := by
  unfold localPort
  split <;> rename_i answered <;> exact makes_of_answer answered

theorem makes_pollOnce (kernel : Kernel) (interests : List Interest) :
    Makes [] kernel (kernel.pollOnce interests).2 := by
  unfold pollOnce
  split <;> rename_i answered <;> exact makes_of_answer answered

theorem makes_readiness (kernel : Kernel) (interests : List Interest) :
    Makes [] kernel (kernel.readiness interests).2 := by
  unfold readiness
  split
  · exact Makes.refl kernel
  · have skipped (script : Backlog CallKind Outcome) : Makes [] kernel { kernel with script } :=
      ⟨rfl, rfl⟩
    exact (skipped _).after_nothing (makes_pollOnce _ interests)

theorem makes_isWritable (kernel : Kernel) (socket : SocketId) :
    Makes [] kernel (kernel.isWritable socket).2 := by
  have made := kernel.makes_pollOnce [⟨socket, false, true⟩]
  unfold isWritable
  split <;> rename_i looked <;> rwa [looked] at made

end Kernel

end Masquerade
