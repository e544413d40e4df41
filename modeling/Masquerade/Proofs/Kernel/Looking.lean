import Masquerade.Kernel.Sockets

/-!
# Looks at many sockets

How looks end stands in the script under a key of its own.  A look takes what stands there
up to the first outcome that is no interruption, and changes nothing else; what is then done
with the sockets, apart from asking whether one is writable, takes nothing from there.
-/

set_option autoImplicit false

namespace Masquerade

/-! ## Dropping from a queue -/

namespace Backlog

variable {Key Item : Type} [DecidableEq Key]

theorem filter_dropEntries (key : Key) (test : Item → Bool) (entries : List (Key × Item)) :
    ((dropEntries key test entries).filter fun entry => entry.1 = key).map Prod.snd =
      ((entries.filter fun entry => entry.1 = key).map Prod.snd).dropWhile test := by
  induction entries with
  | nil => rfl
  | cons entry rest ih =>
      by_cases same : entry.1 = key
      · by_cases drops : test entry.2 = true
        · simp only [dropEntries, same, drops, if_true, decide_true, List.filter_cons_of_pos,
            List.map_cons, List.dropWhile_cons_of_pos, ih]
        · simp only [dropEntries, same, drops, Bool.false_eq_true, if_true, if_false, decide_true,
            List.filter_cons_of_pos, List.map_cons, List.dropWhile_cons_of_neg,
            not_false_eq_true]
      · simpa only [dropEntries, same, if_false, decide_false, Bool.false_eq_true,
          not_false_eq_true, List.filter_cons_of_neg] using ih

theorem filter_dropEntries_of_ne {key other : Key} (away : key ≠ other) (test : Item → Bool)
    (entries : List (Key × Item)) :
    (dropEntries key test entries).filter (fun entry => entry.1 = other) =
      entries.filter fun entry => entry.1 = other := by
  induction entries with
  | nil => rfl
  | cons entry rest ih =>
      by_cases same : entry.1 = key
      · have apart : entry.1 ≠ other := fun equal => away (same.symm.trans equal)
        by_cases drops : test entry.2 = true
        · simpa [dropEntries, same, drops, away] using ih
        · simp [dropEntries, same, drops, away]
      · by_cases here : entry.1 = other <;> simp [dropEntries, same, here, ih, away.symm]

theorem waiting_dropWhile (backlog : Backlog Key Item) (key : Key) (test : Item → Bool) :
    (backlog.dropWhile key test).waiting key = (backlog.waiting key).dropWhile test :=
  filter_dropEntries key test backlog.entries

theorem waiting_dropWhile_of_ne (backlog : Backlog Key Item) {key other : Key}
    (away : key ≠ other) (test : Item → Bool) :
    (backlog.dropWhile key test).waiting other = backlog.waiting other :=
  congrArg (List.map Prod.snd) (filter_dropEntries_of_ne away test backlog.entries)

end Backlog

namespace Kernel

/-! ## Looks to come -/

def looksAhead (kernel : Kernel) : List Outcome := kernel.script.waiting .poll

def isInterruption (outcome : Outcome) : Bool := outcome = .failure .interrupted

/-- How the next look ends, after all interruptions. -/
def nextLook (kernel : Kernel) : Outcome :=
  (kernel.looksAhead.dropWhile isInterruption).headD .ordinary

def foundBy (kernel : Kernel) (interests : List Interest) : Outcome →
    Except Errno (List Readiness)
  | .failure errno => .error errno
  | _ => .ok (interests.map kernel.readinessOf)

/-- One look has been made: the script has lost the outcomes of the interrupted tries and of
the last one, and all else is as it was. -/
structure LooksOnce (before after : Kernel) : Prop where
  used : after.looksAhead = (before.looksAhead.dropWhile isInterruption).tail
  others : ∀ kind, CallKind.poll ≠ kind → after.script.waiting kind = before.script.waiting kind
  rest : after = { before with script := after.script }

theorem answer_eq (kernel : Kernel) (kind : CallKind) :
    (kernel.answer kind).1 = (kernel.script.waiting kind).headD .ordinary ∧
      (∀ other, (kernel.answer kind).2.script.waiting other =
        if kind = other then (kernel.script.waiting kind).tail else kernel.script.waiting other) ∧
      (kernel.answer kind).2 = { kernel with script := (kernel.answer kind).2.script } := by
  unfold answer
  cases popped : kernel.script.pop? kind with
  | none =>
      have empty := (Backlog.pop?_eq_none_iff ..).mp popped
      rw [empty]
      refine ⟨rfl, fun other => ?_, rfl⟩
      by_cases same : kind = other
      · rw [if_pos same, ← same]
        exact empty
      · rw [if_neg same]
  | some found =>
      obtain ⟨outcome, script⟩ := found
      have taken := Backlog.waiting_of_pop? popped
      have own := taken kind
      rw [if_pos rfl] at own
      rw [own]
      refine ⟨rfl, fun other => ?_, rfl⟩
      by_cases same : kind = other
      · rw [if_pos same, ← same]
        rfl
      · rw [if_neg same, taken other, if_neg same]
        rfl

theorem readinessOf_of_same {kernel other : Kernel} {interest : Interest}
    (same : other.socket? interest.socket = kernel.socket? interest.socket) :
    other.readinessOf interest = kernel.readinessOf interest := by
  rw [readinessOf, readinessOf, same]

/-- Where there are sockets to look at, one look is made, and it tells what they are ready
for unless it fails. -/
theorem readiness_of_some (kernel : Kernel) {interests : List Interest} (some : interests ≠ []) :
    LooksOnce kernel (kernel.readiness interests).2 ∧
      (kernel.readiness interests).1 = kernel.foundBy interests kernel.nextLook := by
  let skipped : Kernel := { kernel with script := kernel.script.dropWhile .poll isInterruption }
  have ahead : skipped.script.waiting .poll = kernel.looksAhead.dropWhile isInterruption :=
    Backlog.waiting_dropWhile ..
  have run : kernel.readiness interests = skipped.pollOnce interests :=
    if_neg (by simpa using some)
  -- The last try takes one outcome more than the interrupted ones.
  obtain ⟨first, queues, rest⟩ := skipped.answer_eq .poll
  have looked : LooksOnce kernel (skipped.answer .poll).2 := by
    refine ⟨(queues .poll).trans ?_, fun kind away => ?_, rest⟩
    · rw [if_pos rfl, ahead]
    · rw [queues kind, if_neg away]
      exact Backlog.waiting_dropWhile_of_ne _ away _
  have sockets : ∀ interest, (skipped.answer .poll).2.readinessOf interest =
      kernel.readinessOf interest := by
    intro interest
    refine readinessOf_of_same ?_
    rw [rest]
    rfl
  rw [ahead] at first
  rw [run, pollOnce, nextLook, ← first]
  cases answered : skipped.answer .poll with
  | mk outcome after =>
      rw [answered] at looked sockets
      cases outcome with
      | failure errno => exact ⟨looked, rfl⟩
      | ordinary => exact ⟨looked, congrArg Except.ok (List.map_congr_left fun _ _ => sockets _)⟩
      | count number =>
          exact ⟨looked, congrArg Except.ok (List.map_congr_left fun _ _ => sockets _)⟩

theorem readiness_of_none (kernel : Kernel) : kernel.readiness [] = (.ok [], kernel) := rfl

/-! ## Other calls -/

section Others

variable (kernel : Kernel)

@[simp] theorem looksAhead_record (call : Call) :
    (kernel.record call).looksAhead = kernel.looksAhead := rfl

@[simp] theorem looksAhead_changeSocket (socket : SocketId) (change : HostSocket → HostSocket) :
    (kernel.changeSocket socket change).looksAhead = kernel.looksAhead := rfl

theorem looksAhead_answer {kind : CallKind} (other : kind ≠ .poll) :
    (kernel.answer kind).2.looksAhead = kernel.looksAhead :=
  ((kernel.answer_eq kind).2.1 .poll).trans (if_neg other)

@[simp] theorem looksAhead_close (socket : SocketId) :
    (kernel.close socket).looksAhead = kernel.looksAhead := kernel.looksAhead_answer (by decide)

@[simp] theorem looksAhead_takeError (socket : SocketId) :
    (kernel.takeError socket).2.looksAhead = kernel.looksAhead := by
  have kept := @looksAhead_answer kernel .getsockopt (by decide)
  unfold takeError
  split <;> rename_i answered <;> rwa [answered] at kept

@[simp] theorem looksAhead_receiveWaiting (socket : SocketId) (most : Nat) :
    (kernel.receiveWaiting socket most).2.looksAhead = kernel.looksAhead := by
  unfold receiveWaiting
  split <;> rfl

@[simp] theorem looksAhead_receive (socket : SocketId) (most : Nat) :
    (kernel.receive socket most).2.looksAhead = kernel.looksAhead :=
  kernel.looksAhead_receiveWaiting socket most

@[simp] theorem looksAhead_receiveFrom (socket : SocketId) (most : Nat) :
    (kernel.receiveFrom socket most).2.looksAhead = kernel.looksAhead :=
  kernel.looksAhead_receiveWaiting socket most

end Others

end Kernel

end Masquerade
