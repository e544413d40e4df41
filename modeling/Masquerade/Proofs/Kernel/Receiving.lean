import Mathlib.Data.List.Basic
import Masquerade.Proofs.Kernel.Incoming
import Masquerade.Proofs.Kernel.Sockets

/-!
# Receiving until it fails

Datagrams can be received from a socket again and again, without a bound, until receiving
fails.  That ends, because each time takes away what has come first and receiving fails where
nothing waits; and it takes just what has come before the first failure, and that failure.
-/

set_option autoImplicit false

namespace Masquerade

/-! ## The first failure -/

/-- What waits has these arrivals before its first failure, which is this one, and these
behind it.  Where none fails, receiving fails after the last of them for want of more. -/
inductive SplitAtFailure : List Arrival → List Arrival → Errno → List Arrival → Prop
  | never {waiting : List Arrival} (fine : ∀ arrival ∈ waiting, arrival.isFailure = false) :
      SplitAtFailure waiting waiting .again []
  | first {received left : List Arrival} {errno : Errno}
      (fine : ∀ arrival ∈ received, arrival.isFailure = false) :
      SplitAtFailure (received ++ .failure errno :: left) received errno left

namespace SplitAtFailure

variable {waiting received left : List Arrival} {errno : Errno}

theorem cons {arrival : Arrival} (fine : arrival.isFailure = false)
    (split : SplitAtFailure waiting received errno left) :
    SplitAtFailure (arrival :: waiting) (arrival :: received) errno left := by
  cases split with
  | never rest => exact .never (List.forall_mem_cons.mpr ⟨fine, rest⟩)
  | first rest => exact .first (List.forall_mem_cons.mpr ⟨fine, rest⟩)

theorem exists_split (waiting : List Arrival) :
    ∃ received errno left, SplitAtFailure waiting received errno left := by
  induction waiting with
  | nil => exact ⟨[], .again, [], .never (List.forall_mem_nil _)⟩
  | cons arrival rest ih =>
      cases failure : arrival.isFailure with
      | false =>
          obtain ⟨received, errno, left, split⟩ := ih
          exact ⟨arrival :: received, errno, left, split.cons failure⟩
      | true =>
          cases arrival with
          | failure errno => exact ⟨[], errno, rest, .first (List.forall_mem_nil _)⟩
          | data | endOfStream => cases failure

theorem fine (split : SplitAtFailure waiting received errno left) :
    ∀ arrival ∈ received, arrival.isFailure = false := by
  cases split with
  | never fine => exact fine
  | first fine => exact fine

theorem length_le (split : SplitAtFailure waiting received errno left) :
    received.length ≤ waiting.length := by
  cases split with
  | never => exact Nat.le_refl _
  | first => rw [List.length_append]; exact Nat.le_add_right _ _

theorem exists_used (split : SplitAtFailure waiting received errno left) :
    ∃ used, waiting = used ++ left ∧ used.filter (fun arrival => !arrival.isFailure) = received ∧
      ∀ first, first <+: waiting → first <+: used ∨
        ∃ more, first = used ++ more ∧ more <+: left ∧
          first.countP Arrival.isFailure = more.countP Arrival.isFailure + 1 := by
  have kept : received.filter (fun arrival => !arrival.isFailure) = received :=
    List.filter_eq_self.mpr (by simpa using split.fine)
  have none : received.countP Arrival.isFailure = 0 :=
    List.countP_eq_zero.mpr (by simpa using split.fine)
  cases split with
  | never => exact ⟨waiting, (List.append_nil waiting).symm, kept, fun _ inside => Or.inl inside⟩
  | first =>
      have parted : received ++ .failure errno :: left =
          (received ++ [.failure errno]) ++ left := List.append_cons ..
      refine ⟨received ++ [.failure errno], parted, ?_, fun first inside => ?_⟩
      · rw [List.filter_append, kept]
        exact List.append_nil received
      · rw [parted] at inside
        rcases List.prefix_or_prefix_of_prefix inside (List.prefix_append _ left) with
          before | ⟨more, rfl⟩
        · exact Or.inl before
        · refine Or.inr ⟨more, rfl, (List.prefix_append_right_inj _).mp inside, ?_⟩
          rw [List.countP_append, List.countP_append, none, Nat.add_comm]
          rfl

end SplitAtFailure

/-! ## What comes of it -/

/-- What comes of receiving a datagram of which at most so many bytes are kept, or the end of
a stream, which has neither bytes nor a sender. -/
def Arrival.outcome (most : Nat) : Arrival → Except Errno (Bytes × Endpoint)
  | .data bytes sender => .ok (bytes.take most, sender)
  | .endOfStream => .ok ([], ⟨.ofNat 0, 0⟩)
  | .failure errno => .error errno

def outcomes (most : Nat) (received : List Arrival) (errno : Errno) :
    List (Except Errno (Bytes × Endpoint)) :=
  received.map (Arrival.outcome most) ++ [.error errno]

def bytesOf (result : Except Errno (Bytes × Endpoint)) : Option Bytes :=
  result.toOption.map Prod.fst

theorem bytesOf_outcomes {received : List Arrival}
    (fine : ∀ arrival ∈ received, arrival.isFailure = false) (most : Nat) (errno : Errno) :
    (outcomes most received errno).filterMap bytesOf = received.map (Arrival.kept most) := by
  have each : ∀ arrival ∈ received,
      (bytesOf ∘ Arrival.outcome most) arrival = some (arrival.kept most) := by
    intro arrival member
    cases arrival with
    | data | endOfStream => rfl
    | failure errno => cases fine _ member
  rw [outcomes, List.filterMap_append, List.filterMap_map,
    List.filterMap_eq_map_iff_forall_eq_some.mpr each]
  exact List.append_nil _

theorem flatMap_datagrams (socket : SocketId) (most : Nat)
    (results : List (Except Errno (Bytes × Endpoint))) :
    (results.map (Call.receiveFrom socket most)).flatMap Call.datagrams =
      results.filterMap bytesOf := by
  induction results with
  | nil => rfl
  | cons result rest ih =>
      rw [List.map_cons, List.flatMap_cons, ih]
      cases result <;> rfl

namespace Kernel

theorem receiveFirst_datagram (most : Nat) (arrival : Arrival) (rest : List Arrival) :
    receiveFirst .datagram most (arrival :: rest) = (arrival.outcome most, rest) := by
  cases arrival <;> rfl

/-! ## Receiving without a bound -/

/-- Receiving from a socket until it fails, however often: these are the results in their
order, the last of which is the failure. -/
inductive ReceivesUntil (socket : SocketId) (most : Nat) :
    Kernel → List (Except Errno (Bytes × Endpoint)) → Kernel → Prop
  | fails {kernel after : Kernel} {errno : Errno}
      (run : kernel.receiveFrom socket most = (.error errno, after)) :
      ReceivesUntil socket most kernel [.error errno] after
  | goesOn {kernel between after : Kernel} {datagram : Bytes × Endpoint}
      {results : List (Except Errno (Bytes × Endpoint))}
      (run : kernel.receiveFrom socket most = (.ok datagram, between))
      (rest : ReceivesUntil socket most between results after) :
      ReceivesUntil socket most kernel (.ok datagram :: results) after

variable {kernel after : Kernel} {socket : SocketId} {most : Nat}

namespace ReceivesUntil

variable {results : List (Except Errno (Bytes × Endpoint))}

theorem unique (receives : ReceivesUntil socket most kernel results after)
    {others : List (Except Errno (Bytes × Endpoint))} {other : Kernel}
    (again : ReceivesUntil socket most kernel others other) :
    others = results ∧ other = after := by
  induction receives generalizing others other with
  | fails run =>
      cases again with
      | fails same => cases run.symm.trans same; exact ⟨rfl, rfl⟩
      | goesOn same => cases run.symm.trans same
  | goesOn run _ ih =>
      cases again with
      | fails same => cases run.symm.trans same
      | goesOn same rest =>
          cases run.symm.trans same
          obtain ⟨rfl, rfl⟩ := ih rest
          exact ⟨rfl, rfl⟩

theorem makes (receives : ReceivesUntil socket most kernel results after) :
    Makes (results.map (Call.receiveFrom socket most)) kernel after := by
  induction receives with
  | fails run => exact makes_receiveFrom run
  | goesOn run _ ih => exact (makes_receiveFrom run).trans ih

end ReceivesUntil

namespace Queues

theorem receivesUntil_append {received rest left : List Arrival} {errno : Errno}
    (fine : ∀ arrival ∈ received, arrival.isFailure = false)
    (last : receiveFirst .datagram most rest = (.error errno, left))
    (queues : kernel.Queues socket (received ++ rest)) :
    ∃ after, ReceivesUntil socket most kernel (outcomes most received errno) after ∧
      after.Queues socket left := by
  induction received generalizing kernel with
  | nil =>
      obtain ⟨result, queue⟩ := queues.receiveFrom most
      rw [List.nil_append, last] at result queue
      exact ⟨_, .fails (Prod.ext result rfl), queue⟩
  | cons arrival received ih =>
      obtain ⟨result, queue⟩ := queues.receiveFrom most
      rw [List.cons_append, receiveFirst_datagram] at result queue
      rw [List.forall_mem_cons] at fine
      obtain ⟨after, receives, final⟩ := ih fine.2 queue
      refine ⟨after, ?_, final⟩
      cases arrival with
      | data | endOfStream => exact .goesOn (Prod.ext result rfl) receives
      | failure errno => cases fine.1

/-- Receiving ends at the first failure and leaves what waits behind it. -/
theorem receivesUntil {waiting received left : List Arrival} {errno : Errno}
    (queues : kernel.Queues socket waiting) (split : SplitAtFailure waiting received errno left)
    (most : Nat) : ∃ after, ReceivesUntil socket most kernel (outcomes most received errno) after ∧
      after.Queues socket left := by
  cases split with
  | never fine =>
      have whole : kernel.Queues socket (waiting ++ []) := by rwa [List.append_nil]
      exact whole.receivesUntil_append fine rfl
  | first fine => exact queues.receivesUntil_append fine rfl

end Queues

end Kernel

end Masquerade
