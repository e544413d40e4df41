import Mathlib.Algebra.BigOperators.Group.Finset.Basic
import Masquerade.Backlog

/-!
# A backlog is a queue for each key

All items of a backlog stand in one row, and what is taken is taken from the middle of it.
Still it answers like a family of queues that know nothing of each other, one for each key:
under a key comes out what went in under it, in the same order and once at most, whatever
is done under the other keys in between.
-/

set_option autoImplicit false

namespace Masquerade.Backlog

variable {Key Item : Type} [DecidableEq Key]

/-! ## Operations -/

inductive Operation (Key Item : Type)
  | push (key : Key) (item : Item)
  | pop (key : Key)
  | has (key : Key)
  | size

inductive Reply (Item : Type)
  | done
  | popped (item : Option Item)
  | whether (there : Bool)
  | counted (number : Nat)
  deriving DecidableEq

abbrev Event (Key Item : Type) := Operation Key Item × Reply Item

def Operation.key? : Operation Key Item → Option Key
  | .push key _ | .pop key | .has key => some key
  | .size => none

def perform (backlog : Backlog Key Item) : Operation Key Item → Reply Item × Backlog Key Item
  | .push key item => (.done, backlog.push key item)
  | .pop key =>
    match backlog.pop? key with
    | none => (.popped none, backlog)
    | some (item, rest) => (.popped (some item), rest)
  | .has key => (.whether (backlog.has key), backlog)
  | .size => (.counted backlog.size, backlog)

/-- A queue for each key; the owners are the keys that ever got an item. -/
structure Queues (Key Item : Type) where
  owners : Finset Key
  queue : Key → List Item

def Queues.empty : Queues Key Item := ⟨∅, fun _ => []⟩

def Queues.perform (queues : Queues Key Item) :
    Operation Key Item → Reply Item × Queues Key Item
  | .push key item =>
    (.done, ⟨insert key queues.owners,
      Function.update queues.queue key (queues.queue key ++ [item])⟩)
  | .pop key =>
    (.popped (queues.queue key).head?,
      { queues with queue := Function.update queues.queue key (queues.queue key).tail })
  | .has key => (.whether !(queues.queue key).isEmpty, queues)
  | .size => (.counted (∑ key ∈ queues.owners, (queues.queue key).length), queues)

theorem Queues.queue_push (queues : Queues Key Item) (key other : Key) (item : Item) :
    (queues.perform (.push key item)).2.queue other =
      if other = key then queues.queue key ++ [item] else queues.queue other :=
  Function.update_apply ..

theorem Queues.queue_pop (queues : Queues Key Item) (key other : Key) :
    (queues.perform (.pop key)).2.queue other =
      if other = key then (queues.queue key).tail else queues.queue other :=
  Function.update_apply ..

/-! ## Runs -/

section Runs

variable {State : Type}

def log (perform : State → Operation Key Item → Reply Item × State) :
    State → List (Operation Key Item) → List (Event Key Item)
  | _, [] => []
  | state, operation :: rest =>
    (operation, (perform state operation).1) :: log perform (perform state operation).2 rest

def final (perform : State → Operation Key Item → Reply Item × State) (state : State)
    (operations : List (Operation Key Item)) : State :=
  operations.foldl (fun state operation => (perform state operation).2) state

end Runs

def pushed (key : Key) (events : List (Event Key Item)) : List Item :=
  events.filterMap fun
    | (.push other item, _) => if other = key then some item else none
    | _ => none

def popped (key : Key) (events : List (Event Key Item)) : List Item :=
  events.filterMap fun
    | (.pop other, .popped item) => if other = key then item else none
    | _ => none

theorem pushed_cons (key : Key) (event : Event Key Item) (events : List (Event Key Item)) :
    pushed key (event :: events) = pushed key [event] ++ pushed key events := by
  rw [pushed, ← List.singleton_append, List.filterMap_append]
  rfl

theorem popped_cons (key : Key) (event : Event Key Item) (events : List (Event Key Item)) :
    popped key (event :: events) = popped key [event] ++ popped key events := by
  rw [popped, ← List.singleton_append, List.filterMap_append]
  rfl

/-! ## One row and many queues -/

/-- The queues are those of the backlog, and each item that waits has an owner. -/
structure SplitsInto (backlog : Backlog Key Item) (queues : Queues Key Item) : Prop where
  waiting : ∀ key, backlog.waiting key = queues.queue key
  owned : ∀ entry ∈ backlog.entries, entry.1 ∈ queues.owners

theorem size_eq_sum (backlog : Backlog Key Item) {owners : Finset Key}
    (owned : ∀ entry ∈ backlog.entries, entry.1 ∈ owners) :
    backlog.size = ∑ key ∈ owners, (backlog.waiting key).length := by
  have lengths : ∀ key, (backlog.waiting key).length =
      Multiset.count key (backlog.entries.map Prod.fst : List Key) := by
    intro key
    rw [waiting, List.length_map, ← List.countP_eq_length_filter, Multiset.coe_count, List.count,
      List.countP_map]
    rfl
  have all := Multiset.sum_count_eq_card (s := owners)
    (m := (backlog.entries.map Prod.fst : List Key))
    (by simpa using fun key item member => owned (key, item) member)
  -- The items under all owners together are counted key by key.
  simp only [lengths, all, size, Multiset.coe_card, List.length_map]

/-- What comes out under a key is what waits longest under it. -/
theorem fst_pop? (backlog : Backlog Key Item) (key : Key) :
    (backlog.pop? key).map Prod.fst = (backlog.waiting key).head? := by
  cases popped : backlog.pop? key with
  | none =>
      rw [(pop?_eq_none_iff backlog key).mp popped]
      rfl
  | some taken =>
      rw [waiting_of_pop? popped key, if_pos rfl]
      rfl

theorem has_eq_isSome_pop? (backlog : Backlog Key Item) (key : Key) :
    backlog.has key = (backlog.pop? key).isSome := by
  rw [Bool.eq_iff_iff, has_eq_true_iff, ne_eq, ← pop?_eq_none_iff, Option.isSome_iff_ne_none]

namespace SplitsInto

variable {backlog : Backlog Key Item} {queues : Queues Key Item}

theorem empty : SplitsInto (empty : Backlog Key Item) Queues.empty where
  waiting _ := rfl
  owned _ member := absurd member List.not_mem_nil

theorem push (splits : SplitsInto backlog queues) (key : Key) (item : Item) :
    SplitsInto (backlog.push key item) (queues.perform (.push key item)).2 where
  waiting other := by
    rw [waiting_push, splits.waiting, Queues.queue_push]
    by_cases same : other = key
    · subst same
      rw [if_pos rfl, if_pos rfl]
    · rw [if_neg same, if_neg (Ne.symm same), List.append_nil]
  owned entry member := by
    rcases List.mem_append.mp member with old | new
    · exact Finset.mem_insert_of_mem (splits.owned entry old)
    · rw [List.mem_singleton.mp new]
      exact Finset.mem_insert_self key queues.owners

theorem pop_none (splits : SplitsInto backlog queues) {key : Key}
    (none : backlog.pop? key = none) :
    (queues.queue key).head? = Option.none ∧
      SplitsInto backlog (queues.perform (.pop key)).2 := by
  have nothing : queues.queue key = [] := by
    rw [← splits.waiting, ← pop?_eq_none_iff, none]
  refine ⟨by rw [nothing]; rfl, fun other => ?_, splits.owned⟩
  rw [splits.waiting, Queues.queue_pop, nothing]
  split
  · rename_i same
    rw [same, nothing, List.tail_nil]
  · rfl

theorem pop_some (splits : SplitsInto backlog queues) {key : Key} {item : Item}
    {rest : Backlog Key Item} (taken : backlog.pop? key = some (item, rest)) :
    (queues.queue key).head? = some item ∧
      SplitsInto rest (queues.perform (.pop key)).2 := by
  have split : ∀ other, queues.queue other =
      (if key = other then [item] else []) ++ rest.waiting other := by
    intro other
    rw [← splits.waiting]
    exact waiting_of_pop? taken other
  refine ⟨by rw [split, if_pos rfl]; rfl, fun other => ?_, fun entry member =>
    splits.owned entry ((sublist_of_pop? taken).mem member)⟩
  rw [Queues.queue_pop]
  by_cases same : other = key
  · subst same
    rw [if_pos rfl, split, if_pos rfl]
    rfl
  · rw [if_neg same, split, if_neg (Ne.symm same), List.nil_append]

/-- Each operation comes to the same, and both go on alike. -/
theorem perform (splits : SplitsInto backlog queues) (operation : Operation Key Item) :
    (backlog.perform operation).1 = (queues.perform operation).1 ∧
      SplitsInto (backlog.perform operation).2 (queues.perform operation).2 := by
  cases operation with
  | push key item => exact ⟨rfl, splits.push key item⟩
  | pop key =>
      rw [Backlog.perform]
      cases popped : backlog.pop? key with
      | none =>
          obtain ⟨head, after⟩ := splits.pop_none popped
          exact ⟨congrArg Reply.popped head.symm, after⟩
      | some taken =>
          obtain ⟨head, after⟩ := splits.pop_some popped
          exact ⟨congrArg Reply.popped head.symm, after⟩
  | has key =>
      refine ⟨congrArg Reply.whether ?_, splits⟩
      rw [Bool.eq_iff_iff, has_eq_true_iff, splits.waiting]
      simp
  | size =>
      refine ⟨congrArg Reply.counted ?_, splits⟩
      rw [size_eq_sum backlog splits.owned]
      simp only [splits.waiting]

theorem run (splits : SplitsInto backlog queues) (operations : List (Operation Key Item)) :
    log Backlog.perform backlog operations = log Queues.perform queues operations ∧
      SplitsInto (final Backlog.perform backlog operations)
        (final Queues.perform queues operations) := by
  -- Along the operations; what carries it is that the queues stay those of the backlog.
  induction operations generalizing backlog queues with
  | nil => exact ⟨rfl, splits⟩
  | cons operation rest ih =>
      obtain ⟨reply, after⟩ := splits.perform operation
      obtain ⟨replies, ending⟩ := ih after
      exact ⟨by rw [log, log, reply, replies], ending⟩

end SplitsInto

/-! ## One queue of many -/

namespace Queues

theorem queue_perform (queues : Queues Key Item) (operation : Operation Key Item) (key : Key) :
    queues.queue key ++ pushed key [(operation, (queues.perform operation).1)] =
      popped key [(operation, (queues.perform operation).1)] ++
        (queues.perform operation).2.queue key := by
  cases operation with
  | push other item =>
      rw [queue_push]
      by_cases same : other = key
      · subst same
        simp [pushed, popped]
      · simp [pushed, popped, same, Ne.symm same]
  | pop other =>
      rw [queue_pop, perform]
      by_cases same : other = key
      · subst same
        cases waits : queues.queue other <;> simp [pushed, popped]
      · simp [pushed, popped, same, Ne.symm same]
  | has | size => simp [pushed, popped, perform]

theorem queue_final (queues : Queues Key Item) (operations : List (Operation Key Item))
    (key : Key) :
    queues.queue key ++ pushed key (log perform queues operations) =
      popped key (log perform queues operations) ++
        (final perform queues operations).queue key := by
  induction operations generalizing queues with
  | nil => simp [log, final, pushed, popped]
  | cons operation rest ih =>
      have first := queues.queue_perform operation key
      have later := ih (queues.perform operation).2
      rw [log, pushed_cons, popped_cons, ← List.append_assoc, first, List.append_assoc, later,
        List.append_assoc]
      rfl

theorem queue_of_away {queues : Queues Key Item} {operation : Operation Key Item} {key : Key}
    (away : operation.key? ≠ some key) :
    (queues.perform operation).2.queue key = queues.queue key := by
  cases operation with
  | push other item | pop other =>
      have differ : key ≠ other := fun same => away (congrArg some same.symm)
      exact Function.update_of_ne differ ..
  | has | size => rfl

/-- What comes of an operation depends on the queue of its key alone. -/
theorem perform_congr {queues others : Queues Key Item} {operation : Operation Key Item}
    {key : Key} (about : operation.key? = some key) (same : queues.queue key = others.queue key) :
    (queues.perform operation).1 = (others.perform operation).1 ∧
      (queues.perform operation).2.queue key = (others.perform operation).2.queue key := by
  cases operation with
  | push | pop =>
      cases about
      simp [perform, same]
  | has =>
      cases about
      exact ⟨by rw [perform, same]; rfl, same⟩
  | size => cases about

/-- Under each key a run goes as if nothing were done under the others. -/
theorem log_filter {queues others : Queues Key Item} {key : Key}
    (same : queues.queue key = others.queue key) (operations : List (Operation Key Item)) :
    (log perform queues operations).filter (fun event => event.1.key? = some key) =
      log perform others (operations.filter fun operation => operation.key? = some key) := by
  induction operations generalizing queues others with
  | nil => rfl
  | cons operation rest ih =>
      by_cases about : operation.key? = some key
      · obtain ⟨reply, after⟩ := perform_congr about same
        rw [log, List.filter_cons_of_pos (by simpa using about),
          List.filter_cons_of_pos (by simpa using about), log, reply, ih after]
      · rw [log, List.filter_cons_of_neg (by simpa using about),
          List.filter_cons_of_neg (by simpa using about),
          ih ((queue_of_away about).trans same)]

end Queues

/-- However operations under different keys follow each other, a backlog answers each of
them as a queue for each key does; its size is that of the queues together.  Under each key
all that went in has come out or still waits, in that order, and the next to come out is
the oldest that has not; there is one just where one is said to be.  What is done under a
key comes to the same as if nothing were done under the others. -/
theorem backlog_is_a_queue_for_each_key (operations : List (Operation Key Item)) :
    let events := log perform (empty : Backlog Key Item) operations
    let queues := final Queues.perform Queues.empty operations
    let backlog := final perform empty operations
    events = log Queues.perform Queues.empty operations ∧
      backlog.size = ∑ key ∈ queues.owners, (backlog.waiting key).length ∧
      ∀ key,
        pushed key events = popped key events ++ backlog.waiting key ∧
        (backlog.pop? key).map Prod.fst = (pushed key events)[(popped key events).length]? ∧
        backlog.has key = (backlog.pop? key).isSome ∧
        events.filter (fun event => event.1.key? = some key) =
          log perform empty (operations.filter fun operation => operation.key? = some key) := by
  intro events queues backlog
  obtain ⟨same, splits⟩ := SplitsInto.empty.run operations
  refine ⟨same, size_eq_sum backlog splits.owned, fun key => ?_⟩
  have passed := Queues.empty.queue_final operations key
  rw [← same, ← splits.waiting] at passed
  refine ⟨passed, ?_, has_eq_isSome_pop? backlog key, ?_⟩
  · have next : (popped key events ++ backlog.waiting key)[(popped key events).length]? =
        (backlog.waiting key)[0]? := by
      rw [List.getElem?_append_right (Nat.le_refl _), Nat.sub_self]
    rw [fst_pop?, List.head?_eq_getElem?, ← next]
    exact congrArg (·[(popped key events).length]?) passed.symm
  · have alone := (SplitsInto.empty.run (operations.filter fun operation =>
      operation.key? = some key)).1
    rw [alone, ← Queues.log_filter rfl, ← same]

example : (log perform (empty : Backlog Nat Char)
    [.push 1 'a', .push 2 'b', .pop 2, .size, .pop 2, .pop 1]).map Prod.snd =
      [.done, .done, .popped (some 'b'), .counted 1, .popped none, .popped (some 'a')] := rfl

end Masquerade.Backlog
