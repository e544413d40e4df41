/-!
# Backlogs

Items that wait under keys, in one row.  Each key is served from the front: the
view of a backlog at a key is a queue of its own, and what is done under one key
leaves the queues of the others as they are.
-/

set_option autoImplicit false

namespace Masquerade

/-- Waiting items and their keys, the oldest first. -/
structure Backlog (Key Item : Type) where
  entries : List (Key × Item)
  deriving Repr

namespace Backlog

variable {Key Item : Type} [DecidableEq Key]

def empty : Backlog Key Item := ⟨[]⟩

def size (backlog : Backlog Key Item) : Nat := backlog.entries.length

def isEmpty (backlog : Backlog Key Item) : Bool := backlog.entries.isEmpty

def waiting (backlog : Backlog Key Item) (key : Key) : List Item :=
  (backlog.entries.filter (fun entry => entry.1 = key)).map Prod.snd

def push (backlog : Backlog Key Item) (key : Key) (item : Item) : Backlog Key Item :=
  ⟨backlog.entries ++ [(key, item)]⟩

def pushAll (backlog : Backlog Key Item) (key : Key) (items : List Item) : Backlog Key Item :=
  ⟨backlog.entries ++ items.map (key, ·)⟩

def has (backlog : Backlog Key Item) (key : Key) : Bool :=
  backlog.entries.any (fun entry => entry.1 = key)

/-- The first item under a key, and all other entries in their order. -/
def takeFirst (key : Key) : List (Key × Item) → Option (Item × List (Key × Item))
  | [] => none
  | entry :: rest =>
    if entry.1 = key then some (entry.2, rest)
    else (takeFirst key rest).map fun (item, others) => (item, entry :: others)

def pop? (backlog : Backlog Key Item) (key : Key) : Option (Item × Backlog Key Item) :=
  (takeFirst key backlog.entries).map fun (item, rest) => (item, ⟨rest⟩)

/-- Drops the oldest items under a key as long as they satisfy `test`. -/
def dropEntries (key : Key) (test : Item → Bool) : List (Key × Item) → List (Key × Item)
  | [] => []
  | entry :: rest =>
    if entry.1 = key then
      if test entry.2 then dropEntries key test rest else entry :: rest
    else entry :: dropEntries key test rest

def dropWhile (backlog : Backlog Key Item) (key : Key) (test : Item → Bool) :
    Backlog Key Item :=
  ⟨dropEntries key test backlog.entries⟩

/-! ## The queue of each key -/

theorem waiting_push (backlog : Backlog Key Item) (key other : Key) (item : Item) :
    (backlog.push key item).waiting other =
      backlog.waiting other ++ if key = other then [item] else [] := by
  by_cases same : key = other <;> simp [waiting, push, List.filter_append, same]

theorem has_eq_true_iff (backlog : Backlog Key Item) (key : Key) :
    backlog.has key = true ↔ backlog.waiting key ≠ [] := by
  simp only [has, List.any_eq_true, decide_eq_true_eq, waiting, ne_eq, List.map_eq_nil_iff,
    List.filter_eq_nil_iff]
  constructor
  · rintro ⟨entry, member, same⟩ absent
    exact absent entry member same
  · intro present
    rcases Classical.not_forall.mp present with ⟨entry, there⟩
    rcases Classical.not_imp.mp there with ⟨member, same⟩
    exact ⟨entry, member, Classical.not_not.mp same⟩

theorem takeFirst_eq_none_iff (key : Key) (entries : List (Key × Item)) :
    takeFirst key entries = none ↔ entries.filter (fun entry => entry.1 = key) = [] := by
  induction entries with
  | nil => simp [takeFirst]
  | cons entry rest ih =>
    by_cases same : entry.1 = key
    · simp [takeFirst, same]
    · simp only [takeFirst, same, if_false, Option.map_eq_none_iff, ih, decide_false,
        Bool.false_eq_true, not_false_eq_true, List.filter_cons_of_neg]

theorem takeFirst_filter {key : Key} {entries others : List (Key × Item)} {item : Item}
    (taken : takeFirst key entries = some (item, others)) (other : Key) :
    (entries.filter (fun entry => entry.1 = other)).map Prod.snd =
      (if key = other then [item] else []) ++
        (others.filter (fun entry => entry.1 = other)).map Prod.snd := by
  induction entries generalizing others with
  | nil => simp [takeFirst] at taken
  | cons entry rest ih =>
    by_cases same : entry.1 = key
    · simp only [takeFirst, same, if_true, Option.some.injEq, Prod.mk.injEq] at taken
      obtain ⟨rfl, rfl⟩ := taken
      by_cases here : key = other <;> simp [same, here]
    · simp only [takeFirst, same, if_false, Option.map_eq_some_iff, Prod.mk.injEq,
        Prod.exists] at taken
      obtain ⟨found, left, taken, rfl, rfl⟩ := taken
      have tail := ih taken
      by_cases here : entry.1 = other
      · have different : key ≠ other := fun equal => same (here.trans equal.symm)
        simp [here, different, tail]
      · simp [here, tail]

theorem waiting_of_pop? {backlog rest : Backlog Key Item} {key : Key} {item : Item}
    (popped : backlog.pop? key = some (item, rest)) (other : Key) :
    backlog.waiting other = (if key = other then [item] else []) ++ rest.waiting other := by
  simp only [pop?, Option.map_eq_some_iff, Prod.mk.injEq, Prod.exists] at popped
  obtain ⟨_, _, taken, rfl, rfl⟩ := popped
  exact takeFirst_filter taken other

theorem pop?_eq_none_iff (backlog : Backlog Key Item) (key : Key) :
    backlog.pop? key = none ↔ backlog.waiting key = [] := by
  simp [pop?, waiting, takeFirst_eq_none_iff]

theorem sublist_of_takeFirst {key : Key} {entries others : List (Key × Item)} {item : Item}
    (taken : takeFirst key entries = some (item, others)) : others.Sublist entries := by
  induction entries generalizing others with
  | nil => simp [takeFirst] at taken
  | cons entry rest ih =>
    rw [takeFirst] at taken
    split at taken
    · cases taken
      exact List.sublist_cons_self entry rest
    · obtain ⟨⟨found, left⟩, later, same⟩ := Option.map_eq_some_iff.mp taken
      cases same
      exact (ih later).cons_cons entry

theorem sublist_of_pop? {backlog rest : Backlog Key Item} {key : Key} {item : Item}
    (popped : backlog.pop? key = some (item, rest)) : rest.entries.Sublist backlog.entries := by
  obtain ⟨⟨found, left⟩, taken, same⟩ := Option.map_eq_some_iff.mp popped
  cases same
  exact sublist_of_takeFirst taken

end Backlog

end Masquerade
