/-!
# Maps in the order of last use

A map of bounded size whose rows stand in the order of their last use.  To look a value up
or to change it where it stands is no use; to promote a key and to put a value in are.  The
laws below say what each operation does to the rows: `promote` and `put` bring a row to the
front and keep the order of all others, and where the map is full, `push` takes the last row
to make room for a new key.
-/

set_option autoImplicit false

namespace Masquerade

structure RecentMap (Key Value : Type) where
  capacity : Nat
  /-- The most recently used row comes first. -/
  rows : List (Key × Value)
  deriving Repr

namespace RecentMap

variable {Key Value : Type}

def empty (capacity : Nat) : RecentMap Key Value := ⟨capacity, []⟩

def size (map : RecentMap Key Value) : Nat := map.rows.length

def keys (map : RecentMap Key Value) : List Key := map.rows.map Prod.fst

variable [DecidableEq Key]

def peek (map : RecentMap Key Value) (key : Key) : Option Value :=
  (map.rows.find? (fun row => row.1 = key)).map Prod.snd

def contains (map : RecentMap Key Value) (key : Key) : Bool :=
  map.rows.any (fun row => row.1 = key)

def without (map : RecentMap Key Value) (key : Key) : List (Key × Value) :=
  map.rows.filter (fun row => row.1 ≠ key)

def replace (map : RecentMap Key Value) (key : Key) (value : Value) : RecentMap Key Value :=
  { map with rows := map.rows.map fun row => if row.1 = key then (key, value) else row }

def promote (map : RecentMap Key Value) (key : Key) : RecentMap Key Value :=
  match map.peek key with
  | none => map
  | some value => { map with rows := (key, value) :: map.without key }

/-- Puts a value in and returns the row that makes room for it: the old one of the key, or
else, in a full map, the least recently used one. -/
def push (map : RecentMap Key Value) (key : Key) (value : Value) :
    Option (Key × Value) × RecentMap Key Value :=
  match map.peek key with
  | some old => (some (key, old), { map with rows := (key, value) :: map.without key })
  | none =>
    if map.capacity ≤ map.size then
      (map.rows.getLast?, { map with rows := (key, value) :: map.rows.dropLast })
    else (none, { map with rows := (key, value) :: map.rows })

/-- Like `push`, but returns the old value of the key only. -/
def put (map : RecentMap Key Value) (key : Key) (value : Value) :
    Option Value × RecentMap Key Value :=
  (map.peek key, (map.push key value).2)

def pop (map : RecentMap Key Value) (key : Key) : Option Value × RecentMap Key Value :=
  (map.peek key, { map with rows := map.without key })

/-! ## Looking up -/

theorem contains_eq_isSome (map : RecentMap Key Value) (key : Key) :
    map.contains key = (map.peek key).isSome := by
  simp only [contains, peek, Option.isSome_map]
  induction map.rows with
  | nil => rfl
  | cons row rest ih => by_cases same : row.1 = key <;> simp [same, ih]

theorem contains_eq_true_iff (map : RecentMap Key Value) (key : Key) :
    map.contains key = true ↔ key ∈ map.keys := by
  simp only [contains, keys, List.any_eq_true, decide_eq_true_eq, List.mem_map]

@[simp] theorem keys_replace (map : RecentMap Key Value) (key : Key) (value : Value) :
    (map.replace key value).keys = map.keys := by
  simp only [keys, replace, List.map_map]
  apply List.map_congr_left
  intro row _
  by_cases same : row.1 = key <;> simp [same]

theorem peek_replace (map : RecentMap Key Value) (key other : Key) (value : Value) :
    (map.replace key value).peek other =
      if key = other then (map.peek key).map (fun _ => value) else map.peek other := by
  simp only [peek, replace]
  induction map.rows with
  | nil => by_cases same : key = other <;> simp [same]
  | cons row rest ih =>
    simp only [List.map_cons, List.find?_cons]
    by_cases same : key = other
    · subst same
      rw [if_pos rfl] at ih ⊢
      by_cases here : row.1 = key
      · simp [here]
      · simpa only [here, if_false, decide_false] using ih
    · rw [if_neg same] at ih ⊢
      by_cases here : row.1 = key
      · have away : row.1 ≠ other := fun equal => same (here.symm.trans equal)
        simpa only [here, if_true, same, decide_false, away] using ih
      · by_cases there : row.1 = other
        · rw [if_neg here]
          simp only [there, decide_true]
        · simpa only [here, if_false, there, decide_false] using ih

theorem find?_without (map : RecentMap Key Value) {key other : Key} (away : key ≠ other) :
    (map.without key).find? (fun row => row.1 = other) =
      map.rows.find? (fun row => row.1 = other) := by
  rw [without, List.find?_filter]
  congr 1
  funext row
  by_cases there : row.1 = other
  · have apart : other ≠ key := fun equal => away equal.symm
    simp [there, apart]
  · simp [there]

theorem peek_pop (map : RecentMap Key Value) (key other : Key) :
    (map.pop key).2.peek other = if key = other then none else map.peek other := by
  by_cases same : key = other
  · subst same
    simp [pop, without, peek]
  · simp only [pop, peek, find?_without map same, if_neg same]

/-! ## Uses -/

theorem promote_of_none {map : RecentMap Key Value} {key : Key} (absent : map.peek key = none) :
    map.promote key = map := by
  rw [promote, absent]

theorem promote_of_some {map : RecentMap Key Value} {key : Key} {value : Value}
    (found : map.peek key = some value) :
    map.promote key = { map with rows := (key, value) :: map.without key } := by
  rw [promote, found]

theorem peek_promote (map : RecentMap Key Value) (key other : Key) :
    (map.promote key).peek other = map.peek other := by
  cases found : map.peek key with
  | none => rw [promote_of_none found]
  | some value =>
      rw [promote_of_some found]
      by_cases same : key = other
      · subst same
        simp [peek, found.symm]
      · simp [peek, same, find?_without map same]

theorem push_of_some {map : RecentMap Key Value} {key : Key} {old : Value} (value : Value)
    (found : map.peek key = some old) :
    map.push key value = (some (key, old), { map with rows := (key, value) :: map.without key }) := by
  rw [push, found]

theorem push_of_full {map : RecentMap Key Value} {key : Key} (value : Value)
    (absent : map.peek key = none) (full : map.capacity ≤ map.size) :
    map.push key value =
      (map.rows.getLast?, { map with rows := (key, value) :: map.rows.dropLast }) := by
  rw [push, absent]
  exact if_pos full

theorem push_of_room {map : RecentMap Key Value} {key : Key} (value : Value)
    (absent : map.peek key = none) (room : map.size < map.capacity) :
    map.push key value = (none, { map with rows := (key, value) :: map.rows }) := by
  rw [push, absent]
  exact if_neg (Nat.not_le.mpr room)

end RecentMap

end Masquerade
