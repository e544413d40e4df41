import Masquerade.Address.Basic
import Masquerade.RecentMap

/-!
# Tables of flows

A table holds at most one record for each flow, and not more records than its
capacity.  Looking a record up or changing it is no use of it; putting one in and
`touch` are.
-/

set_option autoImplicit false

namespace Masquerade

structure FlowTable (Record : Type) extends RecentMap Flow Record
  deriving Repr

namespace FlowTable

variable {Record : Type}

def empty (capacity : Nat) : FlowTable Record := ⟨.empty capacity⟩

def size (table : FlowTable Record) : Nat := table.toRecentMap.size

def isEmpty (table : FlowTable Record) : Bool := table.rows.isEmpty

def isFull (table : FlowTable Record) : Bool := decide (table.capacity ≤ table.size)

def flows (table : FlowTable Record) : List Flow := table.keys

def get? (table : FlowTable Record) (flow : Flow) : Option Record := table.peek flow

def contains (table : FlowTable Record) (flow : Flow) : Bool := table.toRecentMap.contains flow

def others (table : FlowTable Record) (flow : Flow) : List (Flow × Record) := table.without flow

def set (table : FlowTable Record) (flow : Flow) (record : Record) : FlowTable Record :=
  ⟨table.replace flow record⟩

def touch (table : FlowTable Record) (flow : Flow) : FlowTable Record := ⟨table.promote flow⟩

/-- Puts a new record in; refused where the flow has one or the table is full. -/
def insert? (table : FlowTable Record) (flow : Flow) (record : Record) :
    Option (FlowTable Record) :=
  if table.contains flow || table.isFull then none else some ⟨(table.put flow record).2⟩

/-- Puts a record in and returns the row that makes room for it: the old record
of the flow, or else, in a full table, the least recently used row. -/
def insertEvicting (table : FlowTable Record) (flow : Flow) (record : Record) :
    Option (Flow × Record) × FlowTable Record :=
  ((table.push flow record).1, ⟨(table.push flow record).2⟩)

def remove (table : FlowTable Record) (flow : Flow) : Option Record × FlowTable Record :=
  ((table.pop flow).1, ⟨(table.pop flow).2⟩)

/-! ## In terms of the rows -/

@[simp] theorem rows_empty (capacity : Nat) : (empty capacity : FlowTable Record).rows = [] := rfl

theorem size_eq (table : FlowTable Record) : table.size = table.rows.length := rfl

theorem flows_eq (table : FlowTable Record) : table.flows = table.rows.map Prod.fst := rfl

theorem get?_eq (table : FlowTable Record) (flow : Flow) :
    table.get? flow = (table.rows.find? (fun row => row.1 = flow)).map Prod.snd := rfl

theorem others_eq (table : FlowTable Record) (flow : Flow) :
    table.others flow = table.rows.filter (fun row => row.1 ≠ flow) := rfl

theorem set_eq (table : FlowTable Record) (flow : Flow) (record : Record) :
    table.set flow record =
      { table with rows := table.rows.map fun row => if row.1 = flow then (flow, record) else row } :=
  rfl

theorem touch_of_none {table : FlowTable Record} {flow : Flow} (absent : table.get? flow = none) :
    table.touch flow = table :=
  congrArg mk (RecentMap.promote_of_none absent)

theorem touch_of_some {table : FlowTable Record} {flow : Flow} {record : Record}
    (found : table.get? flow = some record) :
    table.touch flow = { table with rows := (flow, record) :: table.others flow } :=
  congrArg mk (RecentMap.promote_of_some found)

theorem insert?_eq (table : FlowTable Record) (flow : Flow) (record : Record) :
    table.insert? flow record =
      if table.contains flow || table.isFull then none
      else some { table with rows := (flow, record) :: table.rows } := by
  unfold insert?
  split
  · rfl
  · rename_i free
    simp only [contains, RecentMap.contains_eq_isSome, isFull, Bool.or_eq_true,
      decide_eq_true_eq, not_or, Option.not_isSome_iff_eq_none, Nat.not_le] at free
    rw [RecentMap.put, RecentMap.push_of_room record free.1 free.2]

theorem insertEvicting_of_some {table : FlowTable Record} {flow : Flow} {old : Record}
    (record : Record) (found : table.get? flow = some old) :
    table.insertEvicting flow record =
      (some (flow, old), { table with rows := (flow, record) :: table.others flow }) := by
  rw [insertEvicting, RecentMap.push_of_some record found]
  rfl

theorem insertEvicting_of_full {table : FlowTable Record} {flow : Flow} (record : Record)
    (absent : table.get? flow = none) (full : table.isFull = true) :
    table.insertEvicting flow record =
      (table.rows.getLast?, { table with rows := (flow, record) :: table.rows.dropLast }) := by
  rw [insertEvicting, RecentMap.push_of_full record absent (of_decide_eq_true full)]

theorem insertEvicting_of_room {table : FlowTable Record} {flow : Flow} (record : Record)
    (absent : table.get? flow = none) (room : table.isFull = false) :
    table.insertEvicting flow record =
      (none, { table with rows := (flow, record) :: table.rows }) := by
  have free : table.size < table.capacity := Nat.not_le.mp (of_decide_eq_false room)
  rw [insertEvicting, RecentMap.push_of_room record absent free]

theorem remove_eq (table : FlowTable Record) (flow : Flow) :
    table.remove flow = (table.get? flow, { table with rows := table.others flow }) := rfl

/-! ## Looking up -/

theorem contains_eq_isSome (table : FlowTable Record) (flow : Flow) :
    table.contains flow = (table.get? flow).isSome :=
  table.toRecentMap.contains_eq_isSome flow

theorem contains_eq_true_iff (table : FlowTable Record) (flow : Flow) :
    table.contains flow = true ↔ flow ∈ table.flows :=
  table.toRecentMap.contains_eq_true_iff flow

@[simp] theorem flows_set (table : FlowTable Record) (flow : Flow) (record : Record) :
    (table.set flow record).flows = table.flows :=
  table.keys_replace flow record

theorem get?_set (table : FlowTable Record) (flow other : Flow) (record : Record) :
    (table.set flow record).get? other =
      if flow = other then (table.get? flow).map (fun _ => record) else table.get? other :=
  table.peek_replace flow other record

end FlowTable

end Masquerade
