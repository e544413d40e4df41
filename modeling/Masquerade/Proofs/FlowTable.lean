import Mathlib.Data.List.Nodup
import Masquerade.FlowTable

/-!
# Where the row of a flow stands

In a table without repeated flows the row of a flow splits all rows into those
before it and those behind it.  Each operation on that flow is read off this
split: it changes the row, moves it to the front or takes it out, and keeps both
sides as they are.
-/

set_option autoImplicit false

namespace Masquerade.FlowTable

variable {Record : Type}

theorem mem_rows_of_get? {table : FlowTable Record} {flow : Flow} {record : Record}
    (found : table.get? flow = some record) : (flow, record) ∈ table.rows := by
  obtain ⟨row, first, rfl⟩ := Option.map_eq_some_iff.mp found
  have here : row.1 = flow := by simpa using List.find?_some first
  rw [← here]
  exact List.mem_of_find?_eq_some first

theorem mem_flows_of_mem_rows {table : FlowTable Record} {flow : Flow} {record : Record}
    (member : (flow, record) ∈ table.rows) : flow ∈ table.flows :=
  List.mem_map.mpr ⟨(flow, record), member, rfl⟩

theorem get?_eq_none_iff (table : FlowTable Record) (flow : Flow) :
    table.get? flow = none ↔ flow ∉ table.flows := by
  rw [← contains_eq_true_iff, contains_eq_isSome]
  cases table.get? flow <;> simp

theorem get?_of_no_rows {table : FlowTable Record} (none : table.rows = []) (flow : Flow) :
    table.get? flow = Option.none := by
  rw [get?_eq, none]
  rfl

theorem get?_of_mem_rows {table : FlowTable Record} (distinct : table.flows.Nodup)
    {row : Flow × Record} (member : row ∈ table.rows) : table.get? row.1 = some row.2 := by
  cases found : table.get? row.1 with
  | none => exact absurd (mem_flows_of_mem_rows member) ((get?_eq_none_iff ..).mp found)
  | some record =>
      have same := List.inj_on_of_nodup_map distinct (mem_rows_of_get? found) member rfl
      rw [← same]

/-! ## The split at a flow -/

theorem exists_split {table : FlowTable Record} {flow : Flow} {record : Record}
    (distinct : table.flows.Nodup) (found : table.get? flow = some record) :
    ∃ front back, table.rows = front ++ (flow, record) :: back ∧
      (∀ row ∈ front, row.1 ≠ flow) ∧ ∀ row ∈ back, row.1 ≠ flow := by
  obtain ⟨front, back, rows⟩ := List.append_of_mem (mem_rows_of_get? found)
  rw [flows_eq, rows, List.map_append, List.map_cons, List.nodup_append] at distinct
  obtain ⟨_, backDistinct, apart⟩ := distinct
  refine ⟨front, back, rows, ?_, ?_⟩
  · intro row member
    exact apart row.1 (List.mem_map_of_mem member) flow (List.mem_cons_self ..)
  · intro row member same
    have repeated : flow ∈ back.map Prod.fst := same ▸ List.mem_map_of_mem member
    exact (List.nodup_cons.mp backDistinct).1 repeated

section Split

variable {table : FlowTable Record} {flow : Flow} {record : Record} {front back : List (Flow × Record)}

theorem others_of_split (rows : table.rows = front ++ (flow, record) :: back)
    (before : ∀ row ∈ front, row.1 ≠ flow) (behind : ∀ row ∈ back, row.1 ≠ flow) :
    table.others flow = front ++ back := by
  have frontKept : front.filter (fun row => row.1 ≠ flow) = front :=
    List.filter_eq_self.mpr fun row member => by simpa using before row member
  have backKept : back.filter (fun row => row.1 ≠ flow) = back :=
    List.filter_eq_self.mpr fun row member => by simpa using behind row member
  rw [others_eq, rows, List.filter_append, List.filter_cons_of_neg (by simp), frontKept, backKept]

theorem rows_set_of_split (replacement : Record)
    (rows : table.rows = front ++ (flow, record) :: back)
    (before : ∀ row ∈ front, row.1 ≠ flow) (behind : ∀ row ∈ back, row.1 ≠ flow) :
    (table.set flow replacement).rows = front ++ (flow, replacement) :: back := by
  have kept : ∀ side : List (Flow × Record), (∀ row ∈ side, row.1 ≠ flow) →
      side.map (fun row => if row.1 = flow then (flow, replacement) else row) = side := by
    intro side away
    rw [List.map_congr_left fun row member => if_neg (away row member), List.map_id']
  simp only [set_eq, rows, List.map_append, List.map_cons, kept front before, kept back behind,
    if_true]

end Split

/-! ## Rows after an operation -/

theorem others_touch (table : FlowTable Record) (flow : Flow) :
    (table.touch flow).others flow = table.others flow := by
  cases found : table.get? flow with
  | none => rw [touch_of_none found]
  | some record =>
      rw [touch_of_some found]
      simp [others_eq, List.filter_filter]

theorem others_set (table : FlowTable Record) (flow : Flow) (record : Record) :
    (table.set flow record).others flow = table.others flow := by
  simp only [others_eq, set_eq]
  induction table.rows with
  | nil => rfl
  | cons row rest ih =>
    by_cases here : row.1 = flow
    · simpa [here] using ih
    · simpa [here] using ih

theorem remove_set (table : FlowTable Record) (flow : Flow) (record : Record) :
    ((table.set flow record).remove flow).2 = (table.remove flow).2 := by
  rw [remove_eq, remove_eq, others_set]
  rfl

theorem capacity_touch (table : FlowTable Record) (flow : Flow) :
    (table.touch flow).capacity = table.capacity := by
  cases found : table.get? flow with
  | none => rw [touch_of_none found]
  | some record => rw [touch_of_some found]

theorem remove_touch (table : FlowTable Record) (flow : Flow) :
    ((table.touch flow).remove flow).2 = (table.remove flow).2 := by
  rw [remove_eq, remove_eq, others_touch, capacity_touch]

theorem rows_perm_others {table : FlowTable Record} {flow : Flow} {record : Record}
    (distinct : table.flows.Nodup) (found : table.get? flow = some record) :
    table.rows.Perm ((flow, record) :: table.others flow) := by
  obtain ⟨front, back, rows, before, behind⟩ := exists_split distinct found
  rw [others_of_split rows before behind, rows]
  exact List.perm_middle

theorem rows_touch_perm {table : FlowTable Record} (flow : Flow)
    (distinct : table.flows.Nodup) : (table.touch flow).rows.Perm table.rows := by
  cases found : table.get? flow with
  | none => rw [touch_of_none found]
  | some record =>
      rw [touch_of_some found]
      exact (rows_perm_others distinct found).symm

/-- What a change leaves as it is in the record is still there, and where it was. -/
theorem map_rows_set {α : Type} (view : Flow × Record → α) {table : FlowTable Record}
    {flow : Flow} {record replacement : Record} (distinct : table.flows.Nodup)
    (found : table.get? flow = some record) (same : view (flow, replacement) = view (flow, record)) :
    (table.set flow replacement).rows.map view = table.rows.map view := by
  obtain ⟨front, back, rows, before, behind⟩ := exists_split distinct found
  rw [rows_set_of_split replacement rows before behind, rows, List.map_append, List.map_append,
    List.map_cons, List.map_cons, same]

theorem rows_touch {table : FlowTable Record} {flow : Flow} {record : Record}
    (found : table.get? flow = some record) :
    (table.touch flow).rows = (flow, record) :: table.others flow := by
  rw [touch_of_some found]

theorem others_of_front {table : FlowTable Record} {flow : Flow} {record : Record}
    {rest : List (Flow × Record)} (distinct : table.flows.Nodup)
    (rows : table.rows = (flow, record) :: rest) : table.others flow = rest := by
  rw [flows_eq, rows, List.map_cons, List.nodup_cons] at distinct
  have split : table.rows = [] ++ (flow, record) :: rest := rows
  refine others_of_split split (fun _ none => absurd none List.not_mem_nil) fun row member same => ?_
  have repeated : flow ∈ rest.map Prod.fst := same ▸ List.mem_map_of_mem member
  exact distinct.1 repeated

theorem rows_of_insert? {table after : FlowTable Record} {flow : Flow} {record : Record}
    (put : table.insert? flow record = some after) : after.rows = (flow, record) :: table.rows := by
  rw [insert?_eq] at put
  split at put
  · cases put
  · cases put
    rfl

theorem insert?_of_room {table : FlowTable Record} {flow : Flow} (record : Record)
    (absent : table.get? flow = none) (room : table.isFull = false) :
    table.insert? flow record = some { table with rows := (flow, record) :: table.rows } := by
  rw [insert?_eq, contains_eq_isSome, absent, room]
  rfl

/-- Where the flow has no record, the last row goes if the table is full, and none otherwise. -/
theorem insertEvicting_of_none {table after : FlowTable Record} {flow : Flow} {record : Record}
    {evicted : Option (Flow × Record)} (absent : table.get? flow = none)
    (put : table.insertEvicting flow record = (evicted, after)) :
    (table.isFull = true ∧ evicted = table.rows.getLast? ∧
      after.rows = (flow, record) :: table.rows.dropLast) ∨
    (table.isFull = false ∧ evicted = none ∧ after.rows = (flow, record) :: table.rows) := by
  cases full : table.isFull with
  | true =>
      rw [insertEvicting_of_full record absent full] at put
      cases put
      exact Or.inl ⟨rfl, rfl, rfl⟩
  | false =>
      rw [insertEvicting_of_room record absent full] at put
      cases put
      exact Or.inr ⟨rfl, rfl, rfl⟩

theorem rows_of_insertEvicting_none {table after : FlowTable Record} {flow : Flow}
    {record : Record} (absent : table.get? flow = none)
    (put : table.insertEvicting flow record = (none, after)) :
    after.rows = (flow, record) :: table.rows := by
  rcases insertEvicting_of_none absent put with ⟨_, last, rows⟩ | ⟨_, _, rows⟩
  · rw [rows, List.getLast?_eq_none_iff.mp last.symm]
    rfl
  · exact rows

theorem rows_of_insertEvicting_some {table after : FlowTable Record} {flow : Flow}
    {record : Record} {evicted : Flow × Record} (absent : table.get? flow = none)
    (put : table.insertEvicting flow record = (some evicted, after)) :
    ∃ front, table.rows = front ++ [evicted] ∧ after.rows = (flow, record) :: front := by
  rcases insertEvicting_of_none absent put with ⟨_, last, rows⟩ | ⟨_, none, _⟩
  · obtain ⟨front, before⟩ := List.getLast?_eq_some_iff.mp last.symm
    exact ⟨front, before, by rw [rows, before, List.dropLast_concat]⟩
  · cases none

/-- All rows stay where there is room for one more, and all but the last where there is none. -/
structure MakesRoom (table : FlowTable Record) (others : List (Flow × Record)) : Prop where
  room : table.size < table.capacity → others = table.rows
  full : table.capacity ≤ table.size → ∃ evicted, table.rows = others ++ [evicted]

theorem MakesRoom.sublist {table : FlowTable Record} {others : List (Flow × Record)}
    (makesRoom : table.MakesRoom others) : others.Sublist table.rows := by
  rcases Nat.lt_or_ge table.size table.capacity with free | full
  · rw [makesRoom.room free]
  · obtain ⟨evicted, rows⟩ := makesRoom.full full
    exact rows ▸ List.sublist_append_left ..

/-- Putting a record in takes the last row at most, and only where there is no room. -/
theorem rows_of_insertEvicting {table after : FlowTable Record} {flow : Flow} {record : Record}
    {evicted : Option (Flow × Record)} (absent : table.get? flow = none)
    (positive : 0 < table.capacity)
    (put : table.insertEvicting flow record = (evicted, after)) :
    ∃ others, after.rows = (flow, record) :: others ∧ table.MakesRoom others := by
  rcases insertEvicting_of_none absent put with ⟨isFull, _, rows⟩ | ⟨notFull, _, rows⟩
  · have full := of_decide_eq_true isFull
    have nonempty : table.rows ≠ [] :=
      List.ne_nil_of_length_pos (Nat.lt_of_lt_of_le positive full)
    exact ⟨_, rows, fun free => absurd full (Nat.not_le.mpr free),
      fun _ => ⟨_, (List.dropLast_concat_getLast nonempty).symm⟩⟩
  · exact ⟨_, rows, fun _ => rfl, fun full => absurd full (of_decide_eq_false notFull)⟩

theorem capacity_insertEvicting {table after : FlowTable Record} {flow : Flow} {record : Record}
    {evicted : Option (Flow × Record)}
    (put : table.insertEvicting flow record = (evicted, after)) :
    after.capacity = table.capacity := by
  cases found : table.get? flow with
  | some old =>
      rw [insertEvicting_of_some record found] at put
      cases put
      rfl
  | none =>
      cases full : table.isFull with
      | true =>
          rw [insertEvicting_of_full record found full] at put
          cases put
          rfl
      | false =>
          rw [insertEvicting_of_room record found full] at put
          cases put
          rfl

theorem find?_others (table : FlowTable Record) {flow other : Flow} (away : flow ≠ other) :
    (table.others flow).find? (fun row => row.1 = other) =
      table.rows.find? (fun row => row.1 = other) :=
  table.find?_without away

theorem get?_touch (table : FlowTable Record) (flow other : Flow) :
    (table.touch flow).get? other = table.get? other :=
  table.peek_promote flow other

theorem get?_remove (table : FlowTable Record) (flow other : Flow) :
    (table.remove flow).2.get? other = if flow = other then none else table.get? other :=
  table.peek_pop flow other

theorem get?_insert? {table after : FlowTable Record} {flow : Flow} {record : Record}
    (put : table.insert? flow record = some after) (other : Flow) :
    after.get? other = if flow = other then some record else table.get? other := by
  by_cases same : flow = other <;> simp [get?_eq, rows_of_insert? put, same]

theorem get?_insertEvicting {table after : FlowTable Record} {flow : Flow} {record : Record}
    {evicted : Option (Flow × Record)} (absent : table.get? flow = none)
    (put : table.insertEvicting flow record = (evicted, after)) :
    after.get? flow = some record := by
  have first : ∃ rest, after.rows = (flow, record) :: rest := by
    cases evicted with
    | none => exact ⟨_, rows_of_insertEvicting_none absent put⟩
    | some row =>
        obtain ⟨front, _, rows⟩ := rows_of_insertEvicting_some absent put
        exact ⟨front, rows⟩
  obtain ⟨rest, rows⟩ := first
  simp [get?_eq, rows]

theorem get?_of_insertEvicting {table after : FlowTable Record} {flow other : Flow}
    {record found : Record} {evicted : Option (Flow × Record)} (absent : table.get? flow = none)
    (distinct : table.flows.Nodup)
    (put : table.insertEvicting flow record = (evicted, after)) (away : flow ≠ other)
    (there : after.get? other = some found) : table.get? other = some found := by
  have fewer : ∃ rest, after.rows = (flow, record) :: rest ∧ ∀ row ∈ rest, row ∈ table.rows := by
    cases evicted with
    | none => exact ⟨_, rows_of_insertEvicting_none absent put, fun row member => member⟩
    | some row =>
        obtain ⟨front, before, rows⟩ := rows_of_insertEvicting_some absent put
        exact ⟨front, rows, fun row member => before ▸ List.mem_append_left _ member⟩
  obtain ⟨rest, rows, old⟩ := fewer
  have member := mem_rows_of_get? there
  rw [rows] at member
  rcases List.mem_cons.mp member with new | later
  · exact absurd (congrArg Prod.fst new).symm away
  · exact get?_of_mem_rows distinct (old _ later)

theorem get?_insertEvicting_away {table after : FlowTable Record} {flow other : Flow}
    {record : Record} {evicted : Option (Flow × Record)} (absent : table.get? flow = none)
    (put : table.insertEvicting flow record = (evicted, after)) (away : flow ≠ other)
    (spared : ∀ row ∈ evicted, row.1 ≠ other) : after.get? other = table.get? other := by
  have behind : ∀ rest : List (Flow × Record), after.rows = (flow, record) :: rest →
      after.get? other = (rest.find? (fun row => row.1 = other)).map Prod.snd := by
    intro rest rows
    rw [get?_eq, rows, List.find?_cons_of_neg (by simpa using away)]
  cases evicted with
  | none => exact behind _ (rows_of_insertEvicting_none absent put)
  | some row =>
      obtain ⟨front, before, rows⟩ := rows_of_insertEvicting_some absent put
      have last : [row].find? (fun row => row.1 = other) = none :=
        List.find?_cons_of_neg (by simpa using spared row rfl)
      rw [behind front rows, get?_eq, before, List.find?_append, last, Option.or_none]

theorem evicted_of_insertEvicting {table after : FlowTable Record} {flow : Flow}
    {record : Record} {evicted : Flow × Record} (absent : table.get? flow = none)
    (distinct : table.flows.Nodup)
    (put : table.insertEvicting flow record = (some evicted, after)) :
    table.isFull = true ∧ flow ≠ evicted.1 ∧ table.get? evicted.1 = some evicted.2 ∧
      after.get? evicted.1 = none := by
  obtain ⟨front, before, rows⟩ := rows_of_insertEvicting_some absent put
  have there : evicted ∈ table.rows := before ▸ List.mem_append_right _ (List.mem_singleton_self _)
  have found := get?_of_mem_rows distinct there
  have away : flow ≠ evicted.1 := by
    intro same
    rw [← same, absent] at found
    cases found
  refine ⟨?_, away, found, ?_⟩
  · rcases insertEvicting_of_none absent put with ⟨full, _⟩ | ⟨_, none, _⟩
    · exact full
    · cases none
  · rw [flows_eq, before, List.map_append, List.nodup_append] at distinct
    refine (get?_eq_none_iff ..).mpr fun member => ?_
    rw [flows_eq, rows, List.map_cons] at member
    rcases List.mem_cons.mp member with same | inside
    · exact away same.symm
    · exact distinct.2.2 _ inside _ (List.mem_singleton_self _) rfl

/-! ## Sizes -/

theorem capacity_of_insert? {table after : FlowTable Record} {flow : Flow} {record : Record}
    (put : table.insert? flow record = some after) : after.capacity = table.capacity := by
  rw [insert?_eq] at put
  split at put
  · cases put
  · cases put
    rfl

def WithinCapacity (table : FlowTable Record) : Prop := table.size ≤ table.capacity

namespace WithinCapacity

variable {table after : FlowTable Record} {flow : Flow} {record : Record}

theorem of_length_le (within : table.WithinCapacity) (fewer : after.size ≤ table.size)
    (same : after.capacity = table.capacity) : after.WithinCapacity := by
  rw [WithinCapacity, same]
  exact Nat.le_trans fewer within

theorem set (within : table.WithinCapacity) : (table.set flow record).WithinCapacity :=
  within.of_length_le (Nat.le_of_eq (List.length_map ..)) rfl

theorem touch (within : table.WithinCapacity) (distinct : table.flows.Nodup) :
    (table.touch flow).WithinCapacity :=
  within.of_length_le (Nat.le_of_eq (rows_touch_perm flow distinct).length_eq)
    (capacity_touch table flow)

theorem remove (within : table.WithinCapacity) : (table.remove flow).2.WithinCapacity :=
  within.of_length_le (List.length_filter_le ..) rfl

theorem insert? (put : table.insert? flow record = some after) : after.WithinCapacity := by
  have room : table.size < table.capacity := by
    unfold FlowTable.insert? at put
    split at put
    · cases put
    · rename_i free
      simp only [isFull, Bool.or_eq_true, decide_eq_true_eq, not_or, Nat.not_le] at free
      exact free.2
  rw [WithinCapacity, capacity_of_insert? put, size_eq, rows_of_insert? put, List.length_cons]
  exact room

/-- A table with room for any record at all never holds more than it may. -/
theorem insertEvicting {evicted : Option (Flow × Record)} (within : table.WithinCapacity)
    (absent : table.get? flow = none) (positive : 0 < table.capacity)
    (put : table.insertEvicting flow record = (evicted, after)) : after.WithinCapacity := by
  obtain ⟨others, rows, makesRoom⟩ := rows_of_insertEvicting absent positive put
  rw [WithinCapacity, capacity_insertEvicting put, size_eq, rows, List.length_cons]
  rcases Nat.lt_or_ge table.size table.capacity with free | full
  · rw [makesRoom.room free]
    exact free
  · obtain ⟨last, split⟩ := makesRoom.full full
    rw [WithinCapacity, size_eq, split, List.length_append] at within
    exact within

end WithinCapacity

/-! ## What all rows have in common -/

/-- No flow is repeated, and each record fits its flow. -/
structure Holds (table : FlowTable Record) (Fits : Flow → Record → Prop) : Prop where
  distinct : table.flows.Nodup
  fits : ∀ row ∈ table.rows, Fits row.1 row.2

namespace Holds

variable {Fits : Flow → Record → Prop} {table after : FlowTable Record} {flow : Flow}
  {record : Record}

theorem get (holds : table.Holds Fits) (found : table.get? flow = some record) :
    Fits flow record := holds.fits (flow, record) (mem_rows_of_get? found)

theorem perm (holds : table.Holds Fits) (same : after.rows.Perm table.rows) : after.Holds Fits :=
  ⟨(same.map Prod.fst).nodup_iff.mpr holds.distinct,
    fun row member => holds.fits row (same.mem_iff.mp member)⟩

theorem sublist (holds : table.Holds Fits) (fewer : after.rows.Sublist table.rows) :
    after.Holds Fits :=
  ⟨holds.distinct.sublist (fewer.map Prod.fst), fun row member => holds.fits row (fewer.mem member)⟩

theorem cons (holds : table.Holds Fits) (absent : flow ∉ table.flows) (fit : Fits flow record)
    (rows : after.rows = (flow, record) :: table.rows) : after.Holds Fits := by
  constructor
  · rw [flows_eq, rows, List.map_cons]
    exact List.nodup_cons.mpr ⟨absent, holds.distinct⟩
  · rw [rows]
    exact List.forall_mem_cons.mpr ⟨fit, holds.fits⟩

theorem touch (holds : table.Holds Fits) (flow : Flow) : (table.touch flow).Holds Fits :=
  holds.perm (rows_touch_perm flow holds.distinct)

theorem remove (holds : table.Holds Fits) (flow : Flow) : (table.remove flow).2.Holds Fits :=
  holds.sublist List.filter_sublist

theorem set (holds : table.Holds Fits) {replacement : Record} (fit : Fits flow replacement) :
    (table.set flow replacement).Holds Fits := by
  refine ⟨by rw [flows_set]; exact holds.distinct, fun row member => ?_⟩
  obtain ⟨old, there, rfl⟩ := List.mem_map.mp member
  split
  · exact fit
  · exact holds.fits old there

theorem insert? (holds : table.Holds Fits) (absent : table.get? flow = none)
    (fit : Fits flow record) (put : table.insert? flow record = some after) : after.Holds Fits :=
  holds.cons ((get?_eq_none_iff ..).mp absent) fit (rows_of_insert? put)

theorem insertEvicting {evicted : Option (Flow × Record)} (holds : table.Holds Fits)
    (absent : table.get? flow = none) (fit : Fits flow record)
    (put : table.insertEvicting flow record = (evicted, after)) : after.Holds Fits := by
  have missing := (get?_eq_none_iff ..).mp absent
  cases evicted with
  | none => exact holds.cons missing fit (rows_of_insertEvicting_none absent put)
  | some evicted =>
      obtain ⟨front, rows, afterRows⟩ := rows_of_insertEvicting_some absent put
      have fewer : front.Sublist table.rows := rows ▸ List.sublist_append_left ..
      have rest : FlowTable.Holds ⟨table.capacity, front⟩ Fits := holds.sublist fewer
      exact rest.cons (fun member => missing ((fewer.map Prod.fst).mem member)) fit afterRows

end Holds

end Masquerade.FlowTable
