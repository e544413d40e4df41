import Mathlib.Data.List.Perm.Subperm
import Masquerade.Proofs.FlowTable

/-!
# What the past of a table says about it

All that is asked of a table and all that comes back is its past.  The past alone says which
flows are there, which record each of them has and when it was last used: it counts as a
use to be put in, or touched while there.  A table of any capacity but zero keeps to its
past, whatever is asked: its flows stand in the order of these times, and each answer is
the one that can be read off the past.
-/

set_option autoImplicit false

namespace Masquerade.FlowTable

variable {Record : Type}

/-! ## Questions and replies -/

inductive Operation (Record : Type)
  | insert (flow : Flow) (record : Record)
  | insertEvicting (flow : Flow) (record : Record)
  | get (flow : Flow)
  /-- Looks a record up and changes it where it stands. -/
  | change (flow : Flow) (edit : Record → Record)
  | touch (flow : Flow)
  | remove (flow : Flow)
  | contains (flow : Flow)
  | flows

inductive Reply (Record : Type)
  | done
  /-- The record is handed back. -/
  | refused (record : Record)
  /-- The row that made room, where one had to. -/
  | displaced (row : Option (Flow × Record))
  | found (record : Option Record)
  | whether (there : Bool)
  | listed (flows : List Flow)
  deriving DecidableEq

def perform (table : FlowTable Record) : Operation Record → Reply Record × FlowTable Record
  | .insert flow record =>
    match table.insert? flow record with
    | none => (.refused record, table)
    | some after => (.done, after)
  | .insertEvicting flow record =>
    let (row, after) := table.insertEvicting flow record
    (.displaced row, after)
  | .get flow => (.found (table.get? flow), table)
  | .change flow edit =>
    match table.get? flow with
    | none => (.found none, table)
    | some old => (.found (some old), table.set flow (edit old))
  | .touch flow => (.done, table.touch flow)
  | .remove flow =>
    let (old, after) := table.remove flow
    (.found old, after)
  | .contains flow => (.whether (table.contains flow), table)
  | .flows => (.listed table.flows, table)

/-! ## The past -/

/-- What was asked and what came back, the latest first. -/
abbrev Past (Record : Type) := List (Operation Record × Reply Record)

def Operation.mark (now : Nat) (flow : Flow) (before : Option (Record × Nat)) :
    Operation Record → Reply Record → Option (Record × Nat)
  | .insert target record, .done => if target = flow then some (record, now) else before
  | .insertEvicting target record, .displaced row =>
    if target = flow then some (record, now)
    else if row.map Prod.fst = some flow then none
    else before
  | .change target edit, _ =>
    if target = flow then before.map fun (record, time) => (edit record, time) else before
  | .touch target, _ =>
    if target = flow then before.map fun (record, _) => (record, now) else before
  | .remove target, _ => if target = flow then none else before
  | _, _ => before

/-- The record last stored for a flow and the time of its last use, while it is there.  A
time is the number of questions before. -/
def standing (flow : Flow) : Past Record → Option (Record × Nat)
  | [] => none
  | (operation, reply) :: past => operation.mark past.length flow (standing flow past) reply

def lastUse (past : Past Record) (flow : Flow) : Option Nat := (standing flow past).map Prod.snd

def IsThere (past : Past Record) (flow : Flow) : Prop := (standing flow past).isSome = true

def UsedBefore (past : Past Record) (first second : Flow) : Prop :=
  ∃ early late, lastUse past first = some early ∧ lastUse past second = some late ∧ early < late

def IsFullAfter (capacity : Nat) (past : Past Record) : Prop :=
  ∃ flows : List Flow, flows.Nodup ∧ flows.length = capacity ∧ ∀ flow ∈ flows, IsThere past flow

/-! ## What the past says -/

/-- The row that makes room for a flow: its own, or in a full table the one that was used
longest ago. -/
structure MakesRoomFor (capacity : Nat) (past : Past Record) (flow : Flow)
    (row : Option (Flow × Record)) : Prop where
  own : ∀ old time, standing flow past = some (old, time) → row = some (flow, old)
  oldest : ¬ IsThere past flow → IsFullAfter capacity past →
    ∃ victim record time, row = some (victim, record) ∧
      standing victim past = some (record, time) ∧
      ∀ other, IsThere past other → other ≠ victim → UsedBefore past victim other
  free : ¬ IsThere past flow → ¬ IsFullAfter capacity past → row = none

structure ListsByUse (capacity : Nat) (past : Past Record) (flows : List Flow) : Prop where
  all : ∀ flow, flow ∈ flows ↔ IsThere past flow
  order : flows.Pairwise fun later earlier => UsedBefore past earlier later
  distinct : flows.Nodup
  bounded : flows.length ≤ capacity

def Operation.Fits (capacity : Nat) (past : Past Record) : Operation Record → Reply Record → Prop
  | .insert flow record, reply =>
    (reply = .refused record ↔ IsThere past flow ∨ IsFullAfter capacity past) ∧
      (reply = .done ↔ ¬ (IsThere past flow ∨ IsFullAfter capacity past))
  | .insertEvicting flow _, reply =>
    ∃ row, reply = .displaced row ∧ MakesRoomFor capacity past flow row
  | .get flow, reply | .change flow _, reply | .remove flow, reply =>
    reply = .found ((standing flow past).map Prod.fst)
  | .touch _, reply => reply = .done
  | .contains flow, reply => reply = .whether (standing flow past).isSome
  | .flows, reply => ∃ flows, reply = .listed flows ∧ ListsByUse capacity past flows

/-- What neither puts a flow in, nor takes one out, nor uses one. -/
inductive Operation.IsNoUse (past : Past Record) : Operation Record → Reply Record → Prop
  | refused (flow : Flow) (record : Record) : IsNoUse past (.insert flow record) (.refused record)
  | get (flow : Flow) (reply : Reply Record) : IsNoUse past (.get flow) reply
  | change (flow : Flow) (edit : Record → Record) (reply : Reply Record) :
      IsNoUse past (.change flow edit) reply
  | touchAbsent {flow : Flow} (absent : ¬ IsThere past flow) (reply : Reply Record) :
      IsNoUse past (.touch flow) reply
  | removeAbsent {flow : Flow} (absent : ¬ IsThere past flow) (reply : Reply Record) :
      IsNoUse past (.remove flow) reply
  | contains (flow : Flow) (reply : Reply Record) : IsNoUse past (.contains flow) reply
  | flows (reply : Reply Record) : IsNoUse past .flows reply

/-! ## Times -/

theorem time_of_mark {now time : Nat} {flow : Flow} {before : Option (Record × Nat)}
    {operation : Operation Record} {reply : Reply Record} {record : Record}
    (marked : operation.mark now flow before reply = some (record, time)) :
    time = now ∨ ∃ old, before = some (old, time) := by
  unfold Operation.mark at marked
  split at marked
  · split at marked
    · cases marked
      exact Or.inl rfl
    · exact Or.inr ⟨record, marked⟩
  · split at marked
    · cases marked
      exact Or.inl rfl
    · split at marked
      · cases marked
      · exact Or.inr ⟨record, marked⟩
  · split at marked
    · obtain ⟨⟨old, _⟩, there, same⟩ := Option.map_eq_some_iff.mp marked
      cases same
      exact Or.inr ⟨old, there⟩
    · exact Or.inr ⟨record, marked⟩
  · split at marked
    · obtain ⟨⟨old, _⟩, _, same⟩ := Option.map_eq_some_iff.mp marked
      cases same
      exact Or.inl rfl
    · exact Or.inr ⟨record, marked⟩
  · split at marked
    · cases marked
    · exact Or.inr ⟨record, marked⟩
  · exact Or.inr ⟨record, marked⟩

theorem time_lt_length {flow : Flow} {past : Past Record} {record : Record} {time : Nat}
    (there : standing flow past = some (record, time)) : time < past.length := by
  induction past generalizing record with
  | nil => cases there
  | cons event past ih =>
      rcases time_of_mark there with rfl | ⟨old, earlier⟩
      · exact Nat.lt_succ_self _
      · exact Nat.lt_succ_of_lt (ih earlier)

theorem UsedBefore.ne {past : Past Record} {first second : Flow}
    (before : UsedBefore past first second) : first ≠ second := by
  rintro rfl
  obtain ⟨early, late, first, second, less⟩ := before
  rw [first] at second
  cases second
  exact Nat.lt_irrefl _ less

theorem usedBefore_congr {past after : Past Record} {first second : Flow}
    (sameFirst : lastUse after first = lastUse past first)
    (sameSecond : lastUse after second = lastUse past second)
    (before : UsedBefore past first second) : UsedBefore after first second := by
  obtain ⟨early, late, first, second, less⟩ := before
  exact ⟨early, late, sameFirst.trans first, sameSecond.trans second, less⟩

theorem order_of_sublist {past after : Past Record} {flows fewer : List Flow}
    (order : flows.Pairwise fun later earlier => UsedBefore past earlier later)
    (sublist : fewer.Sublist flows)
    (same : ∀ flow ∈ fewer, lastUse after flow = lastUse past flow) :
    fewer.Pairwise fun later earlier => UsedBefore after earlier later :=
  (order.sublist sublist).imp_of_mem fun later earlier before =>
    usedBefore_congr (same _ earlier) (same _ later) before

/-! ## Tables that keep to their past -/

/-- The table holds the records that the past says, in the order of use. -/
structure Recalls (past : Past Record) (table : FlowTable Record) : Prop where
  records : ∀ flow, table.get? flow = (standing flow past).map Prod.fst
  order : table.flows.Pairwise fun later earlier => UsedBefore past earlier later

namespace Recalls

variable {past after : Past Record} {table changed : FlowTable Record} {flow : Flow}

theorem distinct (recalls : Recalls past table) : table.flows.Nodup :=
  recalls.order.imp fun before => before.ne.symm

theorem get?_eq_none_iff (recalls : Recalls past table) :
    table.get? flow = none ↔ ¬ IsThere past flow := by
  rw [recalls.records, IsThere, Option.map_eq_none_iff, Option.not_isSome_iff_eq_none]

theorem mem_flows_iff (recalls : Recalls past table) : flow ∈ table.flows ↔ IsThere past flow := by
  rw [← not_iff_not, ← FlowTable.get?_eq_none_iff, recalls.get?_eq_none_iff]

theorem standing_of_get? (recalls : Recalls past table) {record : Record}
    (found : table.get? flow = some record) : ∃ time, standing flow past = some (record, time) := by
  rw [recalls.records] at found
  obtain ⟨⟨_, time⟩, there, rfl⟩ := Option.map_eq_some_iff.mp found
  exact ⟨time, there⟩

theorem of_same (recalls : Recalls past table)
    (same : ∀ flow, standing flow after = standing flow past) : Recalls after table where
  records flow := by rw [recalls.records, same]
  order := order_of_sublist recalls.order (List.Sublist.refl _) fun flow _ => by
    rw [lastUse, lastUse, same]

theorem order_of_front (recalls : Recalls past table) {rest : List Flow}
    (sublist : rest.Sublist table.flows) (used : lastUse after flow = some past.length)
    (same : ∀ other ∈ rest, lastUse after other = lastUse past other) :
    (flow :: rest).Pairwise fun later earlier => UsedBefore after earlier later := by
  refine List.pairwise_cons.mpr ⟨fun other member => ?_,
    order_of_sublist recalls.order sublist same⟩
  have there := recalls.mem_flows_iff.mp (sublist.mem member)
  obtain ⟨⟨record, time⟩, stands⟩ := Option.isSome_iff_exists.mp there
  -- No use that is over has the time of this one, which is the length of the past.
  refine ⟨time, past.length, ?_, used, time_lt_length stands⟩
  rw [same other member, lastUse, stands]
  rfl

end Recalls

/-! ## One question -/

section Step

variable {past : Past Record} {table after : FlowTable Record} {flow : Flow} {record : Record}

theorem ne_of_mem_others {other : Flow} (member : other ∈ (table.others flow).map Prod.fst) :
    flow ≠ other := by
  obtain ⟨row, kept, rfl⟩ := List.mem_map.mp member
  exact Ne.symm (of_decide_eq_true (List.mem_filter.mp kept).2)

theorem lastUse_congr {earlier later : Past Record}
    (same : standing flow later = standing flow earlier) :
    lastUse later flow = lastUse earlier flow := by
  rw [lastUse, lastUse, same]

theorem map_standing_of_absent (absent : ¬ IsThere past flow)
    (edit : Record × Nat → Record × Nat) (other : Flow) :
    (if flow = other then (standing other past).map edit else standing other past) =
      standing other past := by
  split
  · rename_i same
    subst same
    rw [Option.not_isSome_iff_eq_none.mp absent]
    rfl
  · rfl

theorem Recalls.insert (recalls : Recalls past table)
    (put : table.insert? flow record = some after) :
    Recalls ((.insert flow record, .done) :: past) after := by
  have flows : after.flows = flow :: table.flows := by
    rw [flows_eq, rows_of_insert? put, List.map_cons]
    rfl
  have absent : flow ∉ table.flows := by
    rw [insert?_eq] at put
    split at put
    · cases put
    · rename_i free
      rw [Bool.or_eq_true, contains_eq_true_iff] at free
      exact fun member => free (Or.inl member)
  constructor
  · intro other
    rw [get?_insert? put, recalls.records, standing, Operation.mark]
    split <;> rfl
  · rw [flows]
    refine recalls.order_of_front (List.Sublist.refl _) ?_ fun other member => lastUse_congr ?_
    · rw [lastUse, standing, Operation.mark, if_pos rfl]
      rfl
    · exact if_neg fun same : flow = other => absent (same ▸ member)

theorem Recalls.insertEvicting_own (recalls : Recalls past table) (flow : Flow)
    (old record : Record) :
    Recalls ((.insertEvicting flow record, .displaced (some (flow, old))) :: past)
      { table with rows := (flow, record) :: table.others flow } := by
  have away : ∀ other, flow ≠ other →
      standing other ((.insertEvicting flow record, .displaced (some (flow, old))) :: past) =
        standing other past := by
    intro other differ
    rw [standing, Operation.mark, if_neg differ, if_neg (by simpa using differ)]
  constructor
  · intro other
    by_cases same : flow = other
    · subst same
      rw [standing, Operation.mark, if_pos rfl, get?_eq, List.find?_cons_of_pos (by simp)]
      rfl
    · rw [away other same, ← recalls.records, get?_eq, get?_eq, ← find?_others table same,
        List.find?_cons_of_neg (by simpa using same)]
  · refine recalls.order_of_front (List.filter_sublist.map Prod.fst) ?_
      fun other member => lastUse_congr (away other (ne_of_mem_others member))
    rw [lastUse, standing, Operation.mark, if_pos rfl]
    rfl

theorem Recalls.insertEvicting_new (recalls : Recalls past table) {row : Option (Flow × Record)}
    (absent : table.get? flow = none) (put : table.insertEvicting flow record = (row, after)) :
    Recalls ((.insertEvicting flow record, .displaced row) :: past) after := by
  have missing := (FlowTable.get?_eq_none_iff ..).mp absent
  have used : lastUse ((.insertEvicting flow record, .displaced row) :: past) flow =
      some past.length := by
    rw [lastUse, standing, Operation.mark, if_pos rfl]
    rfl
  have away : ∀ other, flow ≠ other → (∀ evicted ∈ row, evicted.1 ≠ other) →
      standing other ((.insertEvicting flow record, .displaced row) :: past) =
        standing other past := by
    intro other differ spared
    have stays : row.map Prod.fst ≠ some other := fun gone => by
      obtain ⟨evicted, there, same⟩ := Option.map_eq_some_iff.mp gone
      exact spared evicted there same
    rw [standing, Operation.mark, if_neg differ, if_neg stays]
  constructor
  · intro other
    by_cases same : flow = other
    · subst same
      rw [get?_insertEvicting absent put, standing, Operation.mark, if_pos rfl]
      rfl
    · by_cases spared : ∀ evicted ∈ row, evicted.1 ≠ other
      · rw [get?_insertEvicting_away absent put same spared, away other same spared,
          recalls.records]
      · obtain ⟨evicted, spared⟩ := Classical.not_forall.mp spared
        obtain ⟨rfl, here⟩ := Classical.not_imp.mp spared
        obtain rfl := Classical.not_not.mp here
        have gone := (evicted_of_insertEvicting absent recalls.distinct put).2.2.2
        rw [gone, standing, Operation.mark, if_neg same, if_pos (Option.map_some ..)]
        rfl
  · cases row with
    | none =>
        rw [flows_eq, rows_of_insertEvicting_none absent put, List.map_cons]
        exact recalls.order_of_front (List.Sublist.refl _) used fun other member =>
          lastUse_congr (away other (fun same => missing (same ▸ member)) (by simp))
    | some evicted =>
        obtain ⟨front, before, rows⟩ := rows_of_insertEvicting_some absent put
        have flows : table.flows = front.map Prod.fst ++ [evicted.1] := by
          rw [flows_eq, before, List.map_append]
          rfl
        have distinct := recalls.distinct
        rw [flows, List.nodup_append] at distinct
        rw [flows_eq, rows, List.map_cons]
        refine recalls.order_of_front (flows ▸ List.sublist_append_left ..) used
          fun other member => lastUse_congr (away other (fun same => ?_) fun gone there same => ?_)
        · exact missing (same ▸ flows ▸ List.mem_append_left _ member)
        · cases there
          exact distinct.2.2 other member evicted.1 (List.mem_singleton_self _) same.symm

theorem Recalls.change (recalls : Recalls past table) {old : Record}
    (found : table.get? flow = some old) (edit : Record → Record) :
    Recalls ((.change flow edit, .found (some old)) :: past) (table.set flow (edit old)) := by
  constructor
  · intro other
    rw [get?_set, recalls.records, recalls.records, standing, Operation.mark]
    split
    · rename_i same
      subst same
      obtain ⟨time, there⟩ := recalls.standing_of_get? found
      rw [there]
      rfl
    · rfl
  · rw [flows_set]
    refine order_of_sublist recalls.order (List.Sublist.refl _) fun other _ => ?_
    rw [lastUse, lastUse, standing, Operation.mark]
    split
    · rw [Option.map_map]
      rfl
    · rfl

theorem Recalls.touch (recalls : Recalls past table) (flow : Flow) :
    Recalls ((.touch flow, .done) :: past) (table.touch flow) := by
  cases found : table.get? flow with
  | none =>
      have absent := recalls.get?_eq_none_iff.mp found
      rw [touch_of_none found]
      exact recalls.of_same (map_standing_of_absent absent _)
  | some record =>
      obtain ⟨time, there⟩ := recalls.standing_of_get? found
      constructor
      · intro other
        rw [get?_touch, recalls.records, standing, Operation.mark]
        split
        · rw [Option.map_map]
          rfl
        · rfl
      · have flows : (table.touch flow).flows = flow :: (table.others flow).map Prod.fst := by
          rw [flows_eq, rows_touch found, List.map_cons]
        rw [flows]
        refine recalls.order_of_front (List.filter_sublist.map Prod.fst) ?_
          fun other member => lastUse_congr ?_
        · rw [lastUse, standing, Operation.mark, if_pos rfl, there]
          rfl
        · exact if_neg (ne_of_mem_others member)

theorem Recalls.remove (recalls : Recalls past table) (flow : Flow) :
    Recalls ((.remove flow, .found (table.get? flow)) :: past) (table.remove flow).2 := by
  constructor
  · intro other
    rw [get?_remove, recalls.records, standing, Operation.mark]
    split <;> rfl
  · refine order_of_sublist recalls.order (List.filter_sublist.map Prod.fst)
      fun other member => lastUse_congr (if_neg (ne_of_mem_others member))

end Step

/-- Whatever is asked, a table goes on keeping to its past. -/
theorem Recalls.perform {past : Past Record} {table : FlowTable Record}
    (recalls : Recalls past table) (operation : Operation Record) :
    Recalls ((operation, (table.perform operation).1) :: past) (table.perform operation).2 := by
  cases operation with
  | insert flow record =>
      cases put : table.insert? flow record with
      | none =>
          simp only [FlowTable.perform, put]
          exact recalls.of_same fun _ => rfl
      | some after =>
          simp only [FlowTable.perform, put]
          exact recalls.insert put
  | insertEvicting flow record =>
      cases found : table.get? flow with
      | none => exact recalls.insertEvicting_new found rfl
      | some old =>
          rw [FlowTable.perform, insertEvicting_of_some record found]
          exact recalls.insertEvicting_own flow old record
  | change flow edit =>
      cases found : table.get? flow with
      | none =>
          simp only [FlowTable.perform, found]
          exact recalls.of_same (map_standing_of_absent (recalls.get?_eq_none_iff.mp found) _)
      | some old =>
          simp only [FlowTable.perform, found]
          exact recalls.change found edit
  | touch flow => exact recalls.touch flow
  | remove flow => exact recalls.remove flow
  | get | contains | flows => exact recalls.of_same fun _ => rfl

/-! ## Replies -/

section Replies

variable {past : Past Record} {table : FlowTable Record}

theorem Recalls.isFullAfter_iff (recalls : Recalls past table)
    (within : table.WithinCapacity) :
    IsFullAfter table.capacity past ↔ table.isFull = true := by
  have count : table.flows.length = table.size := List.length_map ..
  rw [isFull, decide_eq_true_eq]
  constructor
  · rintro ⟨flows, distinct, length, there⟩
    -- Distinct flows that are there are some of those in the table.
    have inside : flows ⊆ table.flows := fun flow member =>
      recalls.mem_flows_iff.mpr (there flow member)
    rw [← length, ← count]
    exact (distinct.subperm inside).length_le
  · intro full
    exact ⟨table.flows, recalls.distinct, count.trans (Nat.le_antisymm within full),
      fun flow member => recalls.mem_flows_iff.mp member⟩

/-- The last row is the one whose flow was used longest ago. -/
theorem Recalls.usedBefore_of_last (recalls : Recalls past table)
    {front : List (Flow × Record)} {last : Flow × Record} (rows : table.rows = front ++ [last])
    {other : Flow} (there : IsThere past other) (away : other ≠ last.1) :
    UsedBefore past last.1 other := by
  have flows : table.flows = front.map Prod.fst ++ [last.1] := by
    rw [flows_eq, rows, List.map_append]
    rfl
  have order := recalls.order
  have member := recalls.mem_flows_iff.mpr there
  rw [flows] at order member
  rcases List.mem_append.mp member with before | here
  · exact (List.pairwise_append.mp order).2.2 other before last.1 (List.mem_singleton_self _)
  · exact absurd (List.mem_singleton.mp here) away

theorem Recalls.makesRoomFor (recalls : Recalls past table) (within : table.WithinCapacity)
    (positive : 0 < table.capacity) (flow : Flow) (record : Record) :
    MakesRoomFor table.capacity past flow (table.insertEvicting flow record).1 := by
  cases found : table.get? flow with
  | some old =>
      rw [insertEvicting_of_some record found]
      obtain ⟨time, stands⟩ := recalls.standing_of_get? found
      have there : IsThere past flow := by rw [IsThere, stands]; rfl
      refine ⟨fun same _ again => ?_, fun absent => absurd there absent,
        fun absent => absurd there absent⟩
      rw [stands] at again
      cases again
      rfl
  | none =>
      have absent := recalls.get?_eq_none_iff.mp found
      refine ⟨fun old time stands => ?_, fun _ full => ?_, fun _ free => ?_⟩
      · rw [IsThere, stands] at absent
        exact absurd rfl absent
      · have isFull := (recalls.isFullAfter_iff within).mp full
        have nonempty : table.rows ≠ [] :=
          List.ne_nil_of_length_pos (Nat.lt_of_lt_of_le positive (of_decide_eq_true isFull))
        have rows := (List.dropLast_concat_getLast nonempty).symm
        have there := get?_of_mem_rows recalls.distinct (List.getLast_mem nonempty)
        obtain ⟨time, stands⟩ := recalls.standing_of_get? there
        refine ⟨_, _, time, ?_, stands, fun other => recalls.usedBefore_of_last rows⟩
        rw [insertEvicting_of_full record found isFull]
        exact List.getLast?_eq_some_getLast nonempty
      · rw [recalls.isFullAfter_iff within] at free
        rw [insertEvicting_of_room record found (Bool.eq_false_iff.mpr free)]

theorem Recalls.listsByUse (recalls : Recalls past table) (within : table.WithinCapacity) :
    ListsByUse table.capacity past table.flows where
  all _ := recalls.mem_flows_iff
  order := recalls.order
  distinct := recalls.distinct
  bounded := Nat.le_trans (Nat.le_of_eq (List.length_map ..)) within

theorem Recalls.refuses_iff (recalls : Recalls past table) (within : table.WithinCapacity)
    (flow : Flow) (record : Record) :
    table.insert? flow record = none ↔
      IsThere past flow ∨ IsFullAfter table.capacity past := by
  rw [recalls.isFullAfter_iff within, ← recalls.mem_flows_iff, ← contains_eq_true_iff, insert?_eq,
    ← Bool.or_eq_true]
  split
  · rename_i refused
    exact iff_of_true rfl refused
  · rename_i taken
    exact iff_of_false (by simp) taken

theorem Recalls.fits (recalls : Recalls past table) (within : table.WithinCapacity)
    (positive : 0 < table.capacity) (operation : Operation Record) :
    operation.Fits table.capacity past (table.perform operation).1 := by
  cases operation with
  | insert flow record =>
      have refuses := recalls.refuses_iff within flow record
      rw [Operation.Fits, ← refuses, FlowTable.perform]
      cases table.insert? flow record <;> simp
  | insertEvicting flow record =>
      exact ⟨_, rfl, recalls.makesRoomFor within positive flow record⟩
  | get flow => exact congrArg Reply.found (recalls.records flow)
  | change flow edit =>
      rw [Operation.Fits, ← recalls.records, FlowTable.perform]
      cases table.get? flow <;> rfl
  | remove flow => exact congrArg Reply.found (recalls.records flow)
  | touch flow => rfl
  | contains flow =>
      rw [Operation.Fits, FlowTable.perform, contains_eq_isSome, recalls.records, Option.isSome_map]
  | flows => exact ⟨_, rfl, recalls.listsByUse within⟩

/-- What is no use leaves the flows as they stood; only a change of a record leaves a mark
at all. -/
theorem Recalls.perform_of_noUse (recalls : Recalls past table) {operation : Operation Record}
    (noUse : operation.IsNoUse past (table.perform operation).1) :
    (table.perform operation).2.flows = table.flows ∧
      ((∀ flow edit, operation ≠ .change flow edit) → (table.perform operation).2 = table) := by
  have of_same {after : FlowTable Record} (same : after = table) :
      after.flows = table.flows ∧ ((∀ flow edit, operation ≠ .change flow edit) → after = table) :=
    ⟨congrArg FlowTable.flows same, fun _ => same⟩
  cases operation with
  | insert flow record =>
      refine of_same ?_
      rw [FlowTable.perform] at noUse ⊢
      cases put : table.insert? flow record with
      | none => rfl
      | some after =>
          rw [put] at noUse
          cases noUse
  | insertEvicting flow record => cases noUse
  | change flow edit =>
      refine ⟨?_, fun never => absurd rfl (never flow edit)⟩
      rw [FlowTable.perform]
      cases table.get? flow with
      | none => rfl
      | some old => exact flows_set ..
  | touch flow =>
      cases noUse with
      | touchAbsent absent =>
          rw [← recalls.get?_eq_none_iff] at absent
          refine of_same ?_
          rw [FlowTable.perform, touch_of_none absent]
  | remove flow =>
      cases noUse with
      | removeAbsent absent =>
          rw [← recalls.mem_flows_iff] at absent
          have kept : table.others flow = table.rows :=
            List.filter_eq_self.mpr fun row member =>
              decide_eq_true fun same => absent (same ▸ List.mem_map_of_mem member)
          refine of_same ?_
          rw [FlowTable.perform, remove_eq, kept]
  | get | contains | flows => exact of_same rfl

end Replies

/-! ## All that is asked of a table -/

structure Ledger (Record : Type) where
  past : Past Record
  table : FlowTable Record

namespace Ledger

def ask (ledger : Ledger Record) (operation : Operation Record) : Ledger Record where
  past := (operation, (ledger.table.perform operation).1) :: ledger.past
  table := (ledger.table.perform operation).2

def after (capacity : Nat) (operations : List (Operation Record)) : Ledger Record :=
  operations.foldl ask ⟨[], empty capacity⟩

structure Faithful (capacity : Nat) (ledger : Ledger Record) : Prop where
  capacity : ledger.table.capacity = capacity
  within : ledger.table.WithinCapacity
  recalls : Recalls ledger.past ledger.table

end Ledger

theorem capacity_perform (table : FlowTable Record) (operation : Operation Record) :
    (table.perform operation).2.capacity = table.capacity := by
  cases operation with
  | insert flow record =>
      rw [perform]
      cases put : table.insert? flow record with
      | none => rfl
      | some after => exact capacity_of_insert? put
  | insertEvicting flow record => exact capacity_insertEvicting rfl
  | change flow edit =>
      rw [perform]
      cases table.get? flow <;> rfl
  | touch flow => exact capacity_touch table flow
  | get | remove | contains | flows => rfl

theorem WithinCapacity.perform {table : FlowTable Record} (within : table.WithinCapacity)
    (positive : 0 < table.capacity) (distinct : table.flows.Nodup)
    (operation : Operation Record) : (table.perform operation).2.WithinCapacity := by
  cases operation with
  | insert flow record =>
      rw [FlowTable.perform]
      cases put : table.insert? flow record with
      | none => exact within
      | some after => exact .insert? put
  | insertEvicting flow record =>
      cases found : table.get? flow with
      | none => exact within.insertEvicting found positive rfl
      | some old =>
          have rows : (table.perform (.insertEvicting flow record)).2.size = table.size := by
            rw [FlowTable.perform, insertEvicting_of_some record found]
            exact (rows_perm_others distinct found).length_eq.symm
          exact within.of_length_le (Nat.le_of_eq rows) (capacity_perform ..)
  | change flow edit =>
      rw [FlowTable.perform]
      cases table.get? flow with
      | none => exact within
      | some old => exact within.set
  | touch flow => exact within.touch distinct
  | remove flow => exact within.remove
  | get | contains | flows => exact within

namespace Ledger

variable {capacity : Nat}

theorem faithful_empty (capacity : Nat) :
    Faithful capacity (⟨[], empty capacity⟩ : Ledger Record) where
  capacity := rfl
  within := Nat.zero_le capacity
  recalls := ⟨fun _ => rfl, List.Pairwise.nil⟩

theorem Faithful.ask {ledger : Ledger Record} (faithful : ledger.Faithful capacity)
    (positive : 0 < capacity) (operation : Operation Record) :
    (ledger.ask operation).Faithful capacity where
  capacity := (capacity_perform ..).trans faithful.capacity
  within := faithful.within.perform (faithful.capacity.symm ▸ positive) faithful.recalls.distinct
    operation
  recalls := faithful.recalls.perform operation

theorem Faithful.foldl (positive : 0 < capacity) (operations : List (Operation Record))
    {ledger : Ledger Record} (faithful : ledger.Faithful capacity) :
    (operations.foldl Ledger.ask ledger).Faithful capacity := by
  induction operations generalizing ledger with
  | nil => exact faithful
  | cons operation rest ih => exact ih (faithful.ask positive operation)

end Ledger

/-- A table with room for any record at all keeps to its past.  Whatever has been asked, its
flows are those that are there, the most recently used first, and not more than may be; each
has the record last stored for it.  Whatever is asked next, the reply is the one that the
past gives, and what is no use leaves the order as it is, and the table too unless a record
is changed. -/
theorem tables_keep_to_their_past (capacity : Nat) (positive : 0 < capacity)
    (operations : List (Operation Record)) :
    let ledger := Ledger.after capacity operations
    ListsByUse capacity ledger.past ledger.table.flows ∧
      (∀ flow, ledger.table.get? flow = (standing flow ledger.past).map Prod.fst) ∧
      ∀ operation,
        let (reply, after) := ledger.table.perform operation
        operation.Fits capacity ledger.past reply ∧
          (operation.IsNoUse ledger.past reply → after.flows = ledger.table.flows ∧
            ((∀ flow edit, operation ≠ .change flow edit) → after = ledger.table)) := by
  intro ledger
  have faithful : ledger.Faithful capacity :=
    (Ledger.faithful_empty capacity).foldl positive operations
  have room : 0 < ledger.table.capacity := faithful.capacity.symm ▸ positive
  have lists := faithful.recalls.listsByUse faithful.within
  rw [faithful.capacity] at lists
  refine ⟨lists, faithful.recalls.records, fun operation => ⟨?_, ?_⟩⟩
  · have fits := faithful.recalls.fits faithful.within room operation
    rwa [faithful.capacity] at fits
  · exact faithful.recalls.perform_of_noUse

def flowFrom (port : UInt16) : Flow :=
  ⟨⟨.ofOctets 10 0 0 1, port⟩, ⟨.ofOctets 1 2 3 4, 80⟩⟩

/-- In a table of two, a look at the first flow and a change of its record do not spare it;
that it is touched in the end does. -/
theorem touched_flow_is_spared :
    let ledger : Ledger Nat := Ledger.after 2
      [.insert (flowFrom 1) 1, .insertEvicting (flowFrom 2) 2, .get (flowFrom 1),
        .change (flowFrom 1) (· + 10), .touch (flowFrom 1)]
    0 < 2 ∧ ListsByUse 2 ledger.past [flowFrom 1, flowFrom 2] ∧
      standing (flowFrom 1) ledger.past = some (11, 4) ∧
      MakesRoomFor 2 ledger.past (flowFrom 3) (some (flowFrom 2, 2)) := by
  intro ledger
  obtain ⟨lists, _, next⟩ := tables_keep_to_their_past 2 (by decide)
    [.insert (flowFrom 1) 1, .insertEvicting (flowFrom 2) 2, .get (flowFrom 1),
      .change (flowFrom 1) (· + 10), .touch (flowFrom 1)]
  obtain ⟨⟨row, displaced, room⟩, _⟩ := next (.insertEvicting (flowFrom 3) 3)
  have victim : some (flowFrom 2, 2) = row := Reply.displaced.inj displaced
  exact ⟨by decide, lists, rfl, victim ▸ room⟩

end Masquerade.FlowTable
