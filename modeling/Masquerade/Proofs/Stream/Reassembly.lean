import Masquerade.Proofs.Stream.Supply

/-!
# Putting segments together again

A receiver that knows which place it expects next takes from every segment the bytes
from that place on, and nothing from segments that lie behind or ahead.
-/

set_option autoImplicit false

namespace Masquerade

open Packet (ControlBit)

/-- What a receiver puts together that expects the byte in the place `expected` next. -/
def reassemble (expected : UInt32) : List Segment → Bytes
  | [] => []
  | segment :: rest =>
    let known := (expected - segment.header.sequence).toNat
    let fresh := segment.payload.drop known
    fresh ++ reassemble (expected + UInt32.ofNat fresh.length) rest

def markCount (bit : ControlBit) (segments : List Segment) : Nat :=
  segments.countP fun segment => segment.has bit

theorem markCount_append (bit : ControlBit) (first second : List Segment) :
    markCount bit (first ++ second) = markCount bit first + markCount bit second :=
  List.countP_append ..

theorem markCount_eq_zero {bit : ControlBit} {segments : List Segment}
    (none : ∀ segment ∈ segments, segment.has bit = false) : markCount bit segments = 0 := by
  apply List.countP_eq_zero.mpr
  intro segment member
  simp [none segment member]

theorem has_eq_false_of_markCount {bit : ControlBit} {segments : List Segment}
    (none : markCount bit segments = 0) : ∀ segment ∈ segments, segment.has bit = false := by
  intro segment member
  simpa using List.countP_eq_zero.mp none segment member

theorem Stream.IsAt.markCount {segment : Segment} {flags : UInt8} {sequence : UInt32}
    {payload : Bytes} (isAt : Stream.IsAt segment flags sequence payload) (bit : ControlBit) :
    markCount bit [segment] = (flags.toNat / bit.value % 2 == 1).toNat := by
  rw [← isAt.has]
  cases has : segment.has bit <;> simp [Masquerade.markCount, has]

theorem reassemble_append (expected : UInt32) (first second : List Segment) :
    reassemble expected (first ++ second) = reassemble expected first ++
      reassemble (expected + UInt32.ofNat (reassemble expected first).length) second := by
  induction first generalizing expected with
  | nil => simp [reassemble]
  | cons segment rest ih =>
      simp only [List.cons_append, reassemble, ih, List.append_assoc, List.length_append,
        UInt32.ofNat_add, UInt32.add_assoc]

theorem reassemble_empty {segments : List Segment}
    (empty : ∀ segment ∈ segments, segment.payload = []) (expected : UInt32) :
    reassemble expected segments = [] := by
  induction segments generalizing expected with
  | nil => rfl
  | cons segment rest ih =>
      have first := empty segment (List.mem_cons_self ..)
      have later := ih fun other member => empty other (List.mem_cons_of_mem _ member)
      simp only [reassemble, first, List.drop_nil, List.nil_append, later]

/-- A segment in the expected place adds all its bytes. -/
theorem reassemble_next {segment : Segment} {expected : UInt32}
    (place : segment.header.sequence = expected) :
    reassemble expected [segment] = segment.payload := by
  simp [reassemble, place]

theorem reassemble_known {segment : Segment} {expected : UInt32}
    (place : segment.header.sequence + UInt32.ofNat segment.payload.length = expected)
    (small : segment.payload.length < 4294967296) : reassemble expected [segment] = [] := by
  have known : (expected - segment.header.sequence).toNat = segment.payload.length := by
    rw [← place, UInt32.add_comm, UInt32.add_sub_cancel, UInt32.toNat_ofNat']
    exact Nat.mod_eq_of_lt small
  simp [reassemble, known]

end Masquerade
