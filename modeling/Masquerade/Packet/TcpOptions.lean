import Masquerade.Bytes

/-!
# TCP options

A block of options is a row of single bytes that mean nothing and of options
that give their kind, their length and a content.  Of all kinds only the
timestamps matter here.
-/

set_option autoImplicit false

namespace Masquerade.Packet

/-- The clock of the sender, and the last clock that it saw from the receiver. -/
structure Timestamps where
  value : UInt32
  echo : UInt32
  deriving DecidableEq, Repr

namespace Timestamps

/-- The timestamps of the first well-formed timestamp option.  The walk ends at
an end mark (0) and at an option that is too short or runs past the block; a
filler (1) is a byte of its own. -/
def find? : Bytes → Option Timestamps
  | [] => none
  | kind :: rest =>
    if kind = 0 then none
    else if kind = 1 then find? rest
    else
      match rest with
      | [] => none
      | length :: body =>
        if length.toNat ≠ (body.take (length.toNat - 2)).length + 2 then none
        else
          match kind, body.take (length.toNat - 2) with
          | 8, [a, b, c, d, e, f, g, h] => some ⟨Bytes.word32 a b c d, Bytes.word32 e f g h⟩
          | _, _ => find? (body.drop (length.toNat - 2))
termination_by block => block.length
decreasing_by
  all_goals simp only [List.length_cons, List.length_drop]; omega

/-- The options of every segment to a guest: a largest segment of 1460 bytes, a
window scale of zero, and timestamps.  Fillers keep each option on a boundary of
four bytes. -/
def block (timestamps : Timestamps) : Bytes :=
  [2, 4, 0x05, 0xb4, 1, 3, 3, 0, 1, 1, 8, 10] ++
    Bytes.ofWord32 timestamps.value ++ Bytes.ofWord32 timestamps.echo

@[simp] theorem length_block (timestamps : Timestamps) : timestamps.block.length = 20 := rfl

/-! ## What the walk finds -/

section Walk

variable {kind length : UInt8} {body : Bytes}

theorem find?_of_cut (noEnd : kind ≠ 0) (noFiller : kind ≠ 1)
    (cut : length.toNat < 2 ∨ body.length + 2 < length.toNat) :
    find? (kind :: length :: body) = none := by
  have short : length.toNat ≠ (body.take (length.toNat - 2)).length + 2 := by
    rw [List.length_take]
    omega
  rw [find?.eq_def]
  dsimp only
  rw [if_neg noEnd, if_neg noFiller, if_pos short]

theorem find?_of_clock {a b c d e f g h : UInt8} (content : body.take 8 = [a, b, c, d, e, f, g, h]) :
    find? (8 :: 10 :: body) = some ⟨Bytes.word32 a b c d, Bytes.word32 e f g h⟩ := by
  have ten : (10 : UInt8).toNat - 2 = 8 := rfl
  rw [find?.eq_def]
  dsimp only
  rw [ten, content]
  rfl

theorem find?_of_other (noEnd : kind ≠ 0) (noFiller : kind ≠ 1) (atLeast : 2 ≤ length.toNat)
    (whole : length.toNat ≤ body.length + 2) (other : ¬(kind = 8 ∧ length = 10)) :
    find? (kind :: length :: body) = find? (body.drop (length.toNat - 2)) := by
  have fits : length.toNat = (body.take (length.toNat - 2)).length + 2 := by
    rw [List.length_take]
    omega
  rw [find?.eq_def]
  dsimp only
  rw [if_neg noEnd, if_neg noFiller, if_neg (not_not_intro fits)]
  split
  · rename_i content
    rw [content] at fits
    exact absurd ⟨rfl, UInt8.toNat_inj.mp fits⟩ other
  · rfl

theorem find?_of_filler (block : Bytes) : find? (1 :: block) = find? block := by
  rw [find?.eq_def]
  rfl

end Walk

theorem find?_block (timestamps : Timestamps) : find? timestamps.block = some timestamps := by
  have segmentSize : find? timestamps.block = find? (timestamps.block.drop 4) :=
    find?_of_other (by decide) (by decide) (by decide) (by simp) (by decide)
  have windowScale : find? (timestamps.block.drop 4) = find? (timestamps.block.drop 8) :=
    (find?_of_filler _).trans
      (find?_of_other (by decide) (by decide) (by decide) (by simp) (by decide))
  have fillers : find? (timestamps.block.drop 8) = find? (timestamps.block.drop 10) :=
    (find?_of_filler _).trans (find?_of_filler _)
  rw [segmentSize, windowScale, fillers]
  refine (find?_of_clock rfl).trans ?_
  rw [Bytes.word32_bytes, Bytes.word32_bytes]

end Timestamps

end Masquerade.Packet
