/-!
# Byte strings

Frames, packets, segments and datagrams are lists of bytes.  Words travel with
their most significant byte first; both directions of that layout are given in
natural-number arithmetic, so that they invert each other by division with
remainder.
-/

set_option autoImplicit false

namespace Masquerade

/-- What travels on a wire or through a socket. -/
abbrev Bytes := List UInt8

namespace Bytes

/-! ## Words -/

/-- The two bytes of a word, most significant first. -/
def ofWord16 (word : UInt16) : Bytes :=
  [UInt8.ofNat (word.toNat / 256), UInt8.ofNat word.toNat]

def ofWord32 (word : UInt32) : Bytes :=
  [UInt8.ofNat (word.toNat / 16777216), UInt8.ofNat (word.toNat / 65536),
    UInt8.ofNat (word.toNat / 256), UInt8.ofNat word.toNat]

def word16 (high low : UInt8) : UInt16 :=
  UInt16.ofNat (high.toNat * 256 + low.toNat)

def word32 (first second third fourth : UInt8) : UInt32 :=
  UInt32.ofNat (((first.toNat * 256 + second.toNat) * 256 + third.toNat) * 256 + fourth.toNat)

@[simp] theorem length_ofWord16 (word : UInt16) : (ofWord16 word).length = 2 := rfl

@[simp] theorem length_ofWord32 (word : UInt32) : (ofWord32 word).length = 4 := rfl

theorem word16_bytes (word : UInt16) :
    word16 (UInt8.ofNat (word.toNat / 256)) (UInt8.ofNat word.toNat) = word := by
  have bound := word.toNat_lt
  apply UInt16.toNat_inj.mp
  simp only [word16, UInt8.toNat_ofNat', UInt16.toNat_ofNat']
  omega

theorem word32_bytes (word : UInt32) :
    word32 (UInt8.ofNat (word.toNat / 16777216)) (UInt8.ofNat (word.toNat / 65536))
      (UInt8.ofNat (word.toNat / 256)) (UInt8.ofNat word.toNat) = word := by
  have bound := word.toNat_lt
  apply UInt32.toNat_inj.mp
  simp only [word32, UInt8.toNat_ofNat', UInt32.toNat_ofNat']
  omega

theorem toNat_word16 (high low : UInt8) :
    (word16 high low).toNat = high.toNat * 256 + low.toNat := by
  have highBound := high.toNat_lt
  have lowBound := low.toNat_lt
  rw [word16, UInt16.toNat_ofNat']
  omega

theorem ofWord16_word16 (high low : UInt8) : ofWord16 (word16 high low) = [high, low] := by
  have highBound := high.toNat_lt
  have lowBound := low.toNat_lt
  simp only [ofWord16, toNat_word16, List.cons.injEq, and_true]
  constructor <;> apply UInt8.toNat_inj.mp <;> simp only [UInt8.toNat_ofNat'] <;> omega

theorem ofWord32_word32 (first second third fourth : UInt8) :
    ofWord32 (word32 first second third fourth) = [first, second, third, fourth] := by
  have firstBound := first.toNat_lt
  have secondBound := second.toNat_lt
  have thirdBound := third.toNat_lt
  have fourthBound := fourth.toNat_lt
  simp only [ofWord32, word32, UInt32.toNat_ofNat', List.cons.injEq, and_true]
  refine ⟨?_, ?_, ?_, ?_⟩ <;> apply UInt8.toNat_inj.mp <;>
    simp only [UInt8.toNat_ofNat'] <;> omega

/-! ## Replacing a stretch -/

/-- `bytes` with the stretch from `offset` on replaced by `piece`. -/
def overwrite (bytes : Bytes) (offset : Nat) (piece : Bytes) : Bytes :=
  bytes.take offset ++ piece ++ bytes.drop (offset + piece.length)

theorem length_overwrite (bytes piece : Bytes) (offset : Nat)
    (room : offset + piece.length ≤ bytes.length) :
    (overwrite bytes offset piece).length = bytes.length := by
  simp only [overwrite, List.length_append, List.length_take, List.length_drop]
  omega

theorem drop_overwrite {bytes piece : Bytes} {offset : Nat} (inside : offset ≤ bytes.length) :
    (overwrite bytes offset piece).drop offset = piece ++ bytes.drop (offset + piece.length) := by
  rw [overwrite, List.append_assoc, List.drop_left' (List.length_take_of_le inside)]

theorem getElem?_overwrite_of_outside {bytes piece : Bytes} {offset place : Nat}
    (room : offset + piece.length ≤ bytes.length)
    (outside : place < offset ∨ offset + piece.length ≤ place) :
    (overwrite bytes offset piece)[place]? = bytes[place]? := by
  have front : (bytes.take offset).length = offset := List.length_take_of_le (by omega)
  rcases outside with before | behind
  · rw [overwrite, List.append_assoc, List.getElem?_append_left (by omega),
      List.getElem?_take_of_lt before]
  · have both : (bytes.take offset ++ piece).length = offset + piece.length := by
      rw [List.length_append, front]
    rw [overwrite, List.getElem?_append_right (by omega), both, List.getElem?_drop,
      Nat.add_sub_cancel' behind]

theorem overwrite_eq_self_iff {bytes piece : Bytes} {offset : Nat}
    (inside : offset ≤ bytes.length) :
    overwrite bytes offset piece = bytes ↔ (bytes.drop offset).take piece.length = piece := by
  constructor
  · intro same
    have behind : (overwrite bytes offset piece).drop offset =
        piece ++ bytes.drop (offset + piece.length) := drop_overwrite inside
    rw [same] at behind
    rw [behind, List.take_left' rfl]
  · intro there
    have split : piece ++ bytes.drop (offset + piece.length) = bytes.drop offset := by
      have parts := List.take_append_drop piece.length (bytes.drop offset)
      rwa [there, List.drop_drop] at parts
    rw [overwrite, List.append_assoc, split, List.take_append_drop]

/-! ## Hexadecimal text -/

def hexPair (byte : UInt8) : List Char :=
  [Nat.digitChar (byte.toNat / 16), Nat.digitChar (byte.toNat % 16)]

def hex (bytes : Bytes) : String :=
  String.ofList (bytes.flatMap hexPair)

end Bytes

end Masquerade
