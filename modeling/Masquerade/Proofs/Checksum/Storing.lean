import Masquerade.Proofs.Checksum

/-!
# What a field holds after a checksum was stored

Storing a checksum changes the field and nothing else, what the field held before does not
matter, and what was stored verifies.  Offsets are numbers of 64 bits: behind the last two
of them no field can end, and the addition that tells its end overflows.
-/

set_option autoImplicit false

namespace Masquerade.Checksum

/-! ## The field -/

def field (bytes : Bytes) (offset : Nat) : Bytes := (bytes.drop offset).take 2

structure SameButField (offset : Nat) (first second : Bytes) : Prop where
  length : first.length = second.length
  elsewhere : ∀ place, place < offset ∨ offset + 2 ≤ place → first[place]? = second[place]?

section Field

variable {bytes other : Bytes} {offset : Nat}

theorem sameButField_put (room : offset + 2 ≤ bytes.length) (word : UInt16) :
    SameButField offset bytes (put bytes offset word) where
  length := (put_length room word).symm
  elsewhere _ outside := (Bytes.getElem?_overwrite_of_outside room outside).symm

theorem field_put (room : offset + 2 ≤ bytes.length) (word : UInt16) :
    field (put bytes offset word) offset = Bytes.ofWord16 word := by
  rw [field, put, Bytes.drop_overwrite (by omega)]
  rfl

/-- What is put into a field hides what it held before. -/
theorem put_congr (room : offset + 2 ≤ bytes.length) (same : SameButField offset bytes other)
    (word : UInt16) : put other offset word = put bytes offset word := by
  apply List.ext_getElem?
  intro place
  have roomToo : offset + 2 ≤ other.length := same.length ▸ room
  by_cases outside : place < offset ∨ offset + 2 ≤ place
  · rw [← (sameButField_put roomToo word).elsewhere place outside, ← same.elsewhere place outside,
      (sameButField_put room word).elsewhere place outside]
  · have inside : place = offset + (place - offset) := by omega
    rw [inside, ← List.getElem?_drop, ← List.getElem?_drop, put, put,
      Bytes.drop_overwrite (by omega), Bytes.drop_overwrite (by omega),
      List.getElem?_append_left (by rw [Bytes.length_ofWord16]; omega),
      List.getElem?_append_left (by rw [Bytes.length_ofWord16]; omega)]

theorem take_put {length : Nat} (room : offset + 2 ≤ length) (inside : length ≤ bytes.length)
    (word : UInt16) :
    (put bytes offset word).take length = put (bytes.take length) offset word := by
  have covered : (bytes.take length).length = length := List.length_take_of_le inside
  have split : put bytes offset word =
      put (bytes.take length) offset word ++ bytes.drop length := by
    rw [← put_append (covered.symm ▸ room), List.take_append_drop]
  rw [split, List.take_left' ((put_length (covered.symm ▸ room) word).trans covered)]

end Field

/-! ## The end of the field -/

section FieldEnd

variable {sumOf : Nat → Bytes → UInt16} {overflow : Overflow} {bytes : Bytes}
  {offset length : UInt64}

theorem fieldEnd_of_lt (counts : offset.toNat + 2 < UInt64.size) :
    fieldEnd overflow offset = some (offset + 2) := by
  cases overflow with
  | stops => exact if_pos counts
  | wraps => rfl

/-- The two forms of storing agree where the end of the field is a number of the machine. -/
theorem storeSum_of_lt (counts : offset.toNat + 2 < UInt64.size) :
    storeSum sumOf overflow bytes offset length =
      some (storeAt sumOf bytes offset.toNat length.toNat) := by
  have ending : (offset + 2).toNat = offset.toNat + 2 := by
    rw [UInt64.toNat_add]
    exact Nat.mod_eq_of_lt counts
  have ordered : ¬ offset + 2 < offset := by
    rw [UInt64.lt_iff_toNat_lt, ending]
    omega
  simp only [storeSum, fieldEnd_of_lt counts, Option.bind_eq_bind, Option.bind_some, ending,
    ordered, if_false, storeAt]
  split <;> rfl

/-- What comes of a field that would end beyond the greatest number: a result only where
its end is told to be one and nothing is covered. -/
def resultBeyond (overflow : Overflow) (bytes : Bytes) (offset length : UInt64) :
    Option (UInt16 × Bytes) :=
  if overflow = .wraps ∧ offset.toNat + 1 = UInt64.size ∧ min length.toNat bytes.length = 0 then
    some (0, bytes)
  else none

theorem storeSum_of_le (beyond : UInt64.size ≤ offset.toNat + 2) :
    storeSum sumOf overflow bytes offset length = resultBeyond overflow bytes offset length := by
  cases overflow with
  | stops =>
      have uncounted : fieldEnd .stops offset = none := if_neg (Nat.not_lt.mpr beyond)
      simp only [storeSum, uncounted, resultBeyond, Option.bind_eq_bind, Option.bind_none,
        reduceCtorEq, false_and, if_false]
  | wraps =>
      have bound : offset.toNat < UInt64.size := offset.toNat_lt
      have ending : (offset + 2).toNat = offset.toNat + 2 - UInt64.size := by
        rw [UInt64.toNat_add]
        change (offset.toNat + 2) % UInt64.size = _
        unfold UInt64.size at beyond bound ⊢
        omega
      have turned : offset + 2 < offset := by
        rw [UInt64.lt_iff_toNat_lt, ending]
        unfold UInt64.size at beyond ⊢
        omega
      have small : min length.toNat bytes.length < offset.toNat + 2 - UInt64.size ↔
          offset.toNat + 1 = UInt64.size ∧ min length.toNat bytes.length = 0 := by omega
      simp only [storeSum, fieldEnd, resultBeyond, Option.bind_eq_bind, Option.bind_some, ending,
        small, turned, if_true, true_and]
      rfl

end FieldEnd

/-! ## Storing -/

/-- Storing gives this sum and these bytes, whatever the field at `offset` held.  The sum is
what `sumOf` makes of the first `length` bytes with nothing in the field.  It is put there
and changes nothing else, and then the bytes verify. -/
structure Stores (store : Bytes → Option (UInt16 × Bytes)) (verifies : Bytes → Bool)
    (sumOf : Bytes → UInt16) (bytes : Bytes) (offset length : Nat) (sum : UInt16)
    (after : Bytes) : Prop where
  stores : ∀ other, SameButField offset bytes other → store other = some (sum, after)
  kept : SameButField offset bytes after
  held : field after offset = Bytes.ofWord16 sum
  value : ∃ blank, SameButField offset bytes blank ∧ field blank offset = [0, 0] ∧
    sum = sumOf (blank.take length)
  verified : verifies after = true

section Storing

variable {overflow : Overflow} {bytes : Bytes} {offset length : UInt64}

theorem storeSum_stores (sumOf : Nat → Bytes → UInt16) {verifies : Bytes → Bool}
    (room : offset.toNat + 2 ≤ length.toNat) (inside : length.toNat ≤ bytes.length)
    (verified : verifies (put bytes offset.toNat
      (sumOf length.toNat ((put bytes offset.toNat 0).take length.toNat))) = true) :
    Stores (fun other => storeSum sumOf overflow other offset length) verifies
      (sumOf length.toNat) bytes offset.toNat length.toNat
      (sumOf length.toNat ((put bytes offset.toNat 0).take length.toNat))
      (put bytes offset.toNat
        (sumOf length.toNat ((put bytes offset.toNat 0).take length.toNat))) := by
  have place : offset.toNat + 2 ≤ bytes.length := Nat.le_trans room inside
  constructor
  · intro other same
    have counts : offset.toNat + 2 < UInt64.size := Nat.lt_of_le_of_lt room length.toNat_lt
    rw [storeSum_of_lt counts, storeAt_of_room sumOf room (same.length ▸ inside),
      put_congr place same, put_congr place same]
  · exact sameButField_put place _
  · exact field_put place _
  · exact ⟨_, sameButField_put place 0, field_put place 0, rfl⟩
  · exact verified

theorem ofBytes_take_put (transport : Transport) {front : Bytes} {offset length : Nat}
    (frontEven : front.length % 2 = 0) (even : offset % 2 = 0) (room : offset + 2 ≤ length)
    (inside : length ≤ bytes.length) :
    ofBytes (front ++ (put bytes offset (stored transport
      (ofBytes (front ++ (put bytes offset 0).take length)))).take length) = 0 := by
  have covered : (bytes.take length).length = length := List.length_take_of_le inside
  rw [take_put room inside, take_put room inside]
  exact ofBytes_put_stored transport front frontEven even (covered.symm ▸ room)

theorem ipChecksum_stores (even : offset.toNat % 2 = 0)
    (room : offset.toNat + 2 ≤ length.toNat) (inside : length.toNat ≤ bytes.length) :
    ∃ sum after, Stores (fun other => ipChecksum overflow other offset length)
      (fun other => verifies other length.toNat) (fun covered => onesComplement (words covered))
      bytes offset.toNat length.toNat sum after := by
  have same : (fun covered => onesComplement (words covered)) = ofBytes :=
    funext fun covered => (ofBytes_eq covered).symm
  rw [same]
  refine ⟨_, _, storeSum_stores (fun _ => ofBytes) room inside ?_⟩
  have nothing : ([] : Bytes).length % 2 = 0 := rfl
  have zero := ofBytes_take_put .tcp nothing even room inside
  simp only [List.nil_append, stored] at zero
  rw [verifies, put_length (Nat.le_trans room inside), zero, decide_eq_true inside]
  rfl

theorem transportChecksum_stores (transport : Transport) (source destination : Ipv4Address)
    (even : offset.toNat % 2 = 0) (room : offset.toNat + 2 ≤ length.toNat)
    (inside : length.toNat ≤ bytes.length) :
    ∃ sum after, Stores
      (fun other => transportChecksum transport source destination overflow other offset length)
      (fun other => verifiesTransport transport source destination other length.toNat)
      (fun covered => stored transport (onesComplement
        (words (pseudoHeader source destination transport length.toNat ++ covered))))
      bytes offset.toNat length.toNat sum after ∧ (transport = .udp → sum ≠ 0) := by
  have same : (fun covered => stored transport (onesComplement
      (words (pseudoHeader source destination transport length.toNat ++ covered)))) =
      fun covered => stored transport
        (betweenAddresses transport source destination length.toNat covered) :=
    funext fun covered => by rw [betweenAddresses_eq, ofBytes_eq]
  rw [same]
  refine ⟨_, _, storeSum_stores (fun covered bytes => stored transport
    (betweenAddresses transport source destination covered bytes)) room inside ?_, ?_⟩
  · have front : (pseudoHeader source destination transport length.toNat).length % 2 = 0 := by
      rw [length_pseudoHeader]
    have zero := ofBytes_take_put transport front even room inside
    simp only [verifiesTransport, betweenAddresses_eq]
    rw [put_length (Nat.le_trans room inside), zero, decide_eq_true inside]
    rfl
  · rintro rfl
    exact stored_udp_ne_zero _

end Storing

/-- Where the field lies in the bytes that count, which may be odd in number, the checksum
is stored there and verifies, alone and between two addresses.  UDP never gets the zero
that stands for none.  Where the field does not lie in them, nothing is changed, as long as
its end is a number of the machine.  Beyond that there is no result but in one case. -/
theorem stored_checksums_verify (overflow : Overflow) (bytes : Bytes) (offset length : UInt64) :
    (offset.toNat % 2 = 0 → offset.toNat + 2 ≤ length.toNat → length.toNat ≤ bytes.length →
      (∃ sum after, Stores (fun other => ipChecksum overflow other offset length)
        (fun other => verifies other length.toNat)
        (fun covered => onesComplement (words covered))
        bytes offset.toNat length.toNat sum after) ∧
      ∀ transport source destination, ∃ sum after, Stores
        (fun other => transportChecksum transport source destination overflow other offset length)
        (fun other => verifiesTransport transport source destination other length.toNat)
        (fun covered => stored transport (onesComplement
          (words (pseudoHeader source destination transport length.toNat ++ covered))))
        bytes offset.toNat length.toNat sum after ∧ (transport = .udp → sum ≠ 0)) ∧
    (min length.toNat bytes.length < offset.toNat + 2 → offset.toNat + 2 < UInt64.size →
      ipChecksum overflow bytes offset length = some (0, bytes) ∧
      ∀ transport source destination,
        transportChecksum transport source destination overflow bytes offset length =
          some (0, bytes)) ∧
    (UInt64.size ≤ offset.toNat + 2 →
      ipChecksum overflow bytes offset length = resultBeyond overflow bytes offset length ∧
      ∀ transport source destination,
        transportChecksum transport source destination overflow bytes offset length =
          resultBeyond overflow bytes offset length) := by
  refine ⟨fun even room inside => ?_, fun small counts => ?_, fun beyond => ?_⟩
  · exact ⟨ipChecksum_stores even room inside, fun transport source destination =>
      transportChecksum_stores transport source destination even room inside⟩
  · have unfit : ∀ sumOf, storeSum sumOf overflow bytes offset length = some (0, bytes) := by
      intro sumOf
      rw [storeSum_of_lt counts, storeAt, if_pos small]
    exact ⟨unfit _, fun transport source destination => unfit _⟩
  · exact ⟨storeSum_of_le beyond, fun transport source destination => storeSum_of_le beyond⟩

theorem odd_datagram_stored :
    (∃ sum after, Stores
      (fun other => transportChecksum .udp ⟨0x0a000001⟩ ⟨0x01020304⟩ .stops other 6 9)
      (fun other => verifiesTransport .udp ⟨0x0a000001⟩ ⟨0x01020304⟩ other 9)
      (fun covered => stored .udp (onesComplement
        (words (pseudoHeader ⟨0x0a000001⟩ ⟨0x01020304⟩ .udp 9 ++ covered))))
      [0x12, 0x34, 0, 0x35, 0, 9, 0xff, 0xff, 0xab] 6 9 sum after ∧ sum ≠ 0) ∧
    ipChecksum .stops [0x12, 0x34, 0, 0x35, 0, 9, 0xff, 0xff, 0xab] 8 9 =
      some (0, [0x12, 0x34, 0, 0x35, 0, 9, 0xff, 0xff, 0xab]) ∧
    ipChecksum .wraps [0x12, 0x34] 0xfffffffffffffffe 2 = none := by
  obtain ⟨sum, after, stores, positive⟩ := ((stored_checksums_verify .stops
    [0x12, 0x34, 0, 0x35, 0, 9, 0xff, 0xff, 0xab] 6 9).1 (by decide) (by decide)
      (by decide)).2 .udp ⟨0x0a000001⟩ ⟨0x01020304⟩
  refine ⟨⟨sum, after, stores, positive rfl⟩, ?_, ?_⟩
  · exact ((stored_checksums_verify .stops [0x12, 0x34, 0, 0x35, 0, 9, 0xff, 0xff, 0xab] 8
      9).2.1 (by decide) (by decide)).1
  · exact ((stored_checksums_verify .wraps [0x12, 0x34] 0xfffffffffffffffe 2).2.2
      (by decide)).1

/-- A field that would begin two bytes before the end of all offsets lies in no bytes, and
yet it is not passed over. -/
theorem last_even_offset_not_passed_over :
    min (2 : UInt64).toNat ([0x12, 0x34] : Bytes).length <
        (0xfffffffffffffffe : UInt64).toNat + 2 ∧
      ∀ overflow, ipChecksum overflow [0x12, 0x34] 0xfffffffffffffffe 2 ≠
        some (0, [0x12, 0x34]) := by
  refine ⟨by decide, fun overflow => ?_⟩
  cases overflow <;> decide

end Masquerade.Checksum
