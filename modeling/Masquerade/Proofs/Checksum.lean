import Masquerade.Checksum

/-!
# A stored checksum verifies

Sums of words add up over stretches of even length, so that the word stored in a
field adds to the sum of everything else.  The checksum brings the sum to a
multiple of 65535 above zero, which is what verification looks for; so does the
other zero that datagrams carry in place of none.  One byte alone cannot move the sum from
one such multiple to another, so that bytes with a change in one place do not verify.
-/

set_option autoImplicit false

namespace Masquerade.Checksum

/-! ## Sums over stretches -/

theorem addWords_ofWord16 (total : Nat) (word : UInt16) :
    addWords total (Bytes.ofWord16 word) = total + word.toNat := by
  have bound := word.toNat_lt
  simp only [Bytes.ofWord16, addWords, UInt8.toNat_ofNat']
  omega

/-- What is stored adds to the sum of all the rest. -/
theorem addWords_put {bytes : Bytes} {offset : Nat} (even : offset % 2 = 0)
    (room : offset + 2 ≤ bytes.length) (total : Nat) (word : UInt16) :
    addWords total (put bytes offset word) = addWords total (put bytes offset 0) + word.toNat := by
  have front : (bytes.take offset).length % 2 = 0 := by
    rw [List.length_take]
    omega
  have field : ∀ word : UInt16, (bytes.take offset ++ Bytes.ofWord16 word).length % 2 = 0 := by
    intro word
    rw [List.length_append, Bytes.length_ofWord16]
    omega
  have split : ∀ word : UInt16, addWords total (put bytes offset word) =
      addWords (addWords total (bytes.take offset) + word.toNat)
        (bytes.drop (offset + 2)) := by
    intro word
    rw [put, Bytes.overwrite, addWords_append _ _ _ (field word), addWords_append _ _ _ front,
      addWords_ofWord16]
    rfl
  rw [split word, split 0, addWords_eq, addWords_eq (_ + (0 : UInt16).toNat)]
  simp only [UInt16.toNat_zero]
  omega

/-! ## Verification -/

theorem fold_eq_ones {total : Nat} (positive : 0 < total) (multiple : total % 65535 = 0) :
    fold total = 65535 := by
  unfold fold
  rw [if_neg (by omega)]
  omega

theorem fold_add_complement (total : Nat) : fold (total + (65535 - fold total)) = 65535 := by
  by_cases zero : total = 0
  · subst zero
    rfl
  · have bound : (total - 1) % 65535 < 65535 := Nat.mod_lt _ (by decide)
    have value : fold total = (total - 1) % 65535 + 1 := if_neg zero
    apply fold_eq_ones
    · omega
    · omega

theorem ofBytes_eq_zero {bytes : Bytes} (ones : fold (addWords 0 bytes) = 65535) :
    ofBytes bytes = 0 := by
  apply UInt16.toNat_inj.mp
  rw [toNat_ofBytes, ones]
  rfl

/-- The two words that a checksum may be stored as bring a sum to all ones. -/
theorem fold_add_stored (transport : Transport) (bytes : Bytes) :
    fold (addWords 0 bytes + (stored transport (ofBytes bytes)).toNat) = 65535 := by
  have complement := fold_add_complement (addWords 0 bytes)
  rw [← toNat_ofBytes] at complement
  cases transport with
  | tcp => exact complement
  | udp =>
      by_cases zero : ofBytes bytes = 0
      · have ones : fold (addWords 0 bytes) = 65535 := by
          have value := toNat_ofBytes bytes
          have bound := fold_le (addWords 0 bytes)
          rw [zero, UInt16.toNat_zero] at value
          omega
        rw [zero]
        unfold fold at ones
        split at ones
        · omega
        · apply fold_eq_ones
          · omega
          · change (addWords 0 bytes + 65535) % 65535 = 0
            omega
      · have kept : stored .udp (ofBytes bytes) = ofBytes bytes := by
          unfold stored
          split
          · rename_i none
            exact absurd none zero
          · rfl
        rwa [kept]

theorem stored_udp_ne_zero (sum : UInt16) : stored .udp sum ≠ 0 := by
  unfold stored
  split
  · decide
  · rename_i none
    exact fun zero => none rfl zero

/-- Bytes with their checksum in place verify behind a front of whole words. -/
theorem ofBytes_put_stored (transport : Transport) (front : Bytes) {bytes : Bytes} {offset : Nat}
    (frontEven : front.length % 2 = 0) (even : offset % 2 = 0)
    (room : offset + 2 ≤ bytes.length) :
    ofBytes (front ++ put bytes offset
      (stored transport (ofBytes (front ++ put bytes offset 0)))) = 0 := by
  apply ofBytes_eq_zero
  have blank := addWords_append 0 front (put bytes offset 0) frontEven
  rw [addWords_append _ _ _ frontEven, addWords_put even room, ← blank]
  exact fold_add_stored transport _

theorem put_length {bytes : Bytes} {offset : Nat} (room : offset + 2 ≤ bytes.length)
    (word : UInt16) : (put bytes offset word).length = bytes.length :=
  Bytes.length_overwrite bytes (Bytes.ofWord16 word) offset room

theorem put_append {bytes : Bytes} {offset : Nat} (room : offset + 2 ≤ bytes.length)
    (rest : Bytes) (word : UInt16) : put (bytes ++ rest) offset word = put bytes offset word ++ rest := by
  have front : offset ≤ bytes.length := by omega
  simp only [put, Bytes.overwrite, Bytes.length_ofWord16, List.take_append_of_le_length front,
    List.drop_append_of_le_length room, List.append_assoc]

theorem storeAt_of_room (sumOf : Nat → Bytes → UInt16) {bytes : Bytes} {offset length : Nat}
    (room : offset + 2 ≤ length) (inside : length ≤ bytes.length) :
    storeAt sumOf bytes offset length =
      (sumOf length ((put bytes offset 0).take length),
        put bytes offset (sumOf length ((put bytes offset 0).take length))) := by
  have covered : min length bytes.length = length := Nat.min_eq_left inside
  have fits : ¬ length < offset + 2 := Nat.not_lt.mpr room
  simp only [storeAt, covered, fits, if_false]

/-- Storing over all bytes puts the checksum into its field, and then they verify. -/
theorem store_verifies {bytes : Bytes} {offset : Nat} (even : offset % 2 = 0)
    (room : offset + 2 ≤ bytes.length) :
    ∃ word, (store bytes offset bytes.length).2 = put bytes offset word ∧
      verifies (put bytes offset word) bytes.length = true := by
  have whole : ∀ word, (put bytes offset word).take bytes.length = put bytes offset word := by
    intro word
    rw [← put_length room word, List.take_length]
  refine ⟨ofBytes (put bytes offset 0), ?_, ?_⟩
  · rw [store, storeAt_of_room _ room (Nat.le_refl _), whole]
  · have sum := ofBytes_put_stored .tcp [] rfl even room
    simp only [List.nil_append, stored] at sum
    simp only [verifies, put_length room, Nat.le_refl, decide_true, Bool.true_and, whole, sum,
      beq_self_eq_true]

theorem storeTransport_verifies (transport : Transport) (source destination : Ipv4Address)
    {bytes : Bytes} {offset : Nat} (even : offset % 2 = 0) (room : offset + 2 ≤ bytes.length) :
    ∃ sum, (storeTransport transport source destination bytes offset bytes.length).2 =
        put bytes offset (stored transport sum) ∧
      verifiesTransport transport source destination
        (put bytes offset (stored transport sum)) bytes.length = true := by
  have whole : ∀ word, (put bytes offset word).take bytes.length = put bytes offset word := by
    intro word
    rw [← put_length room word, List.take_length]
  refine ⟨ofBytes (pseudoHeader source destination transport bytes.length ++ put bytes offset 0),
    ?_, ?_⟩
  · rw [storeTransport, storeAt_of_room _ room (Nat.le_refl _), whole, betweenAddresses_eq]
  · have sum := ofBytes_put_stored transport
      (pseudoHeader source destination transport bytes.length) (by simp) even room
    simp only [verifiesTransport, betweenAddresses_eq, put_length room, Nat.le_refl, decide_true,
      Bool.true_and, whole, sum, beq_self_eq_true]

/-! ## One changed byte -/

/-- What a byte counts for in the sum: the high half of a word stands at even places. -/
def weight (place : Nat) : Nat := if place % 2 = 0 then 256 else 1

@[simp] theorem weight_zero : weight 0 = 256 := rfl

@[simp] theorem weight_one : weight 1 = 1 := rfl

@[simp] theorem weight_add_two (place : Nat) : weight (place + 2) = weight place := by
  rw [weight, Nat.add_mod_right, weight]

theorem addWords_set (byte : UInt8) : ∀ (bytes : Bytes) (place : Nat)
    (inside : place < bytes.length),
    addWords 0 (bytes.set place byte) + weight place * bytes[place].toNat =
      addWords 0 bytes + weight place * byte.toNat
  | [last], 0, _ => by
      simp only [List.set_cons_zero, List.getElem_cons_zero, addWords, weight_zero]
      omega
  | high :: low :: rest, 0, _ => by
      simp only [List.set_cons_zero, List.getElem_cons_zero, addWords, weight_zero]
      rw [addWords_eq (0 + _) rest, addWords_eq (0 + (high.toNat * 256 + _)) rest]
      omega
  | high :: low :: rest, 1, _ => by
      simp only [List.set_cons_succ, List.set_cons_zero, List.getElem_cons_succ,
        List.getElem_cons_zero, addWords, weight_one]
      rw [addWords_eq (0 + _) rest, addWords_eq (0 + (high.toNat * 256 + low.toNat)) rest]
      omega
  | high :: low :: rest, place + 2, inside => by
      have later := addWords_set byte rest place (by simpa using inside)
      simp only [List.set_cons_succ, List.getElem_cons_succ, addWords, weight_add_two]
      rw [addWords_eq (0 + _) rest, addWords_eq (0 + _) (rest.set place byte)]
      omega

/-- The two zeros of the sum are one. -/
theorem ofBytes_eq_zero_iff (bytes : Bytes) :
    ofBytes bytes = 0 ↔ 0 < addWords 0 bytes ∧ addWords 0 bytes % 65535 = 0 := by
  have value := toNat_ofBytes bytes
  constructor
  · intro zero
    rw [zero, UInt16.toNat_zero, fold] at value
    split at value
    · omega
    · omega
  · rintro ⟨positive, multiple⟩
    exact ofBytes_eq_zero (fold_eq_ones positive multiple)

/-- A checksum tells every change of one byte. -/
theorem ofBytes_set_ne {bytes : Bytes} (zero : ofBytes bytes = 0) {place : Nat}
    (inside : place < bytes.length) {byte : UInt8} (changed : bytes[place] ≠ byte) :
    ofBytes (bytes.set place byte) ≠ 0 := by
  intro still
  obtain ⟨_, multiple⟩ := (ofBytes_eq_zero_iff bytes).mp zero
  obtain ⟨_, multipleToo⟩ := (ofBytes_eq_zero_iff _).mp still
  have sums := addWords_set byte bytes place inside
  have bound := bytes[place].toNat_lt
  have boundToo := byte.toNat_lt
  have differ : bytes[place].toNat ≠ byte.toNat := fun same =>
    changed (UInt8.toNat_inj.mp same)
  -- The sums are less than 65535 apart, being both multiples of it.
  rw [weight] at sums
  split at sums <;> omega

theorem ofBytes_covered_set_ne {front bytes : Bytes} {length : Nat}
    (zero : ofBytes (front ++ bytes.take length) = 0) (enough : length ≤ bytes.length)
    {place : Nat} (inside : place < length) {byte : UInt8} (changed : bytes[place]? ≠ some byte) :
    ofBytes (front ++ (bytes.set place byte).take length) ≠ 0 := by
  have within : front.length + place < (front ++ bytes.take length).length := by
    rw [List.length_append, List.length_take]
    omega
  have other : (front ++ bytes.take length)[front.length + place] ≠ byte := by
    simp only [List.getElem_append_right (Nat.le_add_right ..), Nat.add_sub_cancel_left,
      List.getElem_take]
    exact fun same => changed (List.getElem?_eq_some_iff.mpr ⟨by omega, same⟩)
  have broken := ofBytes_set_ne zero within other
  rwa [List.set_append_right _ _ (Nat.le_add_right ..), Nat.add_sub_cancel_left,
    ← List.take_set] at broken

theorem verifies_set {bytes : Bytes} {length : Nat} (verified : verifies bytes length = true)
    {place : Nat} (inside : place < length) {byte : UInt8} (changed : bytes[place]? ≠ some byte) :
    verifies (bytes.set place byte) length = false := by
  simp only [verifies, Bool.and_eq_true, decide_eq_true_eq, beq_iff_eq] at verified
  have broken : ofBytes ([] ++ (bytes.set place byte).take length) ≠ 0 :=
    ofBytes_covered_set_ne verified.2 verified.1 inside changed
  rw [verifies, Bool.and_eq_false_iff]
  exact Or.inr (beq_eq_false_iff_ne.mpr broken)

theorem verifiesTransport_set {transport : Transport} {source destination : Ipv4Address}
    {bytes : Bytes} {length : Nat}
    (verified : verifiesTransport transport source destination bytes length = true) {place : Nat}
    (inside : place < length) {byte : UInt8} (changed : bytes[place]? ≠ some byte) :
    verifiesTransport transport source destination (bytes.set place byte) length = false := by
  simp only [verifiesTransport, betweenAddresses_eq, Bool.and_eq_true, decide_eq_true_eq,
    beq_iff_eq] at verified
  have broken := ofBytes_covered_set_ne verified.2 verified.1 inside changed
  rw [verifiesTransport, betweenAddresses_eq, Bool.and_eq_false_iff]
  exact Or.inr (beq_eq_false_iff_ne.mpr broken)

end Masquerade.Checksum
