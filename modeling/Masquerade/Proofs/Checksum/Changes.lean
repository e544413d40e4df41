import Masquerade.Proofs.Checksum.Storing

/-!
# Which changes a checksum tells

Bytes verify where their sum is a multiple of 65535 above zero.  A change of one byte moves
the sum by less than that and not by nothing, wherever the byte stands, so that no such
change goes unnoticed.  A change of one word moves it by 65535 only between the two zeros,
0x0000 and 0xffff; and as a transport's number is summed along, no sum is nothing but
zeros, so that behind a pseudo-header neither of them is told from the other.
-/

set_option autoImplicit false

namespace Masquerade.Checksum

/-! ## One byte -/

structure DifferAt (place : Nat) (first second : Bytes) : Prop where
  length : second.length = first.length
  changed : first[place]? ≠ second[place]?
  elsewhere : ∀ other, other ≠ place → first[other]? = second[other]?

namespace DifferAt

variable {place : Nat} {first second : Bytes}

theorem lt_length (differ : DifferAt place first second) : place < first.length := by
  refine Nat.lt_of_not_le fun outside => differ.changed ?_
  rw [List.getElem?_eq_none outside, List.getElem?_eq_none (differ.length ▸ outside)]

theorem exists_set (differ : DifferAt place first second) :
    ∃ byte, first[place]? ≠ some byte ∧ second = first.set place byte := by
  have inside := differ.lt_length
  have insideToo : place < second.length := differ.length ▸ inside
  refine ⟨second[place], ?_, ?_⟩
  · rw [← List.getElem?_eq_getElem insideToo]
    exact differ.changed
  · apply List.ext_getElem?
    intro other
    by_cases here : other = place
    · rw [here, List.getElem?_set_self inside, List.getElem?_eq_getElem insideToo]
    · rw [List.getElem?_set_ne (Ne.symm here), differ.elsewhere other here]

theorem of_set {bytes : Bytes} {byte : UInt8} (inside : place < bytes.length)
    (changed : bytes[place]? ≠ some byte) : DifferAt place bytes (bytes.set place byte) where
  length := List.length_set
  changed := by rwa [List.getElem?_set_self inside]
  elsewhere _ away := (List.getElem?_set_ne (Ne.symm away)).symm

theorem between (differ : DifferAt place first second) (front back : Bytes) :
    DifferAt (front.length + place) (front ++ first ++ back) (front ++ second ++ back) := by
  obtain ⟨byte, changed, rfl⟩ := differ.exists_set
  have inside := differ.lt_length
  have split : front ++ first.set place byte ++ back =
      (front ++ first ++ back).set (front.length + place) byte := by
    rw [List.append_assoc, List.append_assoc, List.set_append_right _ _ (Nat.le_add_right ..),
      Nat.add_sub_cancel_left, List.set_append_left _ _ inside]
  have there : (front ++ first ++ back)[front.length + place]? = first[place]? := by
    rw [List.append_assoc, List.getElem?_append_right (Nat.le_add_right ..),
      Nat.add_sub_cancel_left, List.getElem?_append_left inside]
  rw [split]
  refine of_set ?_ (there ▸ changed)
  simp only [List.length_append]
  omega

end DifferAt

theorem ofBytes_ne_of_differAt {place : Nat} {first second : Bytes}
    (differ : DifferAt place first second) (zero : ofBytes first = 0) : ofBytes second ≠ 0 := by
  obtain ⟨byte, changed, rfl⟩ := differ.exists_set
  refine ofBytes_set_ne zero differ.lt_length fun same => changed ?_
  rw [List.getElem?_eq_getElem differ.lt_length, same]

/-! ## One word -/

/-- The word at an offset is `old` in the first bytes and `new` in the second, and that is
all in which they may differ. -/
structure ReplacesWord (offset : Nat) (old new : UInt16) (first second : Bytes) : Prop where
  room : offset + 2 ≤ first.length
  elsewhere : SameButField offset first second
  before : field first offset = Bytes.ofWord16 old
  after : field second offset = Bytes.ofWord16 new

def AreTheTwoZeros (first second : UInt16) : Prop :=
  first = 0x0000 ∧ second = 0xffff ∨ first = 0xffff ∧ second = 0x0000

theorem put_field {bytes : Bytes} {offset : Nat} {word : UInt16}
    (room : offset + 2 ≤ bytes.length) (here : field bytes offset = Bytes.ofWord16 word) :
    put bytes offset word = bytes :=
  (Bytes.overwrite_eq_self_iff (by omega)).mpr here

namespace ReplacesWord

variable {offset : Nat} {old new : UInt16} {first second : Bytes}

theorem of_put {bytes : Bytes} (room : offset + 2 ≤ bytes.length)
    (here : field bytes offset = Bytes.ofWord16 old) :
    ReplacesWord offset old new bytes (put bytes offset new) :=
  ⟨room, sameButField_put room new, here, field_put room new⟩

theorem eq_put (replaces : ReplacesWord offset old new first second) :
    second = put first offset new := by
  rw [← put_congr replaces.room replaces.elsewhere,
    put_field (replaces.elsewhere.length ▸ replaces.room) replaces.after]

theorem sum (replaces : ReplacesWord offset old new first second) (even : offset % 2 = 0)
    (total : Nat) :
    addWords total second + old.toNat = addWords total first + new.toNat := by
  have newSum := addWords_put even replaces.room total new
  have oldSum := addWords_put even replaces.room total old
  rw [← replaces.eq_put] at newSum
  rw [put_field replaces.room replaces.before] at oldSum
  omega

theorem take (replaces : ReplacesWord offset old new first second) {length : Nat}
    (inside : offset + 2 ≤ length) :
    ReplacesWord offset old new (first.take length) (second.take length) := by
  have covered : ∀ bytes : Bytes, field (bytes.take length) offset = field bytes offset := by
    intro bytes
    rw [field, field, List.drop_take, List.take_take, Nat.min_eq_left (by omega)]
  refine ⟨?_, ⟨?_, ?_⟩, (covered first).trans replaces.before,
    (covered second).trans replaces.after⟩
  · rw [List.length_take]
    have room := replaces.room
    omega
  · rw [List.length_take, List.length_take, replaces.elsewhere.length]
  · intro place outside
    rw [List.getElem?_take, List.getElem?_take, replaces.elsewhere.elsewhere place outside]

theorem between (replaces : ReplacesWord offset old new first second) (front back : Bytes) :
    ReplacesWord (front.length + offset) old new (front ++ first ++ back)
      (front ++ second ++ back) := by
  have room := replaces.room
  have length := replaces.elsewhere.length
  have inside : ∀ bytes : Bytes, offset + 2 ≤ bytes.length →
      field (front ++ bytes ++ back) (front.length + offset) = field bytes offset := by
    intro bytes enough
    rw [field, field, List.append_assoc, List.drop_length_add_append,
      List.drop_append_of_le_length (by omega),
      List.take_append_of_le_length (by rw [List.length_drop]; omega)]
  refine ⟨?_, ⟨?_, ?_⟩, (inside first room).trans replaces.before,
    (inside second (length ▸ room)).trans replaces.after⟩
  · simp only [List.length_append]
    omega
  · simp only [List.length_append, length]
  · intro place outside
    rw [List.append_assoc, List.append_assoc]
    rcases Nat.lt_or_ge place front.length with before | behind
    · rw [List.getElem?_append_left before, List.getElem?_append_left before]
    · rw [List.getElem?_append_right behind, List.getElem?_append_right behind,
        List.getElem?_append, List.getElem?_append, length,
        replaces.elsewhere.elsewhere (place - front.length) (by omega)]

end ReplacesWord

/-- Where sums differ by a word, the zero checksum is kept between the two zeros alone. -/
theorem ofBytes_eq_zero_iff_twoZeros {first second : Bytes} {old new : UInt16}
    (zero : ofBytes first = 0) (positive : 0 < addWords 0 second) (changed : old ≠ new)
    (sums : addWords 0 second + old.toNat = addWords 0 first + new.toNat) :
    ofBytes second = 0 ↔ AreTheTwoZeros old new := by
  obtain ⟨_, multiple⟩ := (ofBytes_eq_zero_iff first).mp zero
  have oldBound := old.toNat_lt
  have newBound := new.toNat_lt
  have differ : old.toNat ≠ new.toNat := fun same => changed (UInt16.toNat_inj.mp same)
  rw [ofBytes_eq_zero_iff]
  -- The first sum is a multiple of 65535, so the second is one just if the words are 65535
  -- apart, and that far apart are only the two zeros.
  simp only [AreTheTwoZeros, ← UInt16.toNat_inj, UInt16.toNat_ofNat]
  omega

/-! ## Between two addresses -/

def summed (transport : Transport) (source destination : Ipv4Address) (bytes : Bytes)
    (length : Nat) : Bytes :=
  pseudoHeader source destination transport length ++ bytes.take length

section Summed

variable {transport : Transport} {source destination : Ipv4Address} {bytes : Bytes} {length : Nat}

theorem verifiesTransport_eq_true_iff :
    verifiesTransport transport source destination bytes length = true ↔
      length ≤ bytes.length ∧ ofBytes (summed transport source destination bytes length) = 0 := by
  simp only [verifiesTransport, betweenAddresses_eq, summed, Bool.and_eq_true, decide_eq_true_eq, beq_iff_eq]

/-- The number of a transport is not zero, and so no sum with a pseudo-header is. -/
theorem addWords_summed_pos :
    0 < addWords 0 (summed transport source destination bytes length) := by
  have number : 0 < transport.protocol.toNat := by cases transport <;> decide
  rw [summed, addWords_append _ _ _ (by rw [length_pseudoHeader]), addWords_eq]
  simp only [pseudoHeader, Ipv4Address.bytes, Bytes.ofWord32, Bytes.ofWord16, addWords,
    List.cons_append, List.nil_append]
  omega

/-! Both addresses and the bytes that are covered stand somewhere in what is summed. -/

theorem summed_source : summed transport source destination bytes length =
    [] ++ source.bytes ++ (destination.bytes ++ [0, transport.protocol] ++
      Bytes.ofWord16 (UInt16.ofNat length) ++ bytes.take length) := by
  simp only [summed, pseudoHeader, List.append_assoc, List.nil_append]

theorem summed_destination : summed transport source destination bytes length =
    source.bytes ++ destination.bytes ++ ([0, transport.protocol] ++
      Bytes.ofWord16 (UInt16.ofNat length) ++ bytes.take length) := by
  simp only [summed, pseudoHeader, List.append_assoc]

theorem summed_covered : summed transport source destination bytes length =
    pseudoHeader source destination transport length ++ bytes.take length ++ [] := by
  rw [summed, List.append_nil]

variable {otherSource otherDestination : Ipv4Address} {otherBytes : Bytes}

theorem verifiesTransport_of_differAt {place : Nat}
    (verified : verifiesTransport transport source destination bytes length = true)
    (differ : DifferAt place (summed transport source destination bytes length)
      (summed transport otherSource otherDestination otherBytes length)) :
    verifiesTransport transport otherSource otherDestination otherBytes length = false := by
  have zero := (verifiesTransport_eq_true_iff.mp verified).2
  refine Bool.eq_false_iff.mpr fun still => ?_
  exact ofBytes_ne_of_differAt differ zero (verifiesTransport_eq_true_iff.mp still).2

theorem verifiesTransport_of_replacesWord {offset : Nat} {old new : UInt16}
    (verified : verifiesTransport transport source destination bytes length = true)
    (same : otherBytes.length = bytes.length) (even : offset % 2 = 0) (changed : old ≠ new)
    (replaces : ReplacesWord offset old new (summed transport source destination bytes length)
      (summed transport otherSource otherDestination otherBytes length)) :
    verifiesTransport transport otherSource otherDestination otherBytes length = true ↔
      AreTheTwoZeros old new := by
  obtain ⟨enough, zero⟩ := verifiesTransport_eq_true_iff.mp verified
  rw [← same] at enough
  rw [verifiesTransport_eq_true_iff, ofBytes_eq_zero_iff_twoZeros zero addWords_summed_pos changed
    (replaces.sum even 0)]
  exact and_iff_right enough

end Summed

/-- Wherever a byte is changed, in the bytes that are covered or in an address, they do not
verify any more.  Between two addresses, another word at an even place goes unnoticed just
where the two words are the two zeros. -/
theorem changed_bytes_do_not_verify :
    (∀ bytes length, verifies bytes length = true →
      ∀ place other, place < length → DifferAt place bytes other →
        verifies other length = false) ∧
    ∀ transport source destination bytes length,
      verifiesTransport transport source destination bytes length = true →
        (∀ place other, place < length → DifferAt place bytes other →
          verifiesTransport transport source destination other length = false) ∧
        (∀ place other, DifferAt place source.bytes other.bytes →
          verifiesTransport transport other destination bytes length = false) ∧
        (∀ place other, DifferAt place destination.bytes other.bytes →
          verifiesTransport transport source other bytes length = false) ∧
        ∀ offset old new, offset % 2 = 0 → old ≠ new →
          (∀ other, offset + 2 ≤ length → ReplacesWord offset old new bytes other →
            (verifiesTransport transport source destination other length = true ↔
              AreTheTwoZeros old new)) ∧
          (∀ other, ReplacesWord offset old new source.bytes other.bytes →
            (verifiesTransport transport other destination bytes length = true ↔
              AreTheTwoZeros old new)) ∧
          ∀ other, ReplacesWord offset old new destination.bytes other.bytes →
            (verifiesTransport transport source other bytes length = true ↔
              AreTheTwoZeros old new) := by
  constructor
  · intro bytes length verified place other inside differ
    obtain ⟨byte, changed, rfl⟩ := differ.exists_set
    exact verifies_set verified inside changed
  · intro transport source destination bytes length verified
    refine ⟨?_, ?_, ?_, fun offset old new even changed => ⟨?_, ?_, ?_⟩⟩
    · intro place other inside differ
      obtain ⟨byte, changed, rfl⟩ := differ.exists_set
      exact verifiesTransport_set verified inside changed
    · intro place other differ
      have placed : DifferAt (0 + place) (summed transport source destination bytes length)
          (summed transport other destination bytes length) := by
        rw [summed_source, summed_source]
        exact differ.between [] _
      exact verifiesTransport_of_differAt verified placed
    · intro place other differ
      have placed : DifferAt (4 + place) (summed transport source destination bytes length)
          (summed transport source other bytes length) := by
        rw [summed_destination, summed_destination]
        exact differ.between source.bytes _
      exact verifiesTransport_of_differAt verified placed
    · intro other inside replaces
      have placed : ReplacesWord (12 + offset) old new
          (summed transport source destination bytes length)
          (summed transport source destination other length) := by
        rw [summed_covered, summed_covered]
        exact (replaces.take inside).between (pseudoHeader source destination transport length) []
      exact verifiesTransport_of_replacesWord verified replaces.elsewhere.length.symm (by omega)
        changed placed
    · intro other replaces
      have placed : ReplacesWord (0 + offset) old new
          (summed transport source destination bytes length)
          (summed transport other destination bytes length) := by
        rw [summed_source, summed_source]
        exact replaces.between [] _
      exact verifiesTransport_of_replacesWord verified rfl (by omega) changed placed
    · intro other replaces
      have placed : ReplacesWord (4 + offset) old new
          (summed transport source destination bytes length)
          (summed transport source other bytes length) := by
        rw [summed_destination, summed_destination]
        exact replaces.between source.bytes _
      exact verifiesTransport_of_replacesWord verified rfl (by omega) changed placed

def oddDatagram : Bytes := [0x12, 0x34, 0, 0x35, 0, 11, 0x34, 0x68, 0, 0, 0xab]

/-- Its last byte and its addresses are guarded; the zero word stands for the other zero,
and the word of the address for no other. -/
theorem oddDatagram_changes :
    verifies [0x12, 0x34, 0xed, 0xcb] 4 = true ∧
      DifferAt 1 [0x12, 0x34, 0xed, 0xcb] [0x12, 0x35, 0xed, 0xcb] ∧
      verifies [0x12, 0x35, 0xed, 0xcb] 4 = false ∧
    verifiesTransport .udp ⟨0x0a000001⟩ ⟨0x01020304⟩ oddDatagram 11 = true ∧
      DifferAt 10 oddDatagram (oddDatagram.set 10 0xac) ∧
      verifiesTransport .udp ⟨0x0a000001⟩ ⟨0x01020304⟩ (oddDatagram.set 10 0xac) 11 = false ∧
      DifferAt 3 (⟨0x0a000001⟩ : Ipv4Address).bytes (⟨0x0a0000ff⟩ : Ipv4Address).bytes ∧
      verifiesTransport .udp ⟨0x0a0000ff⟩ ⟨0x01020304⟩ oddDatagram 11 = false ∧
      DifferAt 0 (⟨0x01020304⟩ : Ipv4Address).bytes (⟨0x02020304⟩ : Ipv4Address).bytes ∧
      verifiesTransport .udp ⟨0x0a000001⟩ ⟨0x02020304⟩ oddDatagram 11 = false ∧
      ReplacesWord 8 0x0000 0xffff oddDatagram (put oddDatagram 8 0xffff) ∧
      verifiesTransport .udp ⟨0x0a000001⟩ ⟨0x01020304⟩ (put oddDatagram 8 0xffff) 11 = true ∧
      ReplacesWord 2 0x0001 0x0100 (⟨0x0a000001⟩ : Ipv4Address).bytes
        (⟨0x0a000100⟩ : Ipv4Address).bytes ∧
      ¬ verifiesTransport .udp ⟨0x0a000100⟩ ⟨0x01020304⟩ oddDatagram 11 = true := by
  have header : verifies [0x12, 0x34, 0xed, 0xcb] 4 = true := by decide
  have datagram : verifiesTransport .udp ⟨0x0a000001⟩ ⟨0x01020304⟩ oddDatagram 11 = true := by
    decide
  obtain ⟨byte, source, destination, words⟩ := changed_bytes_do_not_verify.2 _ _ _ _ _ datagram
  have second : DifferAt 1 [0x12, 0x34, 0xed, 0xcb] [0x12, 0x35, 0xed, 0xcb] :=
    .of_set (by decide) (by decide)
  have last : DifferAt 10 oddDatagram (oddDatagram.set 10 0xac) := .of_set (by decide) (by decide)
  have guest : DifferAt 3 (⟨0x0a000001⟩ : Ipv4Address).bytes (⟨0x0a0000ff⟩ : Ipv4Address).bytes :=
    .of_set (by decide) (by decide)
  have outside : DifferAt 0 (⟨0x01020304⟩ : Ipv4Address).bytes (⟨0x02020304⟩ : Ipv4Address).bytes :=
    .of_set (by decide) (by decide)
  have zeros : ReplacesWord 8 0x0000 0xffff oddDatagram (put oddDatagram 8 0xffff) :=
    .of_put (by decide) (by decide)
  have moved : ReplacesWord 2 0x0001 0x0100 (⟨0x0a000001⟩ : Ipv4Address).bytes
      (⟨0x0a000100⟩ : Ipv4Address).bytes := .of_put (by decide) (by decide)
  refine ⟨header, second, changed_bytes_do_not_verify.1 _ _ header 1 _ (by decide) second,
    datagram, last, byte 10 _ (by decide) last, guest, source 3 _ guest, outside,
    destination 0 _ outside, zeros, ?_, moved, ?_⟩
  · exact ((words 8 0x0000 0xffff (by decide) (by decide)).1 _ (by decide) zeros).mpr
      (Or.inl ⟨rfl, rfl⟩)
  · rw [(words 2 0x0001 0x0100 (by decide) (by decide)).2.1 _ moved]
    simp [AreTheTwoZeros]

end Masquerade.Checksum
