import Masquerade.Proofs.Packet.Reading

/-!
# What reading a header depends on

A reader takes as many bytes as its header has, and nothing that follows them matters to
it: neither to the header nor to whether there is one.  The fields that lead on from a
header, to what it carries and how far that goes, stand at fixed places.
-/

set_option autoImplicit false

namespace Masquerade.Packet

namespace Reader

variable {α β : Type}

/-- What the reader does is settled by the first `count` bytes, and it leaves the rest. -/
def Takes (reader : Reader α) (count : Nat) : Prop :=
  ∀ front : Bytes, front.length = count →
    ∃ outcome : Except WireError α, ∀ rest, reader (front ++ rest) = outcome.map (·, rest)

theorem takes_pure (value : α) : (pure value : Reader α).Takes 0 := by
  intro front none
  rw [List.length_eq_zero_iff.mp none]
  exact ⟨.ok value, fun _ => rfl⟩

theorem takes_demand (condition : Bool) (fault : Fault) : (demand condition fault).Takes 0 := by
  intro front none
  rw [List.length_eq_zero_iff.mp none]
  cases condition with
  | true => exact ⟨.ok (), fun _ => rfl⟩
  | false => exact ⟨.error (.refused fault), fun _ => rfl⟩

theorem takes_byte : byte.Takes 1 := by
  intro front one
  obtain ⟨first, rfl⟩ := List.length_eq_one_iff.mp one
  exact ⟨.ok first, fun _ => rfl⟩

theorem Takes.bind {first : Reader α} {next : α → Reader β} {few more : Nat}
    (start : first.Takes few) (later : ∀ value, (next value).Takes more) :
    (first >>= next).Takes (few + more) := by
  intro front length
  have early : (front.take few).length = few := by
    rw [List.length_take]
    omega
  have late : (front.drop few).length = more := by
    rw [List.length_drop]
    omega
  obtain ⟨outcome, runs⟩ := start _ early
  have split : ∀ rest, front ++ rest = front.take few ++ (front.drop few ++ rest) := by
    intro rest
    rw [← List.append_assoc, List.take_append_drop]
  cases outcome with
  | error fault =>
      refine ⟨.error fault, fun rest => ?_⟩
      rw [split]
      exact bind_of_error next (runs _)
  | ok value =>
      obtain ⟨outcome, ends⟩ := later value _ late
      refine ⟨outcome, fun rest => ?_⟩
      rw [split, bind_of_ok next (runs _)]
      exact ends rest

theorem takes_word16 : word16.Takes 2 :=
  takes_byte.bind fun _ => takes_byte.bind fun _ => takes_pure _

theorem takes_word32 : word32.Takes 4 :=
  takes_byte.bind fun _ => takes_byte.bind fun _ => takes_byte.bind fun _ =>
    takes_byte.bind fun _ => takes_pure _

theorem takes_mac : mac.Takes 6 :=
  takes_byte.bind fun _ => takes_byte.bind fun _ => takes_byte.bind fun _ =>
    takes_byte.bind fun _ => takes_byte.bind fun _ => takes_byte.bind fun _ => takes_pure _

theorem takes_ipv4Address : ipv4Address.Takes 4 :=
  takes_word32.bind fun _ => takes_pure _

theorem Takes.congr {reader : Reader α} {count : Nat} (takes : reader.Takes count)
    {first second : Bytes} (same : first.take count = second.take count)
    (enough : count ≤ first.length) :
    ∃ outcome : Except WireError α, reader first = outcome.map (·, first.drop count) ∧
      reader second = outcome.map (·, second.drop count) := by
  have length : (first.take count).length = count := by
    rw [List.length_take]
    omega
  obtain ⟨outcome, runs⟩ := takes _ length
  have front := runs (first.drop count)
  have frontToo := runs (second.drop count)
  rw [List.take_append_drop] at front
  rw [same, List.take_append_drop] at frontToo
  exact ⟨outcome, front, frontToo⟩

end Reader

/-! ## Headers -/

theorem EthernetHeader.takes_reader : reader.Takes size :=
  Reader.takes_mac.bind fun _ => Reader.takes_mac.bind fun _ =>
    Reader.takes_word16.bind fun _ => Reader.takes_pure _

theorem Ipv4Header.takes_reader : reader.Takes size :=
  Reader.takes_byte.bind fun _ => (Reader.takes_demand _ _).bind fun _ =>
    (Reader.takes_demand _ _).bind fun _ => Reader.takes_byte.bind fun _ =>
    Reader.takes_word16.bind fun _ => Reader.takes_word16.bind fun _ =>
    Reader.takes_word16.bind fun _ => Reader.takes_byte.bind fun _ =>
    Reader.takes_byte.bind fun _ => Reader.takes_word16.bind fun _ =>
    Reader.takes_ipv4Address.bind fun _ => Reader.takes_ipv4Address.bind fun _ =>
    Reader.takes_pure _

theorem UdpHeader.takes_reader : reader.Takes size :=
  Reader.takes_word16.bind fun _ => Reader.takes_word16.bind fun _ =>
    Reader.takes_word16.bind fun _ => Reader.takes_word16.bind fun _ => Reader.takes_pure _

theorem ArpPacket.takes_reader : reader.Takes size :=
  Reader.takes_word16.bind fun _ => Reader.takes_word16.bind fun _ =>
    Reader.takes_byte.bind fun _ => Reader.takes_byte.bind fun _ =>
    Reader.takes_word16.bind fun _ => Reader.takes_mac.bind fun _ =>
    Reader.takes_ipv4Address.bind fun _ => Reader.takes_mac.bind fun _ =>
    Reader.takes_ipv4Address.bind fun _ => Reader.takes_pure _

theorem Ipv4Header.decode_eq_ok_iff {bytes : Bytes} {header : Ipv4Header} {length : Nat} :
    decode bytes = .ok (header, length) ↔
      ∃ rest, reader bytes = .ok ((header, length), rest) ∧
        length ≤ header.totalLength.toNat ∧ header.totalLength.toNat ≤ bytes.length := by
  rw [decode]
  cases reader bytes with
  | error fault => simp
  | ok found =>
      obtain ⟨⟨ip, size⟩, rest⟩ := found
      dsimp only
      constructor
      · intro parsed
        split at parsed
        · cases parsed
        · split at parsed
          · cases parsed
          · cases parsed
            exact ⟨rest, rfl, by omega, by omega⟩
      · rintro ⟨_, same, atLeast, atMost⟩
        cases same
        rw [if_neg (by omega), if_neg (by omega)]

section Decode

variable {first second : Bytes}

theorem EthernetHeader.decode_congr (same : first.take size = second.take size)
    (enough : size ≤ first.length) : decode first = decode second := by
  obtain ⟨outcome, run, runToo⟩ := takes_reader.congr same enough
  rw [decode, decode, run, runToo]
  cases outcome <;> rfl

theorem ArpPacket.decode_congr (same : first.take size = second.take size)
    (enough : size ≤ first.length) : decode first = decode second := by
  obtain ⟨outcome, run, runToo⟩ := takes_reader.congr same enough
  rw [decode, decode, run, runToo]
  cases outcome <;> rfl

theorem Ipv4Header.decode_congr (same : first.take size = second.take size)
    (enough : size ≤ first.length) (long : first.length = second.length) :
    decode first = decode second := by
  obtain ⟨outcome, run, runToo⟩ := takes_reader.congr same enough
  rw [decode, decode, run, runToo, long]
  cases outcome <;> rfl

end Decode

/-! ## Where the fields are -/

/-- The word at an offset; bytes that are not there count as zero. -/
def wordAt (bytes : Bytes) (offset : Nat) : Nat :=
  (bytes.getD offset 0).toNat * 256 + (bytes.getD (offset + 1) 0).toNat

namespace Reader

variable {β : Type} {bytes : Bytes} {result : β × Bytes}

theorem byte_bind_eq_ok {next : UInt8 → Reader β} (run : (byte >>= next) bytes = .ok result) :
    ∃ value rest, bytes = value :: rest ∧ next value rest = .ok result := by
  cases bytes with
  | nil => cases run
  | cons value rest => exact ⟨value, rest, rfl, run⟩

theorem word16_bind_eq_ok {next : UInt16 → Reader β}
    (run : (word16 >>= next) bytes = .ok result) :
    ∃ high low rest, bytes = high :: low :: rest ∧
      next (Bytes.word16 high low) rest = .ok result := by
  match bytes with
  | high :: low :: rest => exact ⟨high, low, rest, rfl, run⟩
  | [] | [_] => cases run

theorem mac_bind_eq_ok {next : Mac → Reader β} (run : (mac >>= next) bytes = .ok result) :
    ∃ a b c d e f rest, bytes = a :: b :: c :: d :: e :: f :: rest ∧
      next ⟨a, b, c, d, e, f⟩ rest = .ok result := by
  match bytes with
  | a :: b :: c :: d :: e :: f :: rest => exact ⟨a, b, c, d, e, f, rest, rfl, run⟩
  | [] | [_] | [_, _] | [_, _, _] | [_, _, _, _] | [_, _, _, _, _] => cases run

theorem demand_bind_eq_ok {condition : Bool} {fault : Fault} {next : Unit → Reader β}
    (run : (demand condition fault >>= next) bytes = .ok result) :
    condition = true ∧ next () bytes = .ok result := by
  cases condition with
  | true => exact ⟨rfl, run⟩
  | false => cases run

end Reader

theorem EthernetHeader.etherType_of_decode {bytes : Bytes} {header : EthernetHeader} {start : Nat}
    (decoded : decode bytes = .ok (header, start)) :
    header.etherType.toNat = wordAt bytes 12 := by
  simp only [decode] at decoded
  split at decoded
  · cases decoded
  · rename_i run
    cases decoded
    rw [reader] at run
    replace run := Reader.mac_bind_eq_ok run
    obtain ⟨_, _, _, _, _, _, _, rfl, run⟩ := run
    replace run := Reader.mac_bind_eq_ok run
    obtain ⟨_, _, _, _, _, _, _, rfl, run⟩ := run
    replace run := Reader.word16_bind_eq_ok run
    obtain ⟨_, _, _, rfl, run⟩ := run
    cases run
    exact Bytes.toNat_word16 ..

theorem Ipv4Header.fields_of_reader {bytes rest : Bytes} {header : Ipv4Header} {length : Nat}
    (run : reader bytes = .ok ((header, length), rest)) :
    length = (bytes.getD 0 0).toNat % 16 * 4 ∧ header.totalLength.toNat = wordAt bytes 2 ∧
      header.protocol = bytes.getD 9 0 := by
  rw [reader] at run
  replace run := Reader.byte_bind_eq_ok run
  obtain ⟨first, _, rfl, run⟩ := run
  replace run := (Reader.demand_bind_eq_ok (Reader.demand_bind_eq_ok run).2).2
  replace run := Reader.byte_bind_eq_ok run
  obtain ⟨_, _, rfl, run⟩ := run
  replace run := Reader.word16_bind_eq_ok run
  obtain ⟨_, _, _, rfl, run⟩ := run
  replace run := Reader.word16_bind_eq_ok run
  obtain ⟨_, _, _, rfl, run⟩ := run
  replace run := Reader.word16_bind_eq_ok run
  obtain ⟨_, _, _, rfl, run⟩ := run
  replace run := Reader.byte_bind_eq_ok run
  obtain ⟨_, _, rfl, run⟩ := run
  replace run := Reader.byte_bind_eq_ok run
  obtain ⟨protocol, _, rfl, run⟩ := run
  -- The checksum and both addresses stand behind all of these.
  iterate 3 obtain ⟨_, _, _, run⟩ := Reader.exists_of_bind run
  cases run
  exact ⟨rfl, Bytes.toNat_word16 .., rfl⟩

/-! ## Headers of datagrams -/

theorem UdpHeader.reader_cons (a b c d e f g h : UInt8) (rest : Bytes) :
    reader (a :: b :: c :: d :: e :: f :: g :: h :: rest) =
      .ok (⟨Bytes.word16 a b, Bytes.word16 c d, Bytes.word16 e f, Bytes.word16 g h⟩, rest) := rfl

theorem UdpHeader.exists_of_reader {bytes rest : Bytes} {header : UdpHeader}
    (run : reader bytes = .ok (header, rest)) :
    ∃ a b c d e f g h, bytes = a :: b :: c :: d :: e :: f :: g :: h :: rest ∧
      header = ⟨Bytes.word16 a b, Bytes.word16 c d, Bytes.word16 e f, Bytes.word16 g h⟩ := by
  match bytes with
  | a :: b :: c :: d :: e :: f :: g :: h :: _ =>
      rw [reader_cons] at run
      cases run
      exact ⟨a, b, c, d, e, f, g, h, rfl, rfl⟩
  | [] | [_] | [_, _] | [_, _, _] | [_, _, _, _] | [_, _, _, _, _] | [_, _, _, _, _, _]
  | [_, _, _, _, _, _, _] => cases run

theorem UdpHeader.decode_eq_ok_iff {bytes : Bytes} {header : UdpHeader} :
    decode bytes = .ok (header, size) ↔ ∃ rest, reader bytes = .ok (header, rest) ∧
      size ≤ header.length.toNat ∧ header.length.toNat ≤ bytes.length := by
  rw [decode]
  cases reader bytes with
  | error fault => simp
  | ok found =>
      obtain ⟨parsed, rest⟩ := found
      dsimp only
      constructor
      · intro decoded
        split at decoded
        · cases decoded
        · cases decoded
          exact ⟨rest, rfl, by omega, by omega⟩
      · rintro ⟨_, same, atLeast, atMost⟩
        cases same
        rw [if_neg (by omega)]

theorem UdpHeader.fields_of_decode {bytes : Bytes} {header : UdpHeader} {length : Nat}
    (decoded : decode bytes = .ok (header, length)) :
    length = size ∧ header.length.toNat = wordAt bytes 4 ∧ size ≤ header.length.toNat ∧
      header.length.toNat ≤ bytes.length := by
  have own : length = size := by
    simp only [decode] at decoded
    split at decoded
    · cases decoded
    · split at decoded
      · cases decoded
      · cases decoded
        rfl
  rw [own] at decoded
  obtain ⟨rest, run, atLeast, atMost⟩ := decode_eq_ok_iff.mp decoded
  obtain ⟨_, _, _, _, _, _, _, _, rfl, rfl⟩ := exists_of_reader run
  exact ⟨own, Bytes.toNat_word16 .., atLeast, atMost⟩

theorem UdpHeader.decode_congr {first second : Bytes}
    (same : first.take size = second.take size) (enough : size ≤ first.length)
    (long : first.length = second.length) : decode first = decode second := by
  obtain ⟨outcome, run, runToo⟩ := takes_reader.congr same enough
  rw [decode, decode, run, runToo, long]
  cases outcome <;> rfl

/-- A change outside of the length and the checksum leaves both. -/
theorem UdpHeader.decode_set {bytes : Bytes} {header : UdpHeader} {place : Nat}
    (parses : decode bytes = .ok (header, size)) (apart : place < 4 ∨ size ≤ place)
    (byte : UInt8) :
    ∃ changed, decode (bytes.set place byte) = .ok (changed, size) ∧
      changed.length = header.length ∧ changed.checksum = header.checksum := by
  obtain ⟨rest, run, atLeast, atMost⟩ := decode_eq_ok_iff.mp parses
  obtain ⟨a, b, c, d, e, f, g, h, rfl, rfl⟩ := exists_of_reader run
  have read : ∃ ports : UInt16 × UInt16, ∃ later, reader
      ((a :: b :: c :: d :: e :: f :: g :: h :: rest).set place byte) =
        .ok (⟨ports.1, ports.2, Bytes.word16 e f, Bytes.word16 g h⟩, later) := by
    match place, apart with
    | 0, _ => exact ⟨⟨_, _⟩, _, reader_cons ..⟩
    | 1, _ => exact ⟨⟨_, _⟩, _, reader_cons ..⟩
    | 2, _ => exact ⟨⟨_, _⟩, _, reader_cons ..⟩
    | 3, _ => exact ⟨⟨_, _⟩, _, reader_cons ..⟩
    | place + 8, _ => exact ⟨⟨_, _⟩, _, reader_cons ..⟩
  obtain ⟨ports, later, runs⟩ := read
  refine ⟨_, decode_eq_ok_iff.mpr ⟨later, runs, atLeast, ?_⟩, rfl, rfl⟩
  rwa [List.length_set]
end Masquerade.Packet
