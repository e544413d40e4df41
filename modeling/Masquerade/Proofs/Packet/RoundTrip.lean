import Masquerade.Proofs.Packet.Locality

/-!
# Headers there and back

Each kind of header is written over a stretch of its own size.  What was written is read
back as it was if its lengths agree with the bytes that are there, and what was read is
written back as it was, but for the two nibbles that reading takes less seriously than
writing does.  All six kinds are cases of one statement, which comes down to what their
codecs do with the bytes at the front.
-/

set_option autoImplicit false

namespace Masquerade.Packet

def byteAt (bytes : Bytes) (place : Nat) : Nat := (bytes.getD place 0).toNat

/-! ## What a reader took -/

namespace Reader

variable {β : Type} {bytes : Bytes} {result : β × Bytes}

theorem word16_taken {next : UInt16 → Reader β} (run : (word16 >>= next) bytes = .ok result) :
    ∃ word rest, bytes = Bytes.ofWord16 word ++ rest ∧ next word rest = .ok result := by
  obtain ⟨high, low, rest, rfl, run⟩ := word16_bind_eq_ok run
  exact ⟨Bytes.word16 high low, rest, by
    rw [Bytes.ofWord16_word16]
    rfl, run⟩

theorem word32_taken {next : UInt32 → Reader β} (run : (word32 >>= next) bytes = .ok result) :
    ∃ word rest, bytes = Bytes.ofWord32 word ++ rest ∧ next word rest = .ok result := by
  match bytes with
  | a :: b :: c :: d :: rest =>
      exact ⟨Bytes.word32 a b c d, rest, by
        rw [Bytes.ofWord32_word32]
        rfl, run⟩
  | [] | [_] | [_, _] | [_, _, _] => cases run

theorem mac_taken {next : Mac → Reader β} (run : (mac >>= next) bytes = .ok result) :
    ∃ address rest, bytes = address.bytes ++ rest ∧ next address rest = .ok result := by
  obtain ⟨_, _, _, _, _, _, rest, rfl, run⟩ := mac_bind_eq_ok run
  exact ⟨_, rest, rfl, run⟩

theorem ipv4Address_taken {next : Ipv4Address → Reader β}
    (run : (ipv4Address >>= next) bytes = .ok result) :
    ∃ address rest, bytes = address.bytes ++ rest ∧ next address rest = .ok result := by
  match bytes with
  | a :: b :: c :: d :: rest =>
      exact ⟨⟨Bytes.word32 a b c d⟩, rest, by
        rw [Ipv4Address.bytes, Bytes.ofWord32_word32]
        rfl, run⟩
  | [] | [_] | [_, _] | [_, _, _] => cases run

end Reader

theorem EthernetHeader.taken_of_reader {bytes rest : Bytes} {header : EthernetHeader}
    (run : reader bytes = .ok (header, rest)) : bytes = header.encode ++ rest := by
  replace run := Reader.mac_taken run
  obtain ⟨_, _, rfl, run⟩ := run
  replace run := Reader.mac_taken run
  obtain ⟨_, _, rfl, run⟩ := run
  replace run := Reader.word16_taken run
  obtain ⟨_, _, rfl, run⟩ := run
  cases run
  rfl

theorem ArpPacket.taken_of_reader {bytes rest : Bytes} {packet : ArpPacket}
    (run : reader bytes = .ok (packet, rest)) : bytes = packet.encode ++ rest := by
  replace run := Reader.word16_taken run
  obtain ⟨_, _, rfl, run⟩ := run
  replace run := Reader.word16_taken run
  obtain ⟨_, _, rfl, run⟩ := run
  replace run := Reader.byte_bind_eq_ok run
  obtain ⟨_, _, rfl, run⟩ := run
  replace run := Reader.byte_bind_eq_ok run
  obtain ⟨_, _, rfl, run⟩ := run
  replace run := Reader.word16_taken run
  obtain ⟨_, _, rfl, run⟩ := run
  replace run := Reader.mac_taken run
  obtain ⟨_, _, rfl, run⟩ := run
  replace run := Reader.ipv4Address_taken run
  obtain ⟨_, _, rfl, run⟩ := run
  replace run := Reader.mac_taken run
  obtain ⟨_, _, rfl, run⟩ := run
  replace run := Reader.ipv4Address_taken run
  obtain ⟨_, _, rfl, run⟩ := run
  cases run
  rfl

theorem UdpHeader.taken_of_reader {bytes rest : Bytes} {header : UdpHeader}
    (run : reader bytes = .ok (header, rest)) : bytes = header.encode ++ rest := by
  replace run := Reader.word16_taken run
  obtain ⟨_, _, rfl, run⟩ := run
  replace run := Reader.word16_taken run
  obtain ⟨_, _, rfl, run⟩ := run
  replace run := Reader.word16_taken run
  obtain ⟨_, _, rfl, run⟩ := run
  replace run := Reader.word16_taken run
  obtain ⟨_, _, rfl, run⟩ := run
  cases run
  rfl

theorem IcmpHeader.taken_of_reader {bytes rest : Bytes} {header : IcmpHeader}
    (run : reader bytes = .ok (header, rest)) : bytes = header.encode ++ rest := by
  replace run := Reader.byte_bind_eq_ok run
  obtain ⟨_, _, rfl, run⟩ := run
  replace run := Reader.byte_bind_eq_ok run
  obtain ⟨_, _, rfl, run⟩ := run
  replace run := Reader.word16_taken run
  obtain ⟨_, _, rfl, run⟩ := run
  cases run
  rfl

/-- The first byte is all that a packet may have otherwise. -/
theorem Ipv4Header.taken_of_reader {bytes rest : Bytes} {header : Ipv4Header} {length : Nat}
    (run : reader bytes = .ok ((header, length), rest)) :
    ∃ first : UInt8, first.toNat / 16 = 4 ∧ length = first.toNat % 16 * 4 ∧ size ≤ length ∧
      bytes = first :: header.encode.tail ++ rest := by
  replace run := Reader.byte_bind_eq_ok run
  obtain ⟨first, _, rfl, run⟩ := run
  have version := (Reader.demand_bind_eq_ok run).1
  replace run := (Reader.demand_bind_eq_ok run).2
  have atLeast := (Reader.demand_bind_eq_ok run).1
  replace run := (Reader.demand_bind_eq_ok run).2
  replace run := Reader.byte_bind_eq_ok run
  obtain ⟨_, _, rfl, run⟩ := run
  replace run := Reader.word16_taken run
  obtain ⟨_, _, rfl, run⟩ := run
  replace run := Reader.word16_taken run
  obtain ⟨_, _, rfl, run⟩ := run
  replace run := Reader.word16_taken run
  obtain ⟨_, _, rfl, run⟩ := run
  replace run := Reader.byte_bind_eq_ok run
  obtain ⟨_, _, rfl, run⟩ := run
  replace run := Reader.byte_bind_eq_ok run
  obtain ⟨_, _, rfl, run⟩ := run
  replace run := Reader.word16_taken run
  obtain ⟨_, _, rfl, run⟩ := run
  replace run := Reader.ipv4Address_taken run
  obtain ⟨_, _, rfl, run⟩ := run
  replace run := Reader.ipv4Address_taken run
  obtain ⟨_, _, rfl, run⟩ := run
  cases run
  exact ⟨first, beq_iff_eq.mp version, rfl, of_decide_eq_true atLeast, rfl⟩

/-- The byte with the size is all that a segment may have otherwise. -/
theorem TcpHeader.taken_of_reader {bytes rest : Bytes} {header : TcpHeader}
    (run : reader bytes = .ok (header, rest)) :
    ∃ offset : UInt8, header.headerLength = offset.toNat / 16 * 4 ∧
      size ≤ header.headerLength ∧ bytes = header.encode.set 12 offset ++ rest := by
  replace run := Reader.word16_taken run
  obtain ⟨_, _, rfl, run⟩ := run
  replace run := Reader.word16_taken run
  obtain ⟨_, _, rfl, run⟩ := run
  replace run := Reader.word32_taken run
  obtain ⟨_, _, rfl, run⟩ := run
  replace run := Reader.word32_taken run
  obtain ⟨_, _, rfl, run⟩ := run
  replace run := Reader.byte_bind_eq_ok run
  obtain ⟨offset, _, rfl, run⟩ := run
  have atLeast := (Reader.demand_bind_eq_ok run).1
  replace run := (Reader.demand_bind_eq_ok run).2
  replace run := Reader.byte_bind_eq_ok run
  obtain ⟨_, _, rfl, run⟩ := run
  replace run := Reader.word16_taken run
  obtain ⟨_, _, rfl, run⟩ := run
  replace run := Reader.word16_taken run
  obtain ⟨_, _, rfl, run⟩ := run
  replace run := Reader.word16_taken run
  obtain ⟨_, _, rfl, run⟩ := run
  cases run
  exact ⟨offset, rfl, of_decide_eq_true atLeast, rfl⟩

/-! ## Formats -/

/-- How a kind of header is laid out, and how far and when it is read back. -/
structure Format (Header : Type) where
  size : Nat
  encode : Header → Bytes
  decode : Bytes → Except WireError (Header × Nat)
  /-- Whether the fields can hold what the header says. -/
  Fits : Header → Prop := fun _ => True
  /-- How far reading moves on. -/
  extent : Header → Nat := fun _ => size
  /-- Whether the lengths in the header agree with the number of bytes from its start on. -/
  Admits : Header → Nat → Prop := fun _ _ => True
  /-- Whether the bytes of a header say nothing that writing does not say. -/
  IsPlain : Bytes → Prop := fun _ => True

/-- Writing changes the bytes of the header and no others.  What was written is read back if
its lengths are admitted, and only then.  What was read is written back as it was just if
it is plain. -/
structure Format.RoundTrips {Header : Type} (format : Format Header) : Prop where
  written : ∀ header, format.Fits header → ∀ bytes offset, offset + format.size ≤ bytes.length →
    ∃ after, writeAt (format.encode header) bytes offset = .ok (after, offset + format.size) ∧
      after.length = bytes.length ∧
      (∀ place, place < offset ∨ offset + format.size ≤ place → after[place]? = bytes[place]?) ∧
      (format.Admits header (bytes.length - offset) →
        readAt format.decode after offset = .ok (header, offset + format.extent header)) ∧
      (¬ format.Admits header (bytes.length - offset) →
        ∃ error, readAt format.decode after offset = .error error)
  reproduced : ∀ bytes offset header next, readAt format.decode bytes offset = .ok (header, next) →
    (format.IsPlain (bytes.drop offset) ↔
      writeAt (format.encode header) bytes offset = .ok (bytes, offset + format.size))

def EthernetHeader.format : Format EthernetHeader := { size, encode, decode }

def ArpPacket.format : Format ArpPacket := { size, encode, decode }

def IcmpHeader.format : Format IcmpHeader := { size, encode, decode }

/-- Options are read over and never written. -/
def Ipv4Header.format : Format Ipv4Header where
  size := size
  encode := encode
  decode := decode
  Admits header available :=
    size ≤ header.totalLength.toNat ∧ header.totalLength.toNat ≤ available
  IsPlain bytes := byteAt bytes 0 % 16 = 5

/-- Four bits beside the size are reserved, and written as zeros. -/
def TcpHeader.format : Format TcpHeader where
  size := size
  encode := encode
  decode := decode
  Fits header := header.headerLength % 4 = 0 ∧ size ≤ header.headerLength ∧
    header.headerLength ≤ 60
  extent := headerLength
  Admits header available := header.headerLength ≤ available
  IsPlain bytes := byteAt bytes 12 % 16 = 0

def UdpHeader.format : Format UdpHeader where
  size := size
  encode := encode
  decode := decode
  Admits header available := size ≤ header.length.toNat ∧ header.length.toNat ≤ available

/-! ## At an offset -/

section Offset

variable {Header : Type} {format : Format Header}

theorem writeAt_eq_self_iff {encoded bytes : Bytes} {offset : Nat}
    (room : offset + encoded.length ≤ bytes.length) :
    writeAt encoded bytes offset = .ok (bytes, offset + encoded.length) ↔
      (bytes.drop offset).take encoded.length = encoded := by
  rw [← Bytes.overwrite_eq_self_iff (by omega), writeAt_of_room room, Except.ok.injEq,
    Prod.mk.injEq]
  exact and_iff_left rfl

/-- It is enough to know what the codec does with bytes that the header is in front of. -/
theorem Format.roundTrips_of (sized : ∀ header, (format.encode header).length = format.size)
    (reads : ∀ header rest, format.Fits header → format.Admits header (format.size + rest.length) →
      format.decode (format.encode header ++ rest) = .ok (header, format.extent header))
    (refuses : ∀ header rest, format.Fits header →
      ¬ format.Admits header (format.size + rest.length) →
      ∃ error, format.decode (format.encode header ++ rest) = .error error)
    (taken : ∀ bytes header length, format.decode bytes = .ok (header, length) →
      format.size ≤ bytes.length ∧
        (format.IsPlain bytes ↔ bytes.take format.size = format.encode header)) :
    format.RoundTrips where
  written header fits bytes offset room := by
    have space : offset + (format.encode header).length ≤ bytes.length := sized header ▸ room
    have inside : offset ≤ bytes.length := by omega
    have length := Bytes.length_overwrite bytes (format.encode header) offset space
    have front : (Bytes.overwrite bytes offset (format.encode header)).drop offset =
        format.encode header ++ bytes.drop (offset + (format.encode header).length) :=
      Bytes.drop_overwrite inside
    have available : bytes.length - offset =
        format.size + (bytes.drop (offset + (format.encode header).length)).length := by
      rw [List.length_drop, sized]
      omega
    refine ⟨Bytes.overwrite bytes offset (format.encode header), ?_, length, ?_, ?_, ?_⟩
    · rw [writeAt_of_room space, sized]
    · intro place outside
      rw [← sized header] at outside
      exact Bytes.getElem?_overwrite_of_outside space outside
    · intro admits
      apply readAt_of_ok (length ▸ inside)
      rw [front]
      exact reads header _ fits (available ▸ admits)
    · intro differs
      obtain ⟨error, failed⟩ := refuses header _ fits (available ▸ differs)
      exact ⟨error, readAt_of_error (length ▸ inside) (front ▸ failed)⟩
  reproduced bytes offset header next read := by
    obtain ⟨inside, length, decoded, rfl⟩ := readAt_eq_ok_iff.mp read
    obtain ⟨enough, plain⟩ := taken _ header length decoded
    rw [List.length_drop] at enough
    have room : offset + (format.encode header).length ≤ bytes.length := by
      rw [sized]
      omega
    rw [plain, ← sized header]
    exact (writeAt_eq_self_iff room).symm

end Offset

/-! ## Headers without checks -/

theorem EthernetHeader.decode_eq (bytes : Bytes) :
    decode bytes = (reader bytes).map fun found => (found.1, size) := by
  rw [decode]
  cases reader bytes <;> rfl

theorem ArpPacket.decode_eq (bytes : Bytes) :
    decode bytes = (reader bytes).map fun found => (found.1, size) := by
  rw [decode]
  cases reader bytes <;> rfl

theorem IcmpHeader.decode_eq (bytes : Bytes) :
    decode bytes = (reader bytes).map fun found => (found.1, size) := by
  rw [decode]
  cases reader bytes <;> rfl

theorem roundTrips_of_reader {Header : Type} {size : Nat} {encode : Header → Bytes}
    {decode : Bytes → Except WireError (Header × Nat)} {reader : Reader Header}
    (decodes : ∀ bytes, decode bytes = (reader bytes).map fun found => (found.1, size))
    (sized : ∀ header, (encode header).length = size)
    (reads : ∀ header rest, reader (encode header ++ rest) = .ok (header, rest))
    (taken : ∀ {bytes rest header}, reader bytes = .ok (header, rest) →
      bytes = encode header ++ rest) :
    Format.RoundTrips ({ size, encode, decode } : Format Header) := by
  apply Format.roundTrips_of sized
  · intro header rest _ _
    change decode (encode header ++ rest) = .ok (header, size)
    rw [decodes, reads]
    rfl
  · exact fun _ _ _ differs => absurd trivial differs
  · intro bytes header length decoded
    change decode bytes = .ok (header, length) at decoded
    rw [decodes] at decoded
    cases run : reader bytes with
    | error error =>
        rw [run] at decoded
        cases decoded
    | ok found =>
        rw [run] at decoded
        cases decoded
        rw [taken run, List.length_append, sized, List.take_left' (sized found.1)]
        exact ⟨Nat.le_add_right .., iff_of_true trivial rfl⟩

theorem EthernetHeader.format_roundTrips : format.RoundTrips :=
  roundTrips_of_reader decode_eq length_encode reader_encode taken_of_reader

theorem ArpPacket.format_roundTrips : format.RoundTrips :=
  roundTrips_of_reader decode_eq length_encode reader_encode taken_of_reader

theorem IcmpHeader.format_roundTrips : format.RoundTrips :=
  roundTrips_of_reader decode_eq length_encode reader_encode taken_of_reader

/-! ## Headers with lengths -/

theorem UdpHeader.format_roundTrips : format.RoundTrips := by
  apply Format.roundTrips_of length_encode
  · rintro header rest _ ⟨atLeast, atMost⟩
    refine decode_eq_ok_iff.mpr ⟨rest, reader_encode header rest, atLeast, ?_⟩
    rwa [List.length_append, length_encode]
  · intro header rest _ differs
    change ¬ (size ≤ header.length.toNat ∧ header.length.toNat ≤ size + rest.length) at differs
    refine ⟨.refused .udpLength, ?_⟩
    change decode (header.encode ++ rest) = _
    rw [decode, reader_encode]
    simp only [List.length_append, length_encode]
    exact if_pos (by omega)
  · intro bytes header length decoded
    obtain ⟨rfl, _⟩ := fields_of_decode decoded
    obtain ⟨rest, run, _⟩ := decode_eq_ok_iff.mp decoded
    have split : bytes = header.encode ++ rest := taken_of_reader run
    rw [split, List.length_append]
    exact ⟨Nat.le_add_right .., iff_of_true trivial (List.take_left' (length_encode header))⟩

theorem Ipv4Header.format_roundTrips : format.RoundTrips := by
  apply Format.roundTrips_of length_encode
  · rintro header rest _ ⟨atLeast, atMost⟩
    refine decode_eq_ok_iff.mpr ⟨rest, reader_encode header rest, atLeast, ?_⟩
    rwa [List.length_append, length_encode]
  · intro header rest _ differs
    change ¬ (size ≤ header.totalLength.toNat ∧
      header.totalLength.toNat ≤ size + rest.length) at differs
    refine ⟨.refused .ipv4TotalLength, ?_⟩
    change decode (header.encode ++ rest) = _
    have enough : ¬ size + rest.length < size := by omega
    rw [decode, reader_encode]
    simp only [List.length_append, length_encode, if_neg enough]
    exact if_pos (by omega)
  · intro bytes header length decoded
    obtain ⟨rest, run, _⟩ := decode_eq_ok_iff.mp decoded
    obtain ⟨first, version, _, _, rfl⟩ := taken_of_reader run
    have sized : (first :: header.encode.tail).length = size := rfl
    change size ≤ (first :: header.encode.tail ++ rest).length ∧
      (first.toNat % 16 = 5 ↔ (first :: header.encode.tail ++ rest).take size = header.encode)
    rw [List.length_append, sized, List.take_left' sized]
    refine ⟨Nat.le_add_right .., ?_⟩
    -- Behind the first byte there is no difference.
    have whole : header.encode = 0x45 :: header.encode.tail := rfl
    rw [whole, List.tail_cons, List.cons.injEq, and_iff_left rfl, ← UInt8.toNat_inj]
    change first.toNat % 16 = 5 ↔ first.toNat = 69
    omega

theorem TcpHeader.decode_eq_ok_iff {bytes : Bytes} {header : TcpHeader} {length : Nat} :
    decode bytes = .ok (header, length) ↔ ∃ rest, reader bytes = .ok (header, rest) ∧
      length = header.headerLength ∧ header.headerLength ≤ bytes.length := by
  rw [decode]
  cases reader bytes with
  | error fault => simp
  | ok found =>
      obtain ⟨parsed, rest⟩ := found
      dsimp only
      constructor
      · intro decoded
        split at decoded
        · cases decoded
        · cases decoded
          exact ⟨rest, rfl, rfl, by omega⟩
      · rintro ⟨_, same, rfl, atMost⟩
        cases same
        rw [if_neg (by omega)]

theorem TcpHeader.format_roundTrips : format.RoundTrips := by
  apply Format.roundTrips_of length_encode
  · rintro header rest ⟨whole, atLeast, atMost⟩ admits
    refine decode_eq_ok_iff.mpr ⟨rest, reader_encode header rest whole atLeast atMost, rfl, ?_⟩
    rw [List.length_append]
    exact admits
  · rintro header rest ⟨whole, atLeast, atMost⟩ differs
    change ¬ header.headerLength ≤ size + rest.length at differs
    refine ⟨.incomplete, ?_⟩
    change decode (header.encode ++ rest) = _
    rw [decode, reader_encode header rest whole atLeast atMost]
    simp only [List.length_append, length_encode]
    exact if_pos (by omega)
  · intro bytes header length decoded
    obtain ⟨rest, run, _⟩ := decode_eq_ok_iff.mp decoded
    obtain ⟨offset, own, _, rfl⟩ := taken_of_reader run
    have sized : (header.encode.set 12 offset).length = size := rfl
    have bound := offset.toNat_lt
    change size ≤ (header.encode.set 12 offset ++ rest).length ∧
      (offset.toNat % 16 = 0 ↔ (header.encode.set 12 offset ++ rest).take size = header.encode)
    rw [List.length_append, sized, List.take_left' sized]
    refine ⟨Nat.le_add_right .., ?_⟩
    -- The byte with the size is the only one that may differ.
    have value : (UInt8.ofNat (header.headerLength / 4 % 16 * 16)).toNat =
        offset.toNat / 16 * 16 := by
      rw [UInt8.toNat_ofNat', own]
      omega
    constructor
    · intro plain
      have same : offset = UInt8.ofNat (header.headerLength / 4 % 16 * 16) := by
        rw [← UInt8.toNat_inj, value]
        omega
      rw [same]
      rfl
    · intro same
      have written : some offset = some (UInt8.ofNat (header.headerLength / 4 % 16 * 16)) :=
        congrArg (fun bytes : Bytes => bytes[12]?) same
      rw [← Option.some.inj written] at value
      omega

/-- Each of the six kinds of header is written and read without loss. -/
theorem headers_round_trip :
    EthernetHeader.format.RoundTrips ∧ ArpPacket.format.RoundTrips ∧
      Ipv4Header.format.RoundTrips ∧ TcpHeader.format.RoundTrips ∧
      UdpHeader.format.RoundTrips ∧ IcmpHeader.format.RoundTrips :=
  ⟨EthernetHeader.format_roundTrips, ArpPacket.format_roundTrips, Ipv4Header.format_roundTrips,
    TcpHeader.format_roundTrips, UdpHeader.format_roundTrips, IcmpHeader.format_roundTrips⟩

end Masquerade.Packet
