import Masquerade.Proofs.Packet.WellFormed

/-!
# What is assembled is taken apart again

The decoders give the header back with its lengths and its checksum filled in, whatever it
held there, and behind it lie the options and the payload as they were given.  The checksum
covers the addresses too: it verifies, and would not if one of their bytes were another.
-/

set_option autoImplicit false

namespace Masquerade.Packet

/-! ## Other addresses -/

def DifferInOneByte (source destination otherSource otherDestination : Ipv4Address) : Prop :=
  ∃ place byte, place < 8 ∧ (source.bytes ++ destination.bytes)[place]? ≠ some byte ∧
    otherSource.bytes ++ otherDestination.bytes =
      (source.bytes ++ destination.bytes).set place byte

structure SealedBetween (transport : Transport) (source destination : Ipv4Address)
    (bytes : Bytes) : Prop where
  verifies : Checksum.verifiesTransport transport source destination bytes bytes.length = true
  misdirected : ∀ otherSource otherDestination,
    DifferInOneByte source destination otherSource otherDestination →
      Checksum.verifiesTransport transport otherSource otherDestination bytes bytes.length = false

def Ipv4Header.addressesOffset : Nat := 12

structure SealedPacket (source destination : Ipv4Address) (packet : Bytes) : Prop where
  verifies : Checksum.verifies packet Ipv4Header.size = true
  misdirected : ∀ otherSource otherDestination,
    DifferInOneByte source destination otherSource otherDestination →
      Checksum.verifies (Bytes.overwrite packet Ipv4Header.addressesOffset
        (otherSource.bytes ++ otherDestination.bytes)) Ipv4Header.size = false

theorem pseudoHeader_of_differ {source destination otherSource otherDestination : Ipv4Address}
    (transport : Transport) (length : Nat)
    (differ : DifferInOneByte source destination otherSource otherDestination) :
    ∃ place byte, ∃ inside :
      place < (Checksum.pseudoHeader source destination transport length).length,
      (Checksum.pseudoHeader source destination transport length)[place] ≠ byte ∧
        Checksum.pseudoHeader otherSource otherDestination transport length =
          (Checksum.pseudoHeader source destination transport length).set place byte := by
  obtain ⟨place, byte, inside, changed, other⟩ := differ
  have within : place < (source.bytes ++ destination.bytes).length := inside
  have parts : ∀ first second : Ipv4Address, Checksum.pseudoHeader first second transport length =
      (first.bytes ++ second.bytes) ++
        ([0, transport.protocol] ++ Bytes.ofWord16 (UInt16.ofNat length)) :=
    fun _ _ => List.append_assoc ..
  refine ⟨place, byte, ?_, ?_, ?_⟩
  · rw [Checksum.length_pseudoHeader]
    omega
  · intro same
    refine changed (List.getElem?_eq_some_iff.mpr ⟨within, ?_⟩)
    rwa [List.getElem_of_eq (parts source destination), List.getElem_append_left within] at same
  · rw [parts otherSource otherDestination, other, parts source destination,
      List.set_append_left _ _ within]

theorem sealedBetween_of_verifies {transport : Transport} {source destination : Ipv4Address}
    {bytes : Bytes}
    (verified : Checksum.verifiesTransport transport source destination bytes bytes.length = true) :
    SealedBetween transport source destination bytes where
  verifies := verified
  misdirected otherSource otherDestination differ := by
    obtain ⟨place, byte, inside, changed, other⟩ :=
      pseudoHeader_of_differ transport bytes.length differ
    simp only [Checksum.verifiesTransport, Checksum.betweenAddresses_eq, Bool.and_eq_true,
      beq_iff_eq] at verified
    have within : place < (Checksum.pseudoHeader source destination transport bytes.length ++
        bytes.take bytes.length).length := by
      rw [List.length_append]
      omega
    have differs : (Checksum.pseudoHeader source destination transport bytes.length ++
        bytes.take bytes.length)[place] ≠ byte := by
      rwa [List.getElem_append_left inside]
    have broken := Checksum.ofBytes_set_ne verified.2 within differs
    rw [List.set_append_left _ _ inside, ← other] at broken
    rw [Checksum.verifiesTransport, Checksum.betweenAddresses_eq, Bool.and_eq_false_iff]
    exact Or.inr (beq_eq_false_iff_ne.mpr broken)

/-! ## Reading back -/

structure ReadBack {Header : Type} (decode : Bytes → Except WireError (Header × Nat)) (size : Nat)
    (header : Header) (options payload bytes : Bytes) : Prop where
  decodes : decode bytes = .ok (header, size + options.length)
  optionsLeft : (bytes.take (size + options.length)).drop size = options
  payloadLeft : bytes.drop (size + options.length) = payload

theorem readBack_of_bare {Header : Type} {decode : Bytes → Except WireError (Header × Nat)}
    {size : Nat} {header : Header} {front payload : Bytes} (length : front.length = size)
    (decodes : decode (front ++ payload) = .ok (header, size)) :
    ReadBack decode size header [] payload (front ++ payload) where
  decodes := decodes
  optionsLeft := List.drop_eq_nil_of_le (List.length_take_le ..)
  payloadLeft := List.drop_left' length

/-- Something is built just if it fits, and it is sound then. -/
structure Builds (built : Except WireError Bytes) (fits : Prop) (Sound : Bytes → Prop) : Prop where
  succeeds : (∃ bytes, built = .ok bytes) ↔ fits
  sound : ∀ bytes, built = .ok bytes → Sound bytes

theorem builds_of {built : Except WireError Bytes} {fits : Prop} {Sound : Bytes → Prop}
    (accepted : fits → ∃ bytes, built = .ok bytes ∧ Sound bytes)
    (refused : ¬ fits → ∃ error, built = .error error) : Builds built fits Sound := by
  have needed : ∀ bytes, built = .ok bytes → fits := by
    intro bytes done
    apply Classical.byContradiction
    intro tooMuch
    obtain ⟨error, failed⟩ := refused tooMuch
    rw [done] at failed
    cases failed
  refine ⟨⟨fun ⟨bytes, done⟩ => needed bytes done, fun fit => ?_⟩, fun bytes done => ?_⟩
  · obtain ⟨bytes, done, _⟩ := accepted fit
    exact ⟨bytes, done⟩
  · obtain ⟨found, same, good⟩ := accepted (needed bytes done)
    rw [done] at same
    cases same
    exact good

/-! ## Segments and datagrams -/

structure IsSegmentBack (source destination : Ipv4Address) (header : TcpHeader)
    (options payload bytes : Bytes) : Prop where
  readBack : ∃ sum, ReadBack TcpHeader.decode TcpHeader.size (header.sized options sum) options
    payload bytes
  sealed : SealedBetween .tcp source destination bytes

theorem tcpSegment_builds (source destination : Ipv4Address) (header : TcpHeader)
    (options payload : Bytes) :
    Builds (tcpSegment source destination header options payload)
      (options.length % 4 = 0 ∧ options.length ≤ 40)
      (IsSegmentBack source destination header options payload) := by
  apply builds_of
  · rintro ⟨whole, most⟩
    obtain ⟨sum, built, _⟩ := tcpSegment_ok source destination header payload whole most
    obtain ⟨segment, _⟩ := isSegmentOf_of_built built
    obtain ⟨sum, decodes⟩ := segment.decodes
    exact ⟨_, built, ⟨sum, decodes, segment.optionsLeft, segment.payloadLeft⟩,
      sealedBetween_of_verifies segment.verifies⟩
  · intro unfit
    exact ⟨_, if_pos (by omega)⟩

structure IsDatagramBack (source destination : Ipv4Address) (header : UdpHeader)
    (payload bytes : Bytes) : Prop where
  readBack : ∃ sum, sum ≠ 0 ∧ (header.sized payload sum).length.toNat = bytes.length ∧
    ReadBack UdpHeader.decode UdpHeader.size (header.sized payload sum) [] payload bytes
  sealed : SealedBetween .udp source destination bytes

theorem udpDatagram_builds (source destination : Ipv4Address) (header : UdpHeader)
    (payload : Bytes) :
    Builds (udpDatagram source destination header payload) (payload.length ≤ 65527)
      (IsDatagramBack source destination header payload) := by
  have minimum : UdpHeader.size = 8 := rfl
  apply builds_of
  · intro short
    have fits : UdpHeader.size + payload.length ≤ 65535 := by omega
    obtain ⟨sum, present, built, verified⟩ := udpDatagram_ok source destination header fits
    have length := UdpHeader.sized_length header payload sum fits
    refine ⟨_, built, ⟨sum, present, ?_, ?_⟩, sealedBetween_of_verifies verified⟩
    · rw [length, List.length_append, UdpHeader.length_encode]
    · exact readBack_of_bare (UdpHeader.length_encode _) (UdpHeader.decode_encode length)
  · intro long
    exact ⟨_, udpDatagram_error source destination header (by omega)⟩

/-! ## Packets -/

structure IsPacketBack (header : Ipv4Header) (payload packet : Bytes) : Prop where
  readBack : ∃ sum, (header.sized payload sum).totalLength.toNat = packet.length ∧
    ReadBack Ipv4Header.decode Ipv4Header.size (header.sized payload sum) [] payload packet
  sealed : SealedPacket header.source header.destination packet

theorem Ipv4Header.addresses_last (header : Ipv4Header) (payload : Bytes) :
    header.encode ++ payload = header.encode.take addressesOffset ++
      ((header.source.bytes ++ header.destination.bytes) ++ payload) := rfl

theorem Ipv4Header.overwrite_addresses (header : Ipv4Header) (payload : Bytes)
    (otherSource otherDestination : Ipv4Address) :
    Bytes.overwrite (header.encode ++ payload) addressesOffset
        (otherSource.bytes ++ otherDestination.bytes) =
      header.encode.take addressesOffset ++
        ((otherSource.bytes ++ otherDestination.bytes) ++ payload) := rfl

theorem sealedPacket_of_verifies {header : Ipv4Header} {payload : Bytes}
    (verified : Checksum.verifies (header.encode ++ payload) Ipv4Header.size = true) :
    SealedPacket header.source header.destination (header.encode ++ payload) where
  verifies := verified
  misdirected otherSource otherDestination differ := by
    obtain ⟨place, byte, inside, changed, other⟩ := differ
    have within : place < (header.source.bytes ++ header.destination.bytes).length := inside
    have front : (header.encode.take Ipv4Header.addressesOffset).length =
        Ipv4Header.addressesOffset := rfl
    have limits : Ipv4Header.addressesOffset + 8 = Ipv4Header.size := rfl
    have moved : (header.encode ++ payload).set (Ipv4Header.addressesOffset + place) byte =
        header.encode.take Ipv4Header.addressesOffset ++
          ((header.source.bytes ++ header.destination.bytes).set place byte ++ payload) := by
      rw [Ipv4Header.addresses_last, List.set_append_right _ _ (by omega), front,
        Nat.add_sub_cancel_left, List.set_append_left _ _ within]
    rw [Ipv4Header.overwrite_addresses, other, ← moved]
    refine Checksum.verifies_set verified (by omega) ?_
    rw [Ipv4Header.addresses_last, List.getElem?_append_right (by omega), front,
      Nat.add_sub_cancel_left, List.getElem?_append_left within]
    exact changed

theorem ipv4Packet_builds (header : Ipv4Header) (payload : Bytes) :
    Builds (ipv4Packet header payload) (payload.length ≤ 65515) (IsPacketBack header payload) := by
  have minimum : Ipv4Header.size = 20 := rfl
  apply builds_of
  · intro short
    have fits : Ipv4Header.size + payload.length ≤ 65535 := by omega
    obtain ⟨sum, built, verified⟩ := ipv4Packet_ok header fits
    have total :
        (header.sized payload sum).totalLength.toNat = Ipv4Header.size + payload.length := by
      rw [Ipv4Header.sized, UInt16.toNat_ofNat']
      omega
    refine ⟨_, built, ⟨sum, ?_, ?_⟩, sealedPacket_of_verifies verified⟩
    · rw [total, List.length_append, Ipv4Header.length_encode]
    · exact readBack_of_bare (Ipv4Header.length_encode _) (Ipv4Header.decode_encode total)
  · intro long
    exact ⟨_, ipv4Packet_error header (by omega)⟩

theorem ethernetFrame_readBack (header : EthernetHeader) (payload : Bytes) :
    ReadBack EthernetHeader.decode EthernetHeader.size header [] payload
      (ethernetFrame header payload) :=
  readBack_of_bare (EthernetHeader.length_encode header) (decode_ethernetFrame header payload)

theorem ipv4Frame_builds (ethernet : EthernetHeader) (header : Ipv4Header) (payload : Bytes) :
    Builds (ipv4Frame ethernet header payload) (payload.length ≤ 65515) fun frame =>
      ∃ packet, ReadBack EthernetHeader.decode EthernetHeader.size ethernet [] packet frame ∧
        IsPacketBack header payload packet := by
  have packets := ipv4Packet_builds header payload
  have minimum : Ipv4Header.size = 20 := rfl
  apply builds_of
  · intro short
    obtain ⟨packet, built⟩ := packets.succeeds.mpr short
    refine ⟨ethernetFrame ethernet packet, ?_, packet, ethernetFrame_readBack ethernet packet,
      packets.sound packet built⟩
    rw [ipv4Frame, built]
  · intro long
    exact ⟨_, ipv4Frame_error ethernet header (by omega)⟩

/-- Each kind of bytes is assembled just if the lengths fit their fields, and is read back as it
was meant. -/
theorem assembled_bytes_read_back (source destination : Ipv4Address) (tcp : TcpHeader)
    (udp : UdpHeader) (ip : Ipv4Header) (ethernet : EthernetHeader) (options payload : Bytes) :
    Builds (tcpSegment source destination tcp options payload)
      (options.length % 4 = 0 ∧ options.length ≤ 40)
      (IsSegmentBack source destination tcp options payload) ∧
    Builds (udpDatagram source destination udp payload) (payload.length ≤ 65527)
      (IsDatagramBack source destination udp payload) ∧
    Builds (ipv4Packet ip payload) (payload.length ≤ 65515) (IsPacketBack ip payload) ∧
    (Builds (ipv4Frame ethernet ip payload) (payload.length ≤ 65515) fun frame =>
      ∃ packet, ReadBack EthernetHeader.decode EthernetHeader.size ethernet [] packet frame ∧
        IsPacketBack ip payload packet) ∧
    ReadBack EthernetHeader.decode EthernetHeader.size ethernet [] payload
      (ethernetFrame ethernet payload) :=
  ⟨tcpSegment_builds source destination tcp options payload,
    udpDatagram_builds source destination udp payload, ipv4Packet_builds ip payload,
    ipv4Frame_builds ethernet ip payload, ethernetFrame_readBack ethernet payload⟩

end Masquerade.Packet
