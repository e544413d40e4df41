import Masquerade.Proofs.Gateway.Spread
import Masquerade.Proofs.Packet.Locality

/-!
# Frames that were damaged on the way

Checksums guard the header of a packet, segments, messages and, where they carry one,
datagrams.  A frame in which one guarded byte has changed asks for nothing: it is spread
like any other, and that is all.  The lengths, addresses and protocol that lead to a
payload lie in the header, whose own checksum is looked at before any of them is used.
-/

set_option autoImplicit false

namespace Masquerade

open Packet
open Kernel (Makes)

/-! ## What is guarded -/

namespace Packet.Delivery

def headerLength (delivery : Delivery) : Nat :=
  delivery.ip.totalLength.toNat - delivery.payload.length

/-- A checksum guards the byte at this place of the payload: anywhere in a segment or a
message, and in the ports or the data of a datagram that carries a checksum. -/
inductive GuardsPayload (delivery : Delivery) (place : Nat) : Prop
  | segment (protocol : delivery.ip.protocol = Transport.tcp.protocol)
      (intact : Checksum.verifiesTransport .tcp delivery.ip.source delivery.ip.destination
        delivery.payload delivery.payload.length = true)
      (inside : place < delivery.payload.length)
  | message (protocol : delivery.ip.protocol = Ipv4Header.icmp)
      (intact : Checksum.verifies delivery.payload delivery.payload.length = true)
      (inside : place < delivery.payload.length)
  | datagram (header : UdpHeader) (protocol : delivery.ip.protocol = Transport.udp.protocol)
      (parses : UdpHeader.decode delivery.payload = .ok (header, UdpHeader.size))
      (summed : header.checksum ≠ 0)
      (intact : Checksum.verifiesTransport .udp delivery.ip.source delivery.ip.destination
        (delivery.payload.take header.length.toNat) header.length.toNat = true)
      (apart : place < 4 ∨ UdpHeader.size ≤ place) (inside : place < header.length.toNat)

/-- A checksum guards the byte at this place of the frame: in the payload, or in the header
of the packet behind its first byte, which tells how far the header goes. -/
inductive Guards (delivery : Delivery) : Nat → Prop
  | header {place : Nat} (behindFirst : 0 < place) (inside : place < delivery.headerLength) :
      Guards delivery (EthernetHeader.size + place)
  | payload {place : Nat} (guards : delivery.GuardsPayload place) :
      Guards delivery (EthernetHeader.size + delivery.headerLength + place)

end Packet.Delivery

/-! ## Packets -/

namespace Request

section Packets

variable {packet : Bytes} {ip : Ipv4Header} {length place : Nat} {byte : UInt8}

theorem openPacket_set_header (subnet : Subnet)
    (parsed : Ipv4Header.decode packet = .ok (ip, length))
    (verified : Checksum.verifies packet length = true) (behindFirst : 0 < place)
    (inside : place < length) (changed : packet[place]? ≠ some byte) :
    openPacket subnet (packet.set place byte) = none := by
  simp only [openPacket]
  split
  · rfl
  · rename_i _ found parsedToo
    have same : found = length := by
      obtain ⟨_, run, _, _⟩ := Ipv4Header.decode_eq_ok_iff.mp parsed
      obtain ⟨_, runToo, _, _⟩ := Ipv4Header.decode_eq_ok_iff.mp parsedToo
      rw [(Ipv4Header.fields_of_reader run).1, (Ipv4Header.fields_of_reader runToo).1,
        List.getD_eq_getElem?_getD, List.getElem?_set_ne (by omega),
        ← List.getD_eq_getElem?_getD]
    rw [same, Checksum.verifies_set verified inside changed]
    simp

theorem openPacket_set_payload (subnet : Subnet)
    (parsed : Ipv4Header.decode packet = .ok (ip, length))
    (verified : Checksum.verifies packet length = true) (behind : length ≤ place) :
    openPacket subnet (packet.set place byte) =
      if isServed subnet ip.destination then
        some (ip, ((packet.take ip.totalLength.toNat).drop length).set (place - length) byte)
      else none := by
  have large := Ipv4Header.size_le_of_decode parsed
  obtain ⟨_, _, _, fits⟩ := Ipv4Header.decode_eq_ok_iff.mp parsed
  have head : ∀ count, count ≤ place → (packet.set place byte).take count = packet.take count :=
    fun count behind => List.take_set_of_le behind
  have parsedToo : Ipv4Header.decode (packet.set place byte) = .ok (ip, length) := by
    rw [← parsed]
    apply Ipv4Header.decode_congr
    · exact head _ (by omega)
    · rw [List.length_set]
      omega
    · exact List.length_set
  have verifiedToo : Checksum.verifies (packet.set place byte) length = true := by
    rw [Checksum.verifies, List.length_set, head length behind]
    exact verified
  have moved : ((packet.set place byte).take ip.totalLength.toNat).drop length =
      ((packet.take ip.totalLength.toNat).drop length).set (place - length) byte := by
    rw [List.take_set, List.drop_set, if_neg (by omega)]
  simp only [openPacket, parsedToo, verifiedToo, true_and, moved]

end Packets

/-! ## Payloads -/

section Payloads

variable {bytes : Bytes} {ip : Ipv4Header} {place : Nat} {byte : UInt8}

theorem ofSegment_set (guest : Mac)
    (intact : Checksum.verifiesTransport .tcp ip.source ip.destination bytes bytes.length = true)
    (inside : place < bytes.length) (changed : bytes[place]? ≠ some byte) :
    ofSegment guest ip (bytes.set place byte) = none := by
  simp only [ofSegment, List.length_set,
    Checksum.verifiesTransport_set intact inside changed, Bool.not_false, if_true, ite_self]

theorem ofMessage_set (subnet : Subnet) (guest : Mac)
    (intact : Checksum.verifies bytes bytes.length = true)
    (inside : place < bytes.length) (changed : bytes[place]? ≠ some byte) :
    ofMessage subnet guest ip (bytes.set place byte) = none := by
  simp only [ofMessage, List.length_set, Checksum.verifies_set intact inside changed,
    Bool.false_eq_true, false_and, if_false]
  split
  · rfl
  · split <;> rfl

theorem ofDatagram_set (guest : Mac) {header : UdpHeader}
    (parses : UdpHeader.decode bytes = .ok (header, UdpHeader.size))
    (summed : header.checksum ≠ 0)
    (intact : Checksum.verifiesTransport .udp ip.source ip.destination
      (bytes.take header.length.toNat) header.length.toNat = true)
    (apart : place < 4 ∨ UdpHeader.size ≤ place) (inside : place < header.length.toNat)
    (changed : bytes[place]? ≠ some byte) :
    ofDatagram guest ip (bytes.set place byte) = none := by
  obtain ⟨later, parsesToo, length, checksum⟩ := UdpHeader.decode_set parses apart byte
  obtain ⟨_, _, _, fits⟩ := UdpHeader.decode_eq_ok_iff.mp parses
  have whole : ((bytes.set place byte).take header.length.toNat).length = header.length.toNat := by
    rw [List.length_take, List.length_set]
    omega
  have broken : Checksum.verifiesTransport .udp ip.source ip.destination
      ((bytes.set place byte).take header.length.toNat) header.length.toNat = false := by
    rw [List.take_set]
    refine Checksum.verifiesTransport_set intact inside ?_
    rwa [List.getElem?_take_of_lt inside]
  simp only [ofDatagram, parsesToo, length, checksum, whole, broken, summed, Bool.false_eq_true,
    or_self, if_false, ite_self]

end Payloads

/-! ## Frames -/

section Frames

variable {frame : Bytes} {delivery : Delivery} {length place : Nat} {byte : UInt8}

theorem ofFrame_set (subnet : Subnet)
    (decoded : EthernetHeader.decode frame = .ok (delivery.ethernet, EthernetHeader.size))
    (isIpv4 : delivery.ethernet.etherType = EthernetHeader.ipv4)
    (enough : EthernetHeader.size ≤ frame.length)
    (ignored : ofPacket subnet delivery.ethernet.source
      ((frame.drop EthernetHeader.size).set place byte) = none) :
    ofFrame subnet (frame.set (EthernetHeader.size + place) byte) = none := by
  have decodedToo : EthernetHeader.decode (frame.set (EthernetHeader.size + place) byte) =
      .ok (delivery.ethernet, EthernetHeader.size) := by
    rw [← decoded]
    apply EthernetHeader.decode_congr
    · exact List.take_set_of_le (Nat.le_add_right ..)
    · rwa [List.length_set]
  have packet : (frame.set (EthernetHeader.size + place) byte).drop EthernetHeader.size =
      (frame.drop EthernetHeader.size).set place byte := by
    rw [List.drop_set, if_neg (by omega), Nat.add_sub_cancel_left]
  rw [ofFrame]
  split
  · rfl
  · rename_i opened
    obtain ⟨start, found, _, rfl⟩ := openFrame_eq_some_iff.mp opened
    rw [decodedToo] at found
    cases found
    rw [if_pos isIpv4, packet, ignored]

theorem ofPacket_set_payload (subnet : Subnet) {packet : Bytes}
    (parsed : Ipv4Header.decode packet = .ok (delivery.ip, length))
    (verified : Checksum.verifies packet length = true)
    (payload : delivery.payload =
      (packet.take delivery.ip.totalLength.toNat).drop length)
    (ignored : ofDelivery subnet
      { delivery with payload := delivery.payload.set place byte } = none) :
    ofPacket subnet delivery.ethernet.source (packet.set (length + place) byte) = none := by
  simp only [ofPacket]
  rw [openPacket_set_payload subnet parsed verified (Nat.le_add_right ..), ← payload,
    Nat.add_sub_cancel_left]
  split
  · rfl
  · rename_i opened
    split at opened
    · cases opened
      exact ignored
    · cases opened

theorem ofDelivery_set (subnet : Subnet) (guards : delivery.GuardsPayload place)
    (changed : delivery.payload[place]? ≠ some byte) :
    ofDelivery subnet { delivery with payload := delivery.payload.set place byte } = none := by
  simp only [ofDelivery]
  cases guards with
  | message protocol intact inside =>
      rw [protocol, if_pos rfl]
      exact ofMessage_set subnet _ intact inside changed
  | segment protocol intact inside =>
      rw [protocol, if_neg (by decide), if_pos rfl]
      exact ofSegment_set _ intact inside changed
  | datagram header protocol parses summed intact apart inside =>
      rw [protocol, if_neg (by decide), if_neg (by decide), if_pos rfl]
      exact ofDatagram_set _ parses summed intact apart inside changed

/-- A frame with a change in a guarded place asks for nothing. -/
theorem ofFrame_set_eq_none (subnet : Subnet) (intact : Delivery.read frame = some delivery)
    (guards : delivery.Guards place) (changed : frame[place]? ≠ some byte) :
    ofFrame subnet (frame.set place byte) = none := by
  obtain ⟨start, length, decoded, isIpv4, parsed, verified, payload⟩ :=
    Delivery.read_eq_some_iff.mp intact
  cases EthernetHeader.start_of_decode decoded
  have least := Ipv4Header.size_le_of_decode parsed
  obtain ⟨_, _, atLeast, atMost⟩ := Ipv4Header.decode_eq_ok_iff.mp parsed
  have enough : EthernetHeader.size ≤ frame.length := by
    rw [List.length_drop] at atMost
    rw [Ipv4Header.size] at least
    omega
  have size : delivery.headerLength = length := by
    have rest := congrArg List.length payload
    rw [List.length_drop, List.length_take] at rest
    rw [Delivery.headerLength]
    omega
  cases guards with
  | header behindFirst inside =>
      rw [size] at inside
      rw [← List.getElem?_drop] at changed
      refine ofFrame_set subnet decoded isIpv4 enough ?_
      rw [ofPacket, openPacket_set_header subnet parsed verified behindFirst inside changed]
  | payload guards =>
      rw [size, Nat.add_assoc] at changed ⊢
      refine ofFrame_set subnet decoded isIpv4 enough ?_
      refine ofPacket_set_payload subnet parsed verified payload (ofDelivery_set subnet guards ?_)
      rw [payload, List.getElem?_drop, List.getElem?_take]
      split
      · rwa [List.getElem?_drop]
      · intro none
        cases none

end Frames

end Request

end Masquerade
