import Masquerade.Proofs.Gateway.Requests
import Masquerade.Proofs.Packet.Locality

/-!
# Padding

Bytes behind the end of a packet, and in a packet those behind the end of its datagram,
have no part in what a frame asks for: every layer ends where its own length says.
-/

set_option autoImplicit false

namespace Masquerade

open Packet

/-! ## Frames that differ in padding -/

def headerEnd (frame : Bytes) : Nat := 14 + (frame.getD 14 0).toNat % 16 * 4

def packetEnd (frame : Bytes) : Nat := 14 + wordAt frame 16

def datagramEnd (frame : Bytes) : Nat := headerEnd frame + wordAt frame (headerEnd frame + 4)

/-- The frames agree on all that counts: on the packet, or at least on what stands in the
place of a header; on the question about an address; or on headers and datagram, where
both are long enough for the packet that the datagram is in. -/
inductive DifferInPadding (first second : Bytes) : Prop
  | packet (carries : wordAt first 12 = 0x0800)
      (alike : first.take (max 34 (packetEnd first)) = second.take (max 34 (packetEnd first)))
  | resolution (carries : wordAt first 12 = 0x0806 ∨ wordAt first 12 = 0x8035)
      (alike : first.take 42 = second.take 42)
  | datagram (carries : wordAt first 12 = 0x0800) (protocol : first.getD 23 0 = 17)
      (behindHeader : 34 ≤ headerEnd first) (inside : datagramEnd first ≤ packetEnd first)
      (fits : packetEnd first ≤ first.length) (fitsToo : packetEnd first ≤ second.length)
      (sameLength : wordAt second (headerEnd first + 4) = wordAt first (headerEnd first + 4))
      (alike : first.take (datagramEnd first) = second.take (datagramEnd first))

section Stretches

variable {first second : Bytes}

theorem take_eq_of_le {count fewer : Nat} (alike : first.take count = second.take count)
    (atMost : fewer ≤ count) : first.take fewer = second.take fewer := by
  rw [← Nat.min_eq_left atMost, ← List.take_take, alike, List.take_take]

theorem eq_of_take_eq {count : Nat} (alike : first.take count = second.take count)
    (short : first.length < count) : first = second := by
  have lengths := congrArg List.length alike
  rw [List.length_take, List.length_take] at lengths
  rw [← List.take_of_length_le (Nat.le_of_lt short), alike]
  exact List.take_of_length_le (by omega)

theorem le_length_of_take_eq {count : Nat} (alike : first.take count = second.take count)
    (long : count ≤ first.length) : count ≤ second.length := by
  have lengths := congrArg List.length alike
  rw [List.length_take, List.length_take] at lengths
  omega

theorem take_drop_eq {start count : Nat}
    (alike : first.take (start + count) = second.take (start + count)) :
    (first.drop start).take count = (second.drop start).take count := by
  rw [List.take_drop, alike, List.take_drop]

theorem getD_drop (bytes : Bytes) (start place : Nat) :
    (bytes.drop start).getD place 0 = bytes.getD (start + place) 0 := by
  simp only [List.getD_eq_getElem?_getD, List.getElem?_drop]

theorem wordAt_drop (bytes : Bytes) (start offset : Nat) :
    wordAt (bytes.drop start) offset = wordAt bytes (start + offset) := by
  simp only [wordAt, getD_drop, Nat.add_assoc]

theorem wordAt_take {bytes : Bytes} {count offset : Nat} (inside : offset + 1 < count) :
    wordAt (bytes.take count) offset = wordAt bytes offset := by
  simp only [wordAt, List.getD_eq_getElem?_getD, List.getElem?_take, inside, if_true,
    (by omega : offset < count)]

end Stretches

namespace Request

/-! ## Datagrams -/

section Datagrams

variable {guest : Mac} {ip : Ipv4Header} {first second : Bytes}

theorem ofDatagram_of_undecoded
    (undecoded : ∀ header length, UdpHeader.decode first ≠ .ok (header, length)) :
    ofDatagram guest ip first = none := by
  simp only [ofDatagram]
  split
  · rfl
  · split
    · rfl
    · rename_i header length decoded
      exact absurd decoded (undecoded header length)

theorem ofDatagram_congr (length : Nat) (long : first.length = second.length)
    (alike : first.take length = second.take length)
    (here : UdpHeader.size ≤ first.length → wordAt first 4 = length)
    (there : UdpHeader.size ≤ second.length → wordAt second 4 = length) :
    ofDatagram guest ip first = ofDatagram guest ip second := by
  by_cases whole : UdpHeader.size ≤ length ∧ UdpHeader.size ≤ first.length
  · obtain ⟨atLeast, enough⟩ := whole
    have decoded := UdpHeader.decode_congr (take_eq_of_le alike atLeast) enough long
    simp only [ofDatagram, decoded]
    split
    · rfl
    · split
      · rfl
      · rename_i header _ parsed
        rw [(UdpHeader.fields_of_decode parsed).2.1, there (long ▸ enough), alike]
  · -- The length is too small, or there is no room for a header: neither is read.
    have none : ∀ bytes : Bytes, bytes.length = first.length →
        (UdpHeader.size ≤ bytes.length → wordAt bytes 4 = length) →
        ofDatagram guest ip bytes = none := by
      intro bytes same field
      refine ofDatagram_of_undecoded fun header _ decoded => whole ?_
      obtain ⟨_, read, atLeast, atMost⟩ := UdpHeader.fields_of_decode decoded
      have length := field (Nat.le_trans atLeast atMost)
      omega
    rw [none first rfl here, none second long.symm there]

end Datagrams

/-! ## Packets -/

section Packets

variable {subnet : Subnet} {first second : Bytes}

theorem openPacket_of_reader_error {packet : Bytes} {fault : WireError}
    (run : Ipv4Header.reader packet = .error fault) : openPacket subnet packet = none := by
  simp only [openPacket, Ipv4Header.decode, run]

theorem openPacket_of_reader {packet rest : Bytes} {ip : Ipv4Header} {length : Nat}
    (run : Ipv4Header.reader packet = .ok ((ip, length), rest)) :
    openPacket subnet packet =
      if (length ≤ ip.totalLength.toNat ∧ ip.totalLength.toNat ≤ packet.length) ∧
          Checksum.verifies packet length ∧ isServed subnet ip.destination then
        some (ip, (packet.take ip.totalLength.toNat).drop length)
      else none := by
  by_cases fits : length ≤ ip.totalLength.toNat ∧ ip.totalLength.toNat ≤ packet.length
  · have parsed : Ipv4Header.decode packet = .ok (ip, length) :=
      Ipv4Header.decode_eq_ok_iff.mpr ⟨rest, run, fits⟩
    simp only [openPacket, parsed, fits, true_and]
  · rw [if_neg fun all => fits all.1]
    simp only [openPacket]
    split
    · rfl
    · rename_i _ _ parsed
      obtain ⟨_, again, fitsToo⟩ := Ipv4Header.decode_eq_ok_iff.mp parsed
      rw [run] at again
      cases again
      exact absurd fitsToo fits

theorem verifies_congr {count length : Nat} (alike : first.take count = second.take count)
    (atMost : length ≤ count) (long : count ≤ first.length) :
    Checksum.verifies first length = Checksum.verifies second length := by
  have longToo := le_length_of_take_eq alike long
  rw [Checksum.verifies, Checksum.verifies, take_eq_of_le alike atMost,
    decide_eq_true (by omega : length ≤ first.length),
    decide_eq_true (by omega : length ≤ second.length)]

/-- A packet is read up to its own length, or as far as a header goes. -/
theorem openPacket_congr (enough : 20 ≤ first.length)
    (alike : first.take (max 20 (wordAt first 2)) = second.take (max 20 (wordAt first 2))) :
    openPacket subnet first = openPacket subnet second := by
  by_cases short : first.length < max 20 (wordAt first 2)
  · rw [eq_of_take_eq alike short]
  · have long := le_length_of_take_eq alike (by omega)
    obtain ⟨outcome, run, runToo⟩ :=
      Ipv4Header.takes_reader.congr (take_eq_of_le alike (Nat.le_max_left ..)) enough
    cases outcome with
    | error fault => rw [openPacket_of_reader_error run, openPacket_of_reader_error runToo]
    | ok found =>
        obtain ⟨ip, length⟩ := found
        have total := (Ipv4Header.fields_of_reader run).2.1
        rw [openPacket_of_reader run, openPacket_of_reader runToo, total]
        by_cases inside : length ≤ wordAt first 2
        · rw [verifies_congr alike (by omega) (by omega),
            take_eq_of_le alike (Nat.le_max_right ..)]
          have fits : wordAt first 2 ≤ first.length ↔ wordAt first 2 ≤ second.length := by omega
          simp only [fits]
        · simp only [inside, false_and, if_false]

theorem openPacket_alike (subnet : Subnet) {length count : Nat} (enough : 20 ≤ first.length)
    (header : (first.getD 0 0).toNat % 16 * 4 = length) (behindHeader : 20 ≤ length)
    (inside : length ≤ count) (within : count ≤ wordAt first 2)
    (fits : wordAt first 2 ≤ first.length) (fitsToo : wordAt first 2 ≤ second.length)
    (alike : first.take count = second.take count) :
    (openPacket subnet first = none ∧ openPacket subnet second = none) ∨
      ∃ ip, ip.protocol = first.getD 9 0 ∧
        openPacket subnet first = some (ip, (first.take (wordAt first 2)).drop length) ∧
        openPacket subnet second = some (ip, (second.take (wordAt first 2)).drop length) := by
  have behind : Ipv4Header.size ≤ count := Nat.le_trans behindHeader inside
  obtain ⟨outcome, run, runToo⟩ :=
    Ipv4Header.takes_reader.congr (take_eq_of_le alike behind) enough
  cases outcome with
  | error fault =>
      exact .inl ⟨openPacket_of_reader_error run, openPacket_of_reader_error runToo⟩
  | ok found =>
      obtain ⟨ip, found⟩ := found
      obtain ⟨own, total, carries⟩ := Ipv4Header.fields_of_reader run
      rw [header] at own
      subst own
      have opened : openPacket subnet first = _ := openPacket_of_reader run
      have openedToo : openPacket subnet second = _ := openPacket_of_reader runToo
      rw [total] at opened openedToo
      rw [← verifies_congr alike inside (by omega)] at openedToo
      by_cases accepted : Checksum.verifies first found ∧ isServed subnet ip.destination
      · rw [if_pos ⟨by omega, accepted⟩] at opened openedToo
        exact .inr ⟨ip, carries, opened, openedToo⟩
      · rw [if_neg fun all => accepted all.2] at opened openedToo
        exact .inl ⟨opened, openedToo⟩

theorem ofPacket_of_datagram {guest : Mac} {packet payload : Bytes} {ip : Ipv4Header}
    (opened : openPacket subnet packet = some (ip, payload)) (protocol : ip.protocol = 17) :
    ofPacket subnet guest packet = ofDatagram guest ip payload := by
  simp only [ofPacket, opened, protocol]
  rw [if_neg (by decide), if_neg (by decide), if_pos (by decide)]

theorem ofPacket_congr_datagram (guest : Mac) (length size : Nat) (enough : 20 ≤ first.length)
    (header : (first.getD 0 0).toNat % 16 * 4 = length) (behindHeader : 20 ≤ length)
    (protocol : first.getD 9 0 = 17) (inside : length + size ≤ wordAt first 2)
    (fits : wordAt first 2 ≤ first.length) (fitsToo : wordAt first 2 ≤ second.length)
    (here : wordAt first (length + 4) = size) (there : wordAt second (length + 4) = size)
    (alike : first.take (length + size) = second.take (length + size)) :
    ofPacket subnet guest first = ofPacket subnet guest second := by
  obtain ⟨unopened, unopenedToo⟩ | ⟨ip, carries, opened, openedToo⟩ :=
    openPacket_alike subnet enough header behindHeader (Nat.le_add_right ..) inside fits fitsToo
      alike
  · rw [ofPacket, ofPacket, unopened, unopenedToo]
  · rw [ofPacket_of_datagram opened (carries.trans protocol),
      ofPacket_of_datagram openedToo (carries.trans protocol)]
    have lengthField : ∀ packet : Bytes, wordAt packet (length + 4) = size →
        UdpHeader.size ≤ ((packet.take (wordAt first 2)).drop length).length →
        wordAt ((packet.take (wordAt first 2)).drop length) 4 = size := by
      intro packet field long
      rw [List.length_drop, List.length_take, UdpHeader.size] at long
      rw [wordAt_drop, wordAt_take (by omega), field]
    refine ofDatagram_congr size ?_ ?_ (lengthField first here)
      (lengthField second there)
    · rw [List.length_drop, List.length_drop, List.length_take, List.length_take]
      omega
    · refine take_drop_eq ?_
      rw [List.take_take, List.take_take, Nat.min_eq_left inside, alike]

end Packets

/-! ## Frames -/

section Frames

variable {subnet : Subnet} {first second : Bytes}

theorem ofFrame_congr (enough : 14 ≤ first.length) (alike : first.take 14 = second.take 14)
    (packet : wordAt first 12 = 0x0800 → ∀ guest,
      ofPacket subnet guest (first.drop 14) = ofPacket subnet guest (second.drop 14))
    (question : wordAt first 12 ≠ 0x0800 →
      ArpPacket.decode (first.drop 14) = ArpPacket.decode (second.drop 14)) :
    ofFrame subnet first = ofFrame subnet second := by
  have headers := EthernetHeader.decode_congr alike enough
  simp only [ofFrame, openFrame, ← headers]
  cases decoded : EthernetHeader.decode first with
  | error fault => rfl
  | ok found =>
      obtain ⟨header, start⟩ := found
      obtain rfl : start = 14 := EthernetHeader.start_of_decode decoded
      have field := EthernetHeader.etherType_of_decode decoded
      dsimp only
      by_cases addressed : header.destination = Settings.gatewayMac ∨ header.isGroup
      · rw [if_pos addressed, if_pos addressed]
        dsimp only
        by_cases isIpv4 : header.etherType = EthernetHeader.ipv4
        · rw [if_pos isIpv4, if_pos isIpv4]
          exact packet (by rw [← field, isIpv4]; rfl) header.source
        · rw [if_neg isIpv4, if_neg isIpv4]
          have other : wordAt first 12 ≠ 0x0800 := fun same =>
            isIpv4 (UInt16.toNat_inj.mp (field.trans same))
          simp only [ofArp, ofReverseArp, question other]
      · rw [if_neg addressed, if_neg addressed]

end Frames

end Request

theorem DifferInPadding.ofFrame_eq {first second : Bytes} (differ : DifferInPadding first second)
    (subnet : Subnet) (enough : 34 ≤ first.length) (enoughToo : 34 ≤ second.length) :
    Request.ofFrame subnet first = Request.ofFrame subnet second := by
  cases differ with
  | packet carries alike =>
      refine Request.ofFrame_congr (by omega) (take_eq_of_le alike (by omega)) (fun _ guest => ?_)
        (absurd carries)
      have total : wordAt (first.drop 14) 2 = wordAt first 16 := wordAt_drop first 14 2
      rw [Request.ofPacket, Request.ofPacket, Request.openPacket_congr]
      · rw [List.length_drop]
        omega
      · rw [total]
        refine take_drop_eq (take_eq_of_le alike ?_)
        rw [packetEnd]
        omega
  | resolution carries alike =>
      refine Request.ofFrame_congr (by omega) (take_eq_of_le alike (by omega)) (fun isIpv4 => ?_)
        fun _ => ?_
      · omega
      · by_cases short : first.length < 42
        · rw [eq_of_take_eq alike short]
        · refine ArpPacket.decode_congr (take_drop_eq alike) ?_
          rw [List.length_drop, ArpPacket.size]
          omega
  | datagram carries protocol behindHeader inside fits fitsToo sameLength alike =>
      simp only [datagramEnd, packetEnd, headerEnd] at behindHeader inside fits fitsToo sameLength
      simp only [datagramEnd, headerEnd] at alike
      have total : wordAt (first.drop 14) 2 = wordAt first 16 := wordAt_drop first 14 2
      have start : (first.drop 14).getD 0 0 = first.getD 14 0 := getD_drop first 14 0
      have carried : (first.drop 14).getD 9 0 = first.getD 23 0 := getD_drop first 14 9
      refine Request.ofFrame_congr (by omega) (take_eq_of_le alike (by omega)) (fun _ guest => ?_)
        (absurd carries)
      apply Request.ofPacket_congr_datagram guest ((first.getD 14 0).toNat % 16 * 4)
        (wordAt first (14 + (first.getD 14 0).toNat % 16 * 4 + 4))
      · rw [List.length_drop]
        omega
      · rw [start]
      · omega
      · rw [carried, protocol]
      · rw [total]
        omega
      · rw [total, List.length_drop]
        omega
      · rw [total, List.length_drop]
        omega
      · rw [wordAt_drop, Nat.add_assoc]
      · rw [wordAt_drop, ← sameLength, Nat.add_assoc]
      · refine take_drop_eq ?_
        rw [← Nat.add_assoc, alike]

end Masquerade
