import Masquerade.Packet.Arp
import Masquerade.Packet.Fragment
import Masquerade.Proofs.Packet.Stretches

/-!
# Building frames in buffers

A frame is built in a buffer of its full length: the header is written to the front, and what
it carries is copied to the stretches behind.  Every piece fills its stretch, so that a frame
comes of it wherever one comes of putting the pieces one behind the other, and the same one.
-/

set_option autoImplicit false

namespace Masquerade.Checked

open Packet

def built {α : Type} (result : Except WireError α) : Except Breach α := result.mapError .unbuilt

theorem built_ok {α : Type} (value : α) : built (.ok value) = .ok value := rfl

def blank (length : Nat) : Bytes := List.replicate length 0

def ethernetFrame (header : EthernetHeader) (payload : Bytes) : Except Breach Bytes := do
  let (frame, offset) ← built <|
    writeAt header.encode (blank (EthernetHeader.size + payload.length)) 0
  copy frame offset frame.length payload

def ipv4Packet (header : Ipv4Header) (payload : Bytes) : Except Breach Bytes :=
  let total := Ipv4Header.size + payload.length
  if 65535 < total then built (.error (.refused .ipv4TooLarge))
  else do
    let (packet, _) ← built <|
      writeAt { header with totalLength := UInt16.ofNat total, checksum := 0 }.encode
        (blank total) 0
    let (_, packet) ← store packet Ipv4Header.checksumOffset Ipv4Header.size
    copy packet Ipv4Header.size packet.length payload

def ipv4Frame (ethernet : EthernetHeader) (ip : Ipv4Header) (payload : Bytes) :
    Except Breach Bytes := do
  ethernetFrame ethernet (← ipv4Packet ip payload)

def tcpSegment (source destination : Ipv4Address) (header : TcpHeader)
    (options payload : Bytes) : Except Breach Bytes :=
  let headerLength := TcpHeader.size + options.length
  let total := headerLength + payload.length
  if options.length % 4 ≠ 0 ∨ 40 < options.length then
    built (.error (.refused .tcpOptionsUnpadded))
  else do
    let (segment, _) ← built <|
      writeAt { header with headerLength, checksum := 0 }.encode (blank total) 0
    let segment ← copy segment TcpHeader.size headerLength options
    let segment ← copy segment headerLength segment.length payload
    return (← storeTransport .tcp source destination segment TcpHeader.checksumOffset total).2

def udpDatagram (source destination : Ipv4Address) (header : UdpHeader) (payload : Bytes) :
    Except Breach Bytes :=
  let total := UdpHeader.size + payload.length
  if 65535 < total then built (.error (.refused .udpTooLarge))
  else do
    let (datagram, _) ← built <|
      writeAt { header with length := UInt16.ofNat total, checksum := 0 }.encode (blank total) 0
    let datagram ← copy datagram UdpHeader.size datagram.length payload
    return (← storeTransport .udp source destination datagram UdpHeader.checksumOffset total).2

/-! ## Pieces fill their stretches -/

theorem length_blank (length : Nat) : (blank length).length = length := List.length_replicate

theorem writeAt_blank {encoded : Bytes} {size : Nat} (fills : encoded.length = size) (more : Nat) :
    writeAt encoded (blank (size + more)) 0 = .ok (encoded ++ blank more, size) := by
  have room : 0 + encoded.length ≤ (blank (size + more)).length := by
    rw [length_blank]
    omega
  have rest : (blank (size + more)).drop (0 + encoded.length) = blank more := by
    rw [blank, List.drop_replicate, fills, Nat.zero_add, Nat.add_sub_cancel_left]
    rfl
  rw [writeAt_of_room room, Bytes.overwrite, rest, fills, Nat.zero_add]
  rfl

theorem blank_add (first second : Nat) : blank (first + second) = blank first ++ blank second :=
  (List.replicate_append_replicate ..).symm

theorem ethernetFrame_eq (header : EthernetHeader) (payload : Bytes) :
    ethernetFrame header payload = .ok (Packet.ethernetFrame header payload) := by
  rw [ethernetFrame, writeAt_blank header.length_encode]
  exact copy_behind header.length_encode (length_blank payload.length).symm

theorem store_append {bytes : Bytes} {offset : Nat} (room : offset + 2 ≤ bytes.length)
    (rest : Bytes) : Checksum.store (bytes ++ rest) offset bytes.length =
      ((Checksum.store bytes offset bytes.length).1,
        (Checksum.store bytes offset bytes.length).2 ++ rest) := by
  have within : bytes.length ≤ (bytes ++ rest).length := by
    rw [List.length_append]
    exact Nat.le_add_right ..
  have front : (Checksum.put bytes offset 0 ++ rest).take bytes.length =
      Checksum.put bytes offset 0 := List.take_left' (Checksum.put_length room 0)
  have whole : (Checksum.put bytes offset 0).take bytes.length = Checksum.put bytes offset 0 := by
    rw [← Checksum.put_length room 0, List.take_length]
  rw [Checksum.store, Checksum.storeAt_of_room _ room within,
    Checksum.storeAt_of_room _ room (Nat.le_refl _), Checksum.put_append room,
    Checksum.put_append room, front, whole]

theorem ipv4Packet_eq (header : Ipv4Header) (payload : Bytes) :
    ipv4Packet header payload = built (Packet.ipv4Packet header payload) := by
  simp only [ipv4Packet, Packet.ipv4Packet]
  split
  · rfl
  · generalize ({ header with
        totalLength := UInt16.ofNat (Ipv4Header.size + payload.length), checksum := 0 } :
        Ipv4Header) = sized
    have length := sized.length_encode
    have room : Ipv4Header.checksumOffset + 2 ≤ sized.encode.length := by
      rw [length]
      decide
    obtain ⟨sum, stored, _⟩ := Checksum.store_verifies (by decide) room
    have split := store_append room (blank payload.length)
    have begins := Checksum.put_length room sum
    rw [stored] at split
    rw [length] at split stored begins
    rw [writeAt_blank length, built_ok, ok_bind, stored]
    dsimp only
    rw [store_eq, split, ok_bind]
    exact copy_behind begins (length_blank payload.length).symm

theorem ipv4Frame_eq (ethernet : EthernetHeader) (ip : Ipv4Header) (payload : Bytes) :
    ipv4Frame ethernet ip payload = built (Packet.ipv4Frame ethernet ip payload) := by
  rw [ipv4Frame, ipv4Packet_eq, Packet.ipv4Frame]
  cases Packet.ipv4Packet ip payload with
  | error fault => rfl
  | ok packet => exact ethernetFrame_eq ethernet packet

theorem tcpSegment_eq (source destination : Ipv4Address) (header : TcpHeader)
    (options payload : Bytes) : tcpSegment source destination header options payload =
      built (Packet.tcpSegment source destination header options payload) := by
  simp only [tcpSegment, Packet.tcpSegment]
  split
  · rfl
  · generalize ({ header with
        headerLength := TcpHeader.size + options.length, checksum := 0 } : TcpHeader) = sized
    have length := sized.length_encode
    have total : (sized.encode ++ options ++ payload).length =
        TcpHeader.size + options.length + payload.length := by
      rw [List.length_append, List.length_append, length]
    have begins : (sized.encode ++ options).length = TcpHeader.size + options.length := by
      rw [List.length_append, length]
    rw [Nat.add_assoc, writeAt_blank length, built_ok, ok_bind, blank_add, ← List.append_assoc]
    dsimp only
    rw [copy_between length (congrArg _ (length_blank _)) (length_blank _).symm, ok_bind,
      copy_behind begins (length_blank _).symm, ok_bind, storeTransport_eq, total, Nat.add_assoc]
    rfl

theorem udpDatagram_eq (source destination : Ipv4Address) (header : UdpHeader)
    (payload : Bytes) : udpDatagram source destination header payload =
      built (Packet.udpDatagram source destination header payload) := by
  simp only [udpDatagram, Packet.udpDatagram]
  split
  · rfl
  · generalize ({ header with
        length := UInt16.ofNat (UdpHeader.size + payload.length), checksum := 0 } :
        UdpHeader) = sized
    rw [writeAt_blank sized.length_encode, built_ok, ok_bind]
    dsimp only
    rw [copy_behind sized.length_encode (length_blank _).symm, ok_bind, storeTransport_eq]
    rfl

end Masquerade.Checked
