import Masquerade.Gateway.Request
import Masquerade.Proofs.Packet.Locality
import Masquerade.Proofs.Packet.Stretches

/-!
# The stretches of a frame

Each layer leaves to the next a stretch that ends where its own length says.  The decoders
have held these lengths against the bytes before: whatever a frame claims of itself, all
stretches that are taken out of it lie within it.
-/

set_option autoImplicit false

namespace Masquerade

open Packet

theorem Packet.TcpHeader.bounds_of_decode {bytes : Bytes} {header : TcpHeader} {length : Nat}
    (decoded : decode bytes = .ok (header, length)) : size ≤ length ∧ length ≤ bytes.length := by
  simp only [decode] at decoded
  split at decoded
  · cases decoded
  · rename_i found run
    split at decoded
    · cases decoded
    · rename_i whole
      cases decoded
      refine ⟨?_, Nat.not_lt.mp whole⟩
      rw [reader] at run
      iterate 5 obtain ⟨_, _, _, run⟩ := Reader.exists_of_bind run
      obtain ⟨_, _, demanded, run⟩ := Reader.exists_of_bind run
      have enough := of_decide_eq_true (Reader.of_demand demanded)
      -- The four fields behind the size do not matter to it.
      iterate 4 obtain ⟨_, _, _, run⟩ := Reader.exists_of_bind run
      cases run
      exact enough

namespace Checked

/-! ## Reading with checked stretches -/

def openFrame (frame : Bytes) : Except Breach (Option (EthernetHeader × Bytes)) :=
  match EthernetHeader.decode frame with
  | .error _ => .ok none
  | .ok (header, _) =>
    if header.destination = Settings.gatewayMac ∨ header.isGroup then do
      return some (header, ← slice frame EthernetHeader.size frame.length)
    else .ok none

def openPacket (subnet : Subnet) (packet : Bytes) : Except Breach (Option (Ipv4Header × Bytes)) :=
  match Ipv4Header.decode packet with
  | .error _ => .ok none
  | .ok (header, length) => do
    if (← verifies packet length) ∧ Request.isServed subnet header.destination then
      return some (header, ← slice packet length header.totalLength.toNat)
    else return none

def ofMessage (subnet : Subnet) (guest : Mac) (ip : Ipv4Header) (message : Bytes) :
    Except Breach (Option Request) :=
  if ip.destination ≠ subnet.gateway then .ok none
  else
    match IcmpHeader.decode message with
    | .error _ => .ok none
    | .ok (header, _) => do
      if (← verifies message message.length) ∧ header.kind = IcmpHeader.echoRequest then
        return some (.echo guest ip message)
      else return none

def ofDatagram (guest : Mac) (ip : Ipv4Header) (bytes : Bytes) : Except Breach (Option Request) :=
  if ip.isFragment then .ok none
  else
    match UdpHeader.decode bytes with
    | .error _ => .ok none
    | .ok (header, _) => do
      let datagram ← slice bytes 0 header.length.toNat
      if header.checksum = 0 ∨
          (← verifiesTransport .udp ip.source ip.destination datagram datagram.length) then
        return some (.datagram guest
          ⟨⟨ip.source, header.sourcePort⟩, ⟨ip.destination, header.destinationPort⟩⟩
          (← slice datagram UdpHeader.size datagram.length))
      else return none

/-- The options are walked over too, whatever then becomes of the segment. -/
def ofSegment (guest : Mac) (ip : Ipv4Header) (bytes : Bytes) : Except Breach (Option Request) :=
  if ip.isFragment then .ok none
  else do
    if !(← verifiesTransport .tcp ip.source ip.destination bytes bytes.length) then return none
    else
      match TcpHeader.decode bytes with
      | .error _ => return none
      | .ok (header, length) =>
        let options ← slice bytes TcpHeader.size length
        let payload ← slice bytes length bytes.length
        let _ ← timestamps options
        return some (.segment guest
          ⟨⟨ip.source, header.sourcePort⟩, ⟨ip.destination, header.destinationPort⟩⟩
          ⟨header, options, payload⟩)

def ofPacket (subnet : Subnet) (guest : Mac) (packet : Bytes) :
    Except Breach (Option Request) := do
  match ← openPacket subnet packet with
  | none => return none
  | some (ip, payload) =>
    if ip.protocol = Ipv4Header.icmp then ofMessage subnet guest ip payload
    else if ip.protocol = Transport.tcp.protocol then ofSegment guest ip payload
    else if ip.protocol = Transport.udp.protocol then ofDatagram guest ip payload
    else return none

def ofFrame (subnet : Subnet) (frame : Bytes) : Except Breach (Option Request) := do
  match ← openFrame frame with
  | none => return none
  | some (header, payload) =>
    if header.etherType = EthernetHeader.ipv4 then ofPacket subnet header.source payload
    else if header.etherType = EthernetHeader.arp then
      return Request.ofArp subnet header.source payload
    else if header.etherType = EthernetHeader.reverseArp then
      return Request.ofReverseArp header.source payload
    else return none

/-! ## All stretches lie within -/

theorem ok_ite {α : Type} (condition : Prop) [Decidable condition] (first second : α) :
    (if condition then Except.ok first else Except.ok second : Except Breach α) =
      .ok (if condition then first else second) :=
  (apply_ite Except.ok condition first second).symm

theorem openFrame_eq {frame : Bytes} (enough : EthernetHeader.size ≤ frame.length) :
    openFrame frame = .ok (Request.openFrame frame) := by
  simp only [openFrame, Request.openFrame]
  cases decoded : EthernetHeader.decode frame with
  | error fault => rfl
  | ok found =>
      obtain ⟨header, start⟩ := found
      obtain rfl := EthernetHeader.start_of_decode decoded
      dsimp only
      rw [slice_rest enough, ok_bind]
      exact ok_ite ..

theorem openPacket_eq (subnet : Subnet) (packet : Bytes) :
    openPacket subnet packet = .ok (Request.openPacket subnet packet) := by
  simp only [openPacket, Request.openPacket]
  cases decoded : Ipv4Header.decode packet with
  | error fault => rfl
  | ok found =>
      obtain ⟨header, length⟩ := found
      obtain ⟨_, _, order, within⟩ := Ipv4Header.decode_eq_ok_iff.mp decoded
      dsimp only
      rw [verifies_eq, ok_bind, slice_eq order within, ok_bind]
      exact ok_ite ..

theorem ofMessage_eq (subnet : Subnet) (guest : Mac) (ip : Ipv4Header) (message : Bytes) :
    ofMessage subnet guest ip message = .ok (Request.ofMessage subnet guest ip message) := by
  rw [ofMessage, Request.ofMessage, ← ok_ite]
  congr 1
  cases IcmpHeader.decode message with
  | error fault => rfl
  | ok found =>
      dsimp only
      rw [verifies_eq, ok_bind]
      exact ok_ite ..

theorem ofDatagram_eq (guest : Mac) (ip : Ipv4Header) (bytes : Bytes) :
    ofDatagram guest ip bytes = .ok (Request.ofDatagram guest ip bytes) := by
  rw [ofDatagram, Request.ofDatagram, ← ok_ite]
  congr 1
  cases decoded : UdpHeader.decode bytes with
  | error fault => rfl
  | ok found =>
      obtain ⟨header, length⟩ := found
      obtain ⟨rfl, _, atLeast, within⟩ := UdpHeader.fields_of_decode decoded
      have behindHeader : UdpHeader.size ≤ (bytes.take header.length.toNat).length := by
        rw [List.length_take, Nat.min_eq_left within]
        exact atLeast
      dsimp only
      rw [slice_front within, ok_bind, verifiesTransport_eq, ok_bind, slice_rest behindHeader,
        ok_bind]
      exact ok_ite ..

theorem ofSegment_eq (guest : Mac) (ip : Ipv4Header) (bytes : Bytes) :
    ofSegment guest ip bytes = .ok (Request.ofSegment guest ip bytes) := by
  rw [ofSegment, Request.ofSegment, ← ok_ite, verifiesTransport_eq, ok_bind, ← ok_ite]
  congr 2
  cases decoded : TcpHeader.decode bytes with
  | error fault => rfl
  | ok found =>
      obtain ⟨header, length⟩ := found
      obtain ⟨order, within⟩ := TcpHeader.bounds_of_decode decoded
      dsimp only
      rw [slice_eq order within, ok_bind, slice_rest within, ok_bind, timestamps_eq]
      rfl

theorem ofPacket_eq (subnet : Subnet) (guest : Mac) (packet : Bytes) :
    ofPacket subnet guest packet = .ok (Request.ofPacket subnet guest packet) := by
  rw [ofPacket, openPacket_eq, ok_bind, Request.ofPacket]
  cases Request.openPacket subnet packet with
  | none => rfl
  | some found =>
      dsimp only
      rw [ofMessage_eq, ofSegment_eq, ofDatagram_eq, ← ok_ite, ← ok_ite, ← ok_ite]
      rfl

theorem ofFrame_eq (subnet : Subnet) {frame : Bytes} (enough : EthernetHeader.size ≤ frame.length) :
    ofFrame subnet frame = .ok (Request.ofFrame subnet frame) := by
  rw [ofFrame, openFrame_eq enough, ok_bind, Request.ofFrame]
  cases Request.openFrame frame with
  | none => rfl
  | some found =>
      dsimp only
      rw [ofPacket_eq, ← ok_ite, ← ok_ite, ← ok_ite]
      rfl

end Checked

end Masquerade
