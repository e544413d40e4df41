import Masquerade.Proofs.Gateway.WellFormed
import Masquerade.Proofs.Packet.Buffers

/-!
# What the gateway builds in buffers

Answers, segments of streams and replies of mappings are put together from the builders of
packets.  All but replies can be built whatever they are to hold; a reply that is too long is
told from one that would break a buffer, and none does.
-/

set_option autoImplicit false

namespace Masquerade

open Packet

namespace Checked

/-! ## Building with checked copies -/

def arpFrame (guest : Mac) (etherType : UInt16) (packet : ArpPacket) : Except Breach Bytes := do
  let (payload, _) ← built (writeAt packet.encode (blank ArpPacket.size) 0)
  ethernetFrame (Answer.frameTo guest etherType) payload

def hardwareAddress (subnet : Subnet) (guest : Mac) (question : ArpPacket) :
    Except Breach Bytes :=
  arpFrame guest EthernetHeader.arp <|
    .ethernetIpv4 ArpPacket.reply Settings.gatewayMac subnet.gateway
      question.senderMac question.senderAddress

def ownAddress (subnet : Subnet) (guest : Mac) (question : ArpPacket) : Except Breach Bytes :=
  arpFrame guest EthernetHeader.reverseArp <|
    .ethernetIpv4 ArpPacket.reverseReply Settings.gatewayMac subnet.gateway
      question.targetMac (subnet.leased question.targetMac)

def echoMessage (message : Bytes) : Except Breach Bytes := do
  let (reply, _) ← built (writeAt (IcmpHeader.encode ⟨IcmpHeader.echoReply, 0, 0⟩) message 0)
  return (← store reply IcmpHeader.checksumOffset reply.length).2

def echo (subnet : Subnet) (guest : Mac) (ip : Ipv4Header) (message : Bytes) :
    Except Breach Bytes := do
  ipv4Frame (Answer.frameTo guest EthernetHeader.ipv4)
    (.between subnet.gateway ip.source Ipv4Header.icmp ip.identification Answer.echoHops)
    (← echoMessage message)

def reset (guest : Mac) (flow : Flow) (header : TcpHeader) (length : Nat) :
    Except Breach Bytes := do
  let refusal := TcpHeader.bare flow.outside.port flow.guest.port
    (if header.has .ack then header.acknowledgment else 0)
    (header.sequence + Answer.span header length) (ControlBit.byteOf [.rst, .ack]) 0
  let segment ← tcpSegment flow.outside.address flow.guest.address refusal [] []
  ipv4Frame (Answer.frameTo guest EthernetHeader.ipv4)
    (.between flow.outside.address flow.guest.address Transport.tcp.protocol 0 Answer.hops) segment

def streamFrame (stream : Stream) (now : Nat) (flags : UInt8) (sequence : UInt32)
    (payload : Bytes) : Except Breach Bytes := do
  let flow := stream.flow
  let header := TcpHeader.bare flow.outside.port flow.guest.port sequence stream.guestNext flags
    Stream.window
  let options := Timestamps.block ⟨UInt32.ofNat now, stream.guestClock⟩
  let segment ← tcpSegment flow.outside.address flow.guest.address header options payload
  ipv4Frame (Answer.frameTo stream.guestMac EthernetHeader.ipv4)
    (.between flow.outside.address flow.guest.address Transport.tcp.protocol
      stream.identification Answer.hops) segment

def pieceFrames (ethernet : EthernetHeader) (ip : Ipv4Header) (size count index : Nat) :
    List Bytes → Except Breach (List Bytes)
  | [] => .ok []
  | piece :: rest => do
    let flagsFragment := Ipv4Header.fragmentField (index * size) (decide (index + 1 < count))
    let frame ← ipv4Frame ethernet { ip with flagsFragment } piece
    return frame :: (← pieceFrames ethernet ip size count (index + 1) rest)

def fragment (ethernet : EthernetHeader) (ip : Ipv4Header) (payload : Bytes) (most : Nat) :
    Except Breach (List Bytes) :=
  if payload.length ≤ most then do return [← ipv4Frame ethernet ip payload]
  else
    let size := most / 8 * 8
    if size = 0 then built (.error (.refused .fragmentTooSmall))
    else
      let count := (payload.length + size - 1) / size
      pieceFrames ethernet ip size count 0 (chunks size payload)

def replyFrames (mapping : Mapping) (flow : Flow) (payload : Bytes) :
    Except Breach (List Bytes) := do
  let datagram ← udpDatagram flow.outside.address flow.guest.address
    (.between flow.outside.port flow.guest.port) payload
  fragment (Answer.frameTo mapping.guestMac EthernetHeader.ipv4)
    (.between flow.outside.address flow.guest.address Transport.udp.protocol
      mapping.identification Answer.hops) datagram Mapping.mostPayload

/-! ## The same frames -/

theorem arpFrame_eq (guest : Mac) (etherType : UInt16) (packet : ArpPacket) :
    arpFrame guest etherType packet =
      .ok (Packet.ethernetFrame (Answer.frameTo guest etherType) packet.encode) := by
  have written : writeAt packet.encode (blank ArpPacket.size) 0 =
      .ok (packet.encode ++ blank 0, ArpPacket.size) := writeAt_blank packet.length_encode 0
  rw [arpFrame, written, built_ok, ok_bind]
  dsimp only
  rw [ethernetFrame_eq]
  exact congrArg (fun payload => Except.ok (Packet.ethernetFrame _ payload)) (List.append_nil _)

theorem hardwareAddress_eq (subnet : Subnet) (guest : Mac) (question : ArpPacket) :
    hardwareAddress subnet guest question = .ok (Answer.hardwareAddress subnet guest question) :=
  arpFrame_eq ..

theorem ownAddress_eq (subnet : Subnet) (guest : Mac) (question : ArpPacket) :
    ownAddress subnet guest question = .ok (Answer.ownAddress subnet guest question) :=
  arpFrame_eq ..

theorem echoMessage_eq {message : Bytes} (atLeast : IcmpHeader.size ≤ message.length) :
    echoMessage message = .ok (Answer.echoMessage message) := by
  have room : 0 + (IcmpHeader.encode ⟨IcmpHeader.echoReply, 0, 0⟩).length ≤ message.length := by
    rw [IcmpHeader.length_encode]
    omega
  rw [echoMessage, writeAt_of_room room, built_ok, ok_bind]
  dsimp only
  rw [store_eq]
  rfl

theorem echo_eq (subnet : Subnet) (guest : Mac) (ip : Ipv4Header) {message : Bytes}
    (atLeast : IcmpHeader.size ≤ message.length) :
    echo subnet guest ip message = built (Answer.echo subnet guest ip message) := by
  rw [echo, echoMessage_eq atLeast, ok_bind, ipv4Frame_eq, Answer.echo]

theorem reset_eq (guest : Mac) (flow : Flow) (header : TcpHeader) (length : Nat) :
    reset guest flow header length = built (Answer.reset guest flow header length) := by
  simp only [reset, Answer.reset, tcpSegment_eq]
  cases Packet.tcpSegment flow.outside.address flow.guest.address _ [] [] with
  | error fault => rfl
  | ok segment => exact ipv4Frame_eq ..

theorem streamFrame_eq (stream : Stream) (now : Nat) (flags : UInt8) (sequence : UInt32)
    (payload : Bytes) : streamFrame stream now flags sequence payload =
      built (stream.frame now flags sequence payload) := by
  simp only [streamFrame, Stream.frame, tcpSegment_eq]
  cases Packet.tcpSegment stream.flow.outside.address stream.flow.guest.address _ _ payload with
  | error fault => rfl
  | ok segment => exact ipv4Frame_eq ..

theorem pieceFrames_eq (ethernet : EthernetHeader) (ip : Ipv4Header) (size count index : Nat)
    (pieces : List Bytes) : pieceFrames ethernet ip size count index pieces =
      built (Packet.pieceFrames ethernet ip size count index pieces) := by
  induction pieces generalizing index with
  | nil => rfl
  | cons piece rest ih =>
      simp only [pieceFrames, Packet.pieceFrames, ipv4Frame_eq, ih]
      cases Packet.ipv4Frame ethernet _ piece with
      | error fault => rfl
      | ok frame =>
          cases Packet.pieceFrames ethernet ip size count (index + 1) rest with
          | error fault => rfl
          | ok frames => rfl

theorem fragment_eq (ethernet : EthernetHeader) (ip : Ipv4Header) (payload : Bytes) (most : Nat) :
    fragment ethernet ip payload most = built (Packet.fragment ethernet ip payload most) := by
  simp only [fragment, Packet.fragment, ipv4Frame_eq, pieceFrames_eq]
  by_cases fits : payload.length ≤ most
  · rw [if_pos fits, if_pos fits]
    cases Packet.ipv4Frame ethernet ip payload with
    | error fault => rfl
    | ok frame => rfl
  · rw [if_neg fits, if_neg fits]
    exact (apply_ite built ..).symm

theorem replyFrames_eq (mapping : Mapping) (flow : Flow) (payload : Bytes) :
    replyFrames mapping flow payload = built (mapping.replyFrames flow payload) := by
  rw [replyFrames, udpDatagram_eq, Mapping.replyFrames]
  cases Packet.udpDatagram flow.outside.address flow.guest.address _ payload with
  | error fault => rfl
  | ok datagram => exact fragment_eq ..

/-! ## What can always be built -/

theorem ipv4Frame_isBuilt (ethernet : EthernetHeader) (ip : Ipv4Header) {payload : Bytes}
    (fits : Ipv4Header.size + payload.length ≤ 65535) :
    ∃ frame, Packet.ipv4Frame ethernet ip payload = .ok frame := by
  obtain ⟨sum, assembled, _⟩ := ipv4Packet_ok ip fits
  rw [Packet.ipv4Frame, assembled]
  exact ⟨_, rfl⟩

theorem reset_isBuilt (guest : Mac) (flow : Flow) (header : TcpHeader) (length : Nat) :
    ∃ frame, Answer.reset guest flow header length = .ok frame := by
  let refusal := TcpHeader.bare flow.outside.port flow.guest.port
    (if header.has .ack then header.acknowledgment else 0)
    (header.sequence + Answer.span header length) (ControlBit.byteOf [.rst, .ack]) 0
  have padded : ([] : Bytes).length % 4 = 0 ∧ ([] : Bytes).length ≤ 40 := by decide
  obtain ⟨sum, assembled, _⟩ := tcpSegment_ok flow.outside.address flow.guest.address refusal []
    padded.1 padded.2
  simp only [Answer.reset]
  rw [assembled]
  apply ipv4Frame_isBuilt
  rw [List.append_nil, List.append_nil, TcpHeader.length_encode]
  decide

theorem echo_isBuilt (subnet : Subnet) (guest : Mac) (ip : Ipv4Header) {message : Bytes}
    (atLeast : IcmpHeader.size ≤ message.length)
    (fits : Ipv4Header.size + message.length ≤ 65535) :
    ∃ frame, Answer.echo subnet guest ip message = .ok frame := by
  rw [Answer.echo]
  apply ipv4Frame_isBuilt
  rw [(echoMessage_intact atLeast).1]
  exact fits

end Checked

end Masquerade
