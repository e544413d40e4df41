import Masquerade.Gateway.Request

/-!
# Answers

Frames that the gateway sends without having to remember anything: about
addresses, to echo requests, and to segments that belong to no connection.
-/

set_option autoImplicit false

namespace Masquerade.Answer

open Packet

def hops : UInt8 := 64

/-- Echoes have so few hops that a trace of the route ends at the gateway. -/
def echoHops : UInt8 := 2

def frameTo (guest : Mac) (etherType : UInt16) : EthernetHeader :=
  ⟨guest, Settings.gatewayMac, etherType⟩

/-! ## Addresses -/

def hardwareAddress (subnet : Subnet) (guest : Mac) (question : ArpPacket) : Bytes :=
  ethernetFrame (frameTo guest EthernetHeader.arp) <| ArpPacket.encode <|
    .ethernetIpv4 ArpPacket.reply Settings.gatewayMac subnet.gateway
      question.senderMac question.senderAddress

def ownAddress (subnet : Subnet) (guest : Mac) (question : ArpPacket) : Bytes :=
  ethernetFrame (frameTo guest EthernetHeader.reverseArp) <| ArpPacket.encode <|
    .ethernetIpv4 ArpPacket.reverseReply Settings.gatewayMac subnet.gateway
      question.targetMac (subnet.leased question.targetMac)

/-! ## Echo -/

def echoMessage (message : Bytes) : Bytes :=
  let blank := Bytes.overwrite message 0 (IcmpHeader.encode ⟨IcmpHeader.echoReply, 0, 0⟩)
  (Checksum.store blank IcmpHeader.checksumOffset blank.length).2

def echo (subnet : Subnet) (guest : Mac) (ip : Ipv4Header) (message : Bytes) :
    Except WireError Bytes :=
  ipv4Frame (frameTo guest EthernetHeader.ipv4)
    (.between subnet.gateway ip.source Ipv4Header.icmp ip.identification echoHops)
    (echoMessage message)

/-! ## Resets -/

/-- How far a segment of `length` bytes moves the sequence on: each byte counts
as one, and so do the first and the last mark. -/
def span (header : TcpHeader) (length : Nat) : UInt32 :=
  UInt32.ofNat (length + (header.has .syn).toNat + (header.has .fin).toNat)

/-- The refusal of a segment of a flow, which acknowledges `length` bytes and the
marks of the segment. -/
def reset (guest : Mac) (flow : Flow) (header : TcpHeader) (length : Nat) :
    Except WireError Bytes :=
  let refusal := TcpHeader.bare flow.outside.port flow.guest.port
    (if header.has .ack then header.acknowledgment else 0)
    (header.sequence + span header length) (ControlBit.byteOf [.rst, .ack]) 0
  match tcpSegment flow.outside.address flow.guest.address refusal [] [] with
  | .error error => .error error
  | .ok segment =>
    ipv4Frame (frameTo guest EthernetHeader.ipv4)
      (.between flow.outside.address flow.guest.address Transport.tcp.protocol 0 hops) segment

end Masquerade.Answer
