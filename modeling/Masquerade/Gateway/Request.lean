import Masquerade.Packet.Arp
import Masquerade.Packet.Fragment
import Masquerade.Packet.Icmp
import Masquerade.Packet.TcpOptions
import Masquerade.Settings

/-!
# Requests

What a frame asks of the gateway.  All checks that need nothing but the frame and
the subnet are made here: a frame that fails one of them asks for nothing.  What
becomes of a request is for the modules about streams, mappings and answers.
-/

set_option autoImplicit false

namespace Masquerade

open Packet

structure Segment where
  header : TcpHeader
  options : Bytes
  payload : Bytes
  deriving DecidableEq, Repr

namespace Segment

def has (segment : Segment) (bit : ControlBit) : Bool := segment.header.has bit

def opens (segment : Segment) : Bool :=
  segment.has .syn && !segment.has .ack && !segment.has .rst

end Segment

/-- What a frame asks for.  The hardware address is the one that the frame comes
from, and an answer goes there. -/
inductive Request
  /-- Which hardware address the gateway has. -/
  | hardwareAddress (guest : Mac) (packet : ArpPacket)
  /-- Which address the station has that is named in the packet. -/
  | ownAddress (guest : Mac) (packet : ArpPacket)
  | echo (guest : Mac) (ip : Ipv4Header) (message : Bytes)
  | datagram (guest : Mac) (flow : Flow) (payload : Bytes)
  | segment (guest : Mac) (flow : Flow) (segment : Segment)
  deriving Repr

namespace Request

/-! ## Frames and packets -/

/-- The shortest frame that can matter: Ethernet and a bare IPv4 header. -/
def shortestFrame : Nat := EthernetHeader.size + Ipv4Header.size

/-- The longest frame, with a tag of four bytes. -/
def longestFrame : Nat := 1522

def openFrame (frame : Bytes) : Option (EthernetHeader × Bytes) :=
  match EthernetHeader.decode frame with
  | .error _ => none
  | .ok (header, length) =>
    if header.destination = Settings.gatewayMac ∨ header.isGroup then
      some (header, frame.drop length)
    else none

/-- Whether packets to an address are for the gateway to handle: its own address
and all single hosts outside the subnet. -/
def isServed (subnet : Subnet) (destination : Ipv4Address) : Bool :=
  !destination.isBroadcast && !destination.isMulticast &&
    (destination == subnet.gateway || !subnet.contains destination)

/-- The header and payload of a packet that is intact and for the gateway to
handle.  The payload ends where the packet does, so that padding is left out. -/
def openPacket (subnet : Subnet) (packet : Bytes) : Option (Ipv4Header × Bytes) :=
  match Ipv4Header.decode packet with
  | .error _ => none
  | .ok (header, length) =>
    if Checksum.verifies packet length ∧ isServed subnet header.destination then
      some (header, (packet.take header.totalLength.toNat).drop length)
    else none

/-! ## Payloads -/

def ofMessage (subnet : Subnet) (guest : Mac) (ip : Ipv4Header) (message : Bytes) :
    Option Request :=
  if ip.destination ≠ subnet.gateway then none
  else
    match IcmpHeader.decode message with
    | .error _ => none
    | .ok (header, _) =>
      if Checksum.verifies message message.length ∧ header.kind = IcmpHeader.echoRequest then
        some (.echo guest ip message)
      else none

/-- A whole datagram that is intact, or that carries no checksum.  Its length may
leave out a part of the packet. -/
def ofDatagram (guest : Mac) (ip : Ipv4Header) (bytes : Bytes) : Option Request :=
  if ip.isFragment then none
  else
    match UdpHeader.decode bytes with
    | .error _ => none
    | .ok (header, length) =>
      let datagram := bytes.take header.length.toNat
      if header.checksum = 0 ∨
          Checksum.verifiesTransport .udp ip.source ip.destination datagram datagram.length then
        some (.datagram guest
          ⟨⟨ip.source, header.sourcePort⟩, ⟨ip.destination, header.destinationPort⟩⟩
          (datagram.drop length))
      else none

def ofSegment (guest : Mac) (ip : Ipv4Header) (bytes : Bytes) : Option Request :=
  if ip.isFragment then none
  else if !Checksum.verifiesTransport .tcp ip.source ip.destination bytes bytes.length then none
  else
    match TcpHeader.decode bytes with
    | .error _ => none
    | .ok (header, length) =>
      some (.segment guest
        ⟨⟨ip.source, header.sourcePort⟩, ⟨ip.destination, header.destinationPort⟩⟩
        ⟨header, (bytes.take length).drop TcpHeader.size, bytes.drop length⟩)

def ofPacket (subnet : Subnet) (guest : Mac) (packet : Bytes) : Option Request :=
  match openPacket subnet packet with
  | none => none
  | some (ip, payload) =>
    if ip.protocol = Ipv4Header.icmp then ofMessage subnet guest ip payload
    else if ip.protocol = Transport.tcp.protocol then ofSegment guest ip payload
    else if ip.protocol = Transport.udp.protocol then ofDatagram guest ip payload
    else none

def ofArp (subnet : Subnet) (guest : Mac) (bytes : Bytes) : Option Request :=
  match ArpPacket.decode bytes with
  | .error _ => none
  | .ok (packet, _) =>
    if packet.isEthernetIpv4 ∧ packet.operation = ArpPacket.request ∧
        packet.targetAddress = subnet.gateway then
      some (.hardwareAddress guest packet)
    else none

def ofReverseArp (guest : Mac) (bytes : Bytes) : Option Request :=
  match ArpPacket.decode bytes with
  | .error _ => none
  | .ok (packet, _) =>
    if packet.isEthernetIpv4 ∧ packet.operation = ArpPacket.reverseRequest then
      some (.ownAddress guest packet)
    else none

def ofFrame (subnet : Subnet) (frame : Bytes) : Option Request :=
  match openFrame frame with
  | none => none
  | some (header, payload) =>
    if header.etherType = EthernetHeader.ipv4 then ofPacket subnet header.source payload
    else if header.etherType = EthernetHeader.arp then ofArp subnet header.source payload
    else if header.etherType = EthernetHeader.reverseArp then ofReverseArp header.source payload
    else none

end Request

end Masquerade
