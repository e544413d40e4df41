import Masquerade.Checksum
import Masquerade.Packet.Ethernet
import Masquerade.Packet.Ipv4
import Masquerade.Packet.Tcp
import Masquerade.Packet.Udp

/-!
# Assembling frames

Headers and payloads back to back, with lengths and checksums filled in.  What
the given header holds in those fields does not matter.
-/

set_option autoImplicit false

namespace Masquerade.Packet

def ethernetFrame (header : EthernetHeader) (payload : Bytes) : Bytes :=
  header.encode ++ payload

def ipv4Packet (header : Ipv4Header) (payload : Bytes) : Except WireError Bytes :=
  let total := Ipv4Header.size + payload.length
  if 65535 < total then .error (.refused .ipv4TooLarge)
  else
    let blank := { header with totalLength := UInt16.ofNat total, checksum := 0 }.encode
    .ok ((Checksum.store blank Ipv4Header.checksumOffset Ipv4Header.size).2 ++ payload)

def ipv4Frame (ethernet : EthernetHeader) (ip : Ipv4Header) (payload : Bytes) :
    Except WireError Bytes :=
  match ipv4Packet ip payload with
  | .error error => .error error
  | .ok packet => .ok (ethernetFrame ethernet packet)

/-- A segment with options, which have to fill whole words and fit the header. -/
def tcpSegment (source destination : Ipv4Address) (header : TcpHeader)
    (options payload : Bytes) : Except WireError Bytes :=
  if options.length % 4 ≠ 0 ∨ 40 < options.length then .error (.refused .tcpOptionsUnpadded)
  else
    let blank :=
      { header with headerLength := TcpHeader.size + options.length, checksum := 0 }.encode ++
        options ++ payload
    .ok (Checksum.storeTransport .tcp source destination blank TcpHeader.checksumOffset
      blank.length).2

def udpDatagram (source destination : Ipv4Address) (header : UdpHeader) (payload : Bytes) :
    Except WireError Bytes :=
  let total := UdpHeader.size + payload.length
  if 65535 < total then .error (.refused .udpTooLarge)
  else
    let blank := { header with length := UInt16.ofNat total, checksum := 0 }.encode ++ payload
    .ok (Checksum.storeTransport .udp source destination blank UdpHeader.checksumOffset total).2

end Masquerade.Packet
