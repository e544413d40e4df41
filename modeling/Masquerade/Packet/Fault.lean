/-!
# Reasons to refuse a packet
-/

set_option autoImplicit false

namespace Masquerade.Packet

/-- What is wrong with a field, or with what a packet is to be built from. -/
inductive Fault
  | notIpv4
  | ipv4HeaderShort
  | ipv4TotalLength
  | tcpDataOffset
  | udpLength
  | ipv4TooLarge
  | tcpOptionsUnpadded
  | udpTooLarge
  | fragmentTooSmall
  deriving DecidableEq, Repr

def Fault.message : Fault → String
  | .notIpv4 => "not an IPv4 header"
  | .ipv4HeaderShort => "IPv4 header length below minimum"
  | .ipv4TotalLength => "IPv4 total length out of range"
  | .tcpDataOffset => "TCP data offset below minimum"
  | .udpLength => "UDP length out of range"
  | .ipv4TooLarge => "IPv4 packet too large"
  | .tcpOptionsUnpadded => "TCP options not padded to 32 bits"
  | .udpTooLarge => "UDP datagram too large"
  | .fragmentTooSmall => "fragment size below 8 bytes"

end Masquerade.Packet
