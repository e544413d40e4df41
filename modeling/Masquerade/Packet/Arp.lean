import Masquerade.Packet.Layout

/-!
# Address resolution packets

Twenty-eight bytes that relate hardware addresses to network addresses, in
either direction.
-/

set_option autoImplicit false

namespace Masquerade.Packet

structure ArpPacket where
  hardwareType : UInt16
  protocolType : UInt16
  hardwareLength : UInt8
  protocolLength : UInt8
  operation : UInt16
  senderMac : Mac
  senderAddress : Ipv4Address
  targetMac : Mac
  targetAddress : Ipv4Address
  deriving DecidableEq, Repr

namespace ArpPacket

/-! ## Operations -/

def request : UInt16 := 1
def reply : UInt16 := 2
def reverseRequest : UInt16 := 3
def reverseReply : UInt16 := 4

def ethernetIpv4 (operation : UInt16) (senderMac : Mac) (senderAddress : Ipv4Address)
    (targetMac : Mac) (targetAddress : Ipv4Address) : ArpPacket :=
  { hardwareType := 1, protocolType := 0x0800, hardwareLength := 6, protocolLength := 4,
    operation, senderMac, senderAddress, targetMac, targetAddress }

def isEthernetIpv4 (packet : ArpPacket) : Bool :=
  packet.hardwareType == 1 && packet.protocolType == 0x0800 &&
    packet.hardwareLength == 6 && packet.protocolLength == 4

/-! ## Layout -/

def size : Nat := 28

def reader : Reader ArpPacket := do
  let hardwareType ← Reader.word16
  let protocolType ← Reader.word16
  let hardwareLength ← Reader.byte
  let protocolLength ← Reader.byte
  let operation ← Reader.word16
  let senderMac ← Reader.mac
  let senderAddress ← Reader.ipv4Address
  let targetMac ← Reader.mac
  let targetAddress ← Reader.ipv4Address
  return { hardwareType, protocolType, hardwareLength, protocolLength, operation,
           senderMac, senderAddress, targetMac, targetAddress }

def decode (bytes : Bytes) : Except WireError (ArpPacket × Nat) :=
  match reader bytes with
  | .error error => .error error
  | .ok (packet, _) => .ok (packet, size)

def encode (packet : ArpPacket) : Bytes :=
  Bytes.ofWord16 packet.hardwareType ++ Bytes.ofWord16 packet.protocolType ++
    [packet.hardwareLength, packet.protocolLength] ++ Bytes.ofWord16 packet.operation ++
    packet.senderMac.bytes ++ packet.senderAddress.bytes ++
    packet.targetMac.bytes ++ packet.targetAddress.bytes

@[simp] theorem length_encode (packet : ArpPacket) : packet.encode.length = size := rfl

theorem reader_encode (packet : ArpPacket) (rest : Bytes) :
    reader (packet.encode ++ rest) = .ok (packet, rest) := by
  simp [reader, encode, -bind_pure_comp]

def text (packet : ArpPacket) : String :=
  describe "arp header" [
    ("htype", hexNumber packet.hardwareType.toNat),
    ("ptype", hexNumber packet.protocolType.toNat),
    ("hlen", hexNumber packet.hardwareLength.toNat),
    ("plen", hexNumber packet.protocolLength.toNat),
    ("oper", hexNumber packet.operation.toNat),
    ("sha", packet.senderMac.text),
    ("spa", packet.senderAddress.text),
    ("tha", packet.targetMac.text),
    ("tpa", packet.targetAddress.text)]

end ArpPacket

end Masquerade.Packet
