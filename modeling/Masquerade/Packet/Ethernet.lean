import Masquerade.Packet.Layout

/-!
# Ethernet headers

Fourteen bytes: the destination, the source and what the frame carries.
-/

set_option autoImplicit false

namespace Masquerade.Packet

structure EthernetHeader where
  destination : Mac
  source : Mac
  etherType : UInt16
  deriving DecidableEq, Repr

namespace EthernetHeader

/-! ## What a frame carries -/

def ipv4 : UInt16 := 0x0800
def arp : UInt16 := 0x0806
def reverseArp : UInt16 := 0x8035

/-! ## Layout -/

def size : Nat := 14

def reader : Reader EthernetHeader := do
  let destination ← Reader.mac
  let source ← Reader.mac
  let etherType ← Reader.word16
  return { destination, source, etherType }

def decode (bytes : Bytes) : Except WireError (EthernetHeader × Nat) :=
  match reader bytes with
  | .error error => .error error
  | .ok (header, _) => .ok (header, size)

def encode (header : EthernetHeader) : Bytes :=
  header.destination.bytes ++ header.source.bytes ++ Bytes.ofWord16 header.etherType

@[simp] theorem length_encode (header : EthernetHeader) : header.encode.length = size := rfl

theorem reader_encode (header : EthernetHeader) (rest : Bytes) :
    reader (header.encode ++ rest) = .ok (header, rest) := by
  simp [reader, encode, -bind_pure_comp]

def isGroup (header : EthernetHeader) : Bool := header.destination.isGroup

def text (header : EthernetHeader) : String :=
  describe "ethernet header" [
    ("mac dest", header.destination.text),
    ("mac src", header.source.text),
    ("ether_type", hexNumber header.etherType.toNat)]

end EthernetHeader

end Masquerade.Packet
