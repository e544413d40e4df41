import Masquerade.Packet.Layout

/-!
# UDP headers

Reading holds the length of the header against the bytes that are there; what
lies between the header and that length is the payload.
-/

set_option autoImplicit false

namespace Masquerade.Packet

structure UdpHeader where
  sourcePort : UInt16
  destinationPort : UInt16
  /-- The size of the datagram with its header, in bytes. -/
  length : UInt16
  checksum : UInt16
  deriving DecidableEq, Repr

namespace UdpHeader

def size : Nat := 8

def checksumOffset : Nat := 6

def between (sourcePort destinationPort : UInt16) : UdpHeader :=
  { sourcePort, destinationPort, length := 0, checksum := 0 }

def reader : Reader UdpHeader := do
  let sourcePort ← Reader.word16
  let destinationPort ← Reader.word16
  let length ← Reader.word16
  let checksum ← Reader.word16
  return { sourcePort, destinationPort, length, checksum }

def decode (bytes : Bytes) : Except WireError (UdpHeader × Nat) :=
  match reader bytes with
  | .error error => .error error
  | .ok (header, _) =>
    if header.length.toNat < size ∨ bytes.length < header.length.toNat then
      .error (.refused .udpLength)
    else .ok (header, size)

def encode (header : UdpHeader) : Bytes :=
  Bytes.ofWord16 header.sourcePort ++ Bytes.ofWord16 header.destinationPort ++
    Bytes.ofWord16 header.length ++ Bytes.ofWord16 header.checksum

@[simp] theorem length_encode (header : UdpHeader) : header.encode.length = size := rfl

theorem reader_encode (header : UdpHeader) (rest : Bytes) :
    reader (header.encode ++ rest) = .ok (header, rest) := by
  simp [reader, encode, -bind_pure_comp]

def text (header : UdpHeader) : String :=
  describe "udp header" [
    ("src port", number header.sourcePort.toNat),
    ("dst port", number header.destinationPort.toNat),
    ("length", number header.length.toNat)]

end UdpHeader

end Masquerade.Packet
