import Masquerade.Packet.Layout

/-!
# ICMP headers

The fixed part of a message: four bytes.  What follows them is carried through
as it is.
-/

set_option autoImplicit false

namespace Masquerade.Packet

structure IcmpHeader where
  kind : UInt8
  code : UInt8
  checksum : UInt16
  deriving DecidableEq, Repr

namespace IcmpHeader

/-! ## Kinds of message -/

def echoReply : UInt8 := 0
def echoRequest : UInt8 := 8

/-! ## Layout -/

def size : Nat := 4

def checksumOffset : Nat := 2

def reader : Reader IcmpHeader := do
  let kind ← Reader.byte
  let code ← Reader.byte
  let checksum ← Reader.word16
  return { kind, code, checksum }

def decode (bytes : Bytes) : Except WireError (IcmpHeader × Nat) :=
  match reader bytes with
  | .error error => .error error
  | .ok (header, _) => .ok (header, size)

def encode (header : IcmpHeader) : Bytes :=
  [header.kind, header.code] ++ Bytes.ofWord16 header.checksum

@[simp] theorem length_encode (header : IcmpHeader) : header.encode.length = size := rfl

theorem reader_encode (header : IcmpHeader) (rest : Bytes) :
    reader (header.encode ++ rest) = .ok (header, rest) := by
  simp [reader, encode, -bind_pure_comp]

def text (header : IcmpHeader) : String :=
  describe "icmp header" [
    ("type", number header.kind.toNat),
    ("code", number header.code.toNat)]

end IcmpHeader

end Masquerade.Packet
