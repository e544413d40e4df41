import Masquerade.Packet.Layout

/-!
# IPv4 headers

Read with any options, which are skipped, and written without.  Reading also
holds the two lengths of the header against the bytes that are there, so that
what lies between them is the payload.
-/

set_option autoImplicit false

namespace Masquerade.Packet

structure Ipv4Header where
  tos : UInt8
  totalLength : UInt16
  identification : UInt16
  /-- The three flags and, in the low thirteen bits, the offset of a fragment in
  units of eight bytes. -/
  flagsFragment : UInt16
  ttl : UInt8
  protocol : UInt8
  checksum : UInt16
  source : Ipv4Address
  destination : Ipv4Address
  deriving DecidableEq, Repr

namespace Ipv4Header

def icmp : UInt8 := 1

def between (source destination : Ipv4Address) (protocol : UInt8) (identification : UInt16)
    (ttl : UInt8) : Ipv4Header :=
  { tos := 0, totalLength := 0, identification, flagsFragment := 0, ttl, protocol, checksum := 0,
    source, destination }

/-! ## Fragments -/

def fragmentOffset (header : Ipv4Header) : Nat := header.flagsFragment.toNat % 8192 * 8

def moreFragments (header : Ipv4Header) : Bool := header.flagsFragment.toNat / 8192 % 2 == 1

def isFragment (header : Ipv4Header) : Bool :=
  header.moreFragments || header.fragmentOffset != 0

def fragmentField (offset : Nat) (more : Bool) : UInt16 :=
  UInt16.ofNat (offset / 8 % 8192 + if more then 8192 else 0)

/-! ## Layout -/

def size : Nat := 20

def checksumOffset : Nat := 10

def reader : Reader (Ipv4Header × Nat) := do
  let first ← Reader.byte
  Reader.demand (first.toNat / 16 == 4) .notIpv4
  let length := first.toNat % 16 * 4
  Reader.demand (decide (size ≤ length)) .ipv4HeaderShort
  let tos ← Reader.byte
  let totalLength ← Reader.word16
  let identification ← Reader.word16
  let flagsFragment ← Reader.word16
  let ttl ← Reader.byte
  let protocol ← Reader.byte
  let checksum ← Reader.word16
  let source ← Reader.ipv4Address
  let destination ← Reader.ipv4Address
  return ({ tos, totalLength, identification, flagsFragment, ttl, protocol, checksum,
            source, destination }, length)

def decode (bytes : Bytes) : Except WireError (Ipv4Header × Nat) :=
  match reader bytes with
  | .error error => .error error
  | .ok ((header, length), _) =>
    if bytes.length < length then .error .incomplete
    else if header.totalLength.toNat < length ∨ bytes.length < header.totalLength.toNat then
      .error (.refused .ipv4TotalLength)
    else .ok (header, length)

def encode (header : Ipv4Header) : Bytes :=
  [0x45, header.tos] ++ Bytes.ofWord16 header.totalLength ++
    Bytes.ofWord16 header.identification ++ Bytes.ofWord16 header.flagsFragment ++
    [header.ttl, header.protocol] ++ Bytes.ofWord16 header.checksum ++
    header.source.bytes ++ header.destination.bytes

@[simp] theorem length_encode (header : Ipv4Header) : header.encode.length = size := rfl

theorem reader_encode (header : Ipv4Header) (rest : Bytes) :
    reader (header.encode ++ rest) = .ok ((header, size), rest) := by
  simp [reader, encode, size, -bind_pure_comp]

def text (header : Ipv4Header) : String :=
  describe "ipv4 header" [
    ("src", header.source.text),
    ("dst", header.destination.text),
    ("protocol", number header.protocol.toNat),
    ("total_len", number header.totalLength.toNat),
    ("id", hexNumber header.identification.toNat),
    ("flags/fragment", hexNumber header.flagsFragment.toNat),
    ("ttl", number header.ttl.toNat)]

end Ipv4Header

end Masquerade.Packet
