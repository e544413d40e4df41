import Masquerade.Address.Basic
import Masquerade.Checksum.Sum

/-!
# The internet checksum

A checksum is stored in a field of the bytes that it covers, where the field counts as
zero.  A stretch of bytes whose own checksum is in place sums to all ones, so that its
checksum is zero.  Segments and datagrams are summed together with a pseudo-header that
holds their addresses.
-/

set_option autoImplicit false

namespace Masquerade

inductive Transport
  | tcp
  | udp
  deriving DecidableEq, Repr

def Transport.protocol : Transport → UInt8
  | .tcp => 6
  | .udp => 17

namespace Checksum

/-- What is summed before a segment or datagram: both addresses, a zero, the
transport and the length modulo 2^16. -/
def pseudoHeader (source destination : Ipv4Address) (transport : Transport) (length : Nat) :
    Bytes :=
  source.bytes ++ destination.bytes ++ [0, transport.protocol] ++
    Bytes.ofWord16 (UInt16.ofNat length)

@[simp] theorem length_pseudoHeader (source destination : Ipv4Address) (transport : Transport)
    (length : Nat) : (pseudoHeader source destination transport length).length = 12 := rfl

def betweenAddresses (transport : Transport) (source destination : Ipv4Address) (length : Nat)
    (bytes : Bytes) : UInt16 :=
  ((Sum.zero.add (pseudoHeader source destination transport length)).add bytes).checksum

theorem betweenAddresses_eq (transport : Transport) (source destination : Ipv4Address)
    (length : Nat) (bytes : Bytes) :
    betweenAddresses transport source destination length bytes =
      ofBytes (pseudoHeader source destination transport length ++ bytes) := by
  rw [betweenAddresses, Sum.add_add _ _ (by rw [length_pseudoHeader]), ofBytes]

/-- The checksum that a transport stores: UDP reserves zero for "none", and
sends the other zero instead. -/
def stored : Transport → UInt16 → UInt16
  | .udp, 0 => 0xffff
  | _, sum => sum

/-! ## Storing a checksum -/

def put (bytes : Bytes) (offset : Nat) (word : UInt16) : Bytes :=
  Bytes.overwrite bytes offset (Bytes.ofWord16 word)

/-- What comes of an addition beyond the greatest number of the machine. -/
inductive Overflow
  /-- Nothing; the program stops. -/
  | stops
  | wraps
  deriving DecidableEq, Repr

def fieldEnd (overflow : Overflow) (offset : UInt64) : Option UInt64 :=
  match overflow with
  | .stops => if offset.toNat + 2 < UInt64.size then some (offset + 2) else none
  | .wraps => some (offset + 2)

/-- Stores what the first `length` bytes come to at `offset`, where the old value counts as
zero, and returns it too.  A length beyond the end means all bytes.  Where the field does
not fit, nothing changes and the result is zero.  There is no result where the end of the
field cannot be told or lies before its begin. -/
def storeSum (sumOf : Nat → Bytes → UInt16) (overflow : Overflow) (bytes : Bytes)
    (offset length : UInt64) : Option (UInt16 × Bytes) := do
  let covered := min length.toNat bytes.length
  let fieldEnd ← fieldEnd overflow offset
  if covered < fieldEnd.toNat then return (0, bytes)
  if fieldEnd < offset then none
  let sum := sumOf covered ((put bytes offset.toNat 0).take covered)
  return (sum, put bytes offset.toNat sum)

def ipChecksum (overflow : Overflow) : Bytes → UInt64 → UInt64 → Option (UInt16 × Bytes) :=
  storeSum (fun _ => ofBytes) overflow

def transportChecksum (transport : Transport) (source destination : Ipv4Address)
    (overflow : Overflow) : Bytes → UInt64 → UInt64 → Option (UInt16 × Bytes) :=
  storeSum (fun covered bytes =>
    stored transport (betweenAddresses transport source destination covered bytes)) overflow

/-! ### Where the end of the field is a number of the machine

Headers have their checksums at offsets that leave room. -/

def storeAt (sumOf : Nat → Bytes → UInt16) (bytes : Bytes) (offset length : Nat) :
    UInt16 × Bytes :=
  let covered := min length bytes.length
  if covered < offset + 2 then (0, bytes)
  else
    let sum := sumOf covered ((put bytes offset 0).take covered)
    (sum, put bytes offset sum)

def store : Bytes → Nat → Nat → UInt16 × Bytes := storeAt fun _ => ofBytes

def storeTransport (transport : Transport) (source destination : Ipv4Address) :
    Bytes → Nat → Nat → UInt16 × Bytes :=
  storeAt fun covered bytes =>
    stored transport (betweenAddresses transport source destination covered bytes)

/-! ## Verification -/

/-- Whether the first `length` bytes are there and carry their checksum. -/
def verifies (bytes : Bytes) (length : Nat) : Bool :=
  decide (length ≤ bytes.length) && ofBytes (bytes.take length) == 0

def verifiesTransport (transport : Transport) (source destination : Ipv4Address) (bytes : Bytes)
    (length : Nat) : Bool :=
  decide (length ≤ bytes.length) &&
    betweenAddresses transport source destination length (bytes.take length) == 0

end Checksum

end Masquerade
