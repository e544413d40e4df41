import Masquerade.Bytes
import Masquerade.Text.Numeral

/-!
# Addresses

Hardware addresses, network addresses, endpoints, and the flow between an
endpoint on the simulated network and one outside.
-/

set_option autoImplicit false

namespace Masquerade

open Text (decimal)

/-! ## Hardware addresses -/

/-- A hardware address: six octets in the order in which they travel. -/
structure Mac where
  first : UInt8
  second : UInt8
  third : UInt8
  fourth : UInt8
  fifth : UInt8
  sixth : UInt8
  deriving DecidableEq, Repr, Inhabited

namespace Mac

def bytes (mac : Mac) : Bytes :=
  [mac.first, mac.second, mac.third, mac.fourth, mac.fifth, mac.sixth]

def ofBytes? : Bytes → Option Mac
  | [first, second, third, fourth, fifth, sixth] =>
    some ⟨first, second, third, fourth, fifth, sixth⟩
  | _ => none

/-- Multicast and broadcast addresses have the lowest bit of their first octet set. -/
def isGroup (mac : Mac) : Bool := mac.first.toNat % 2 == 1

def text (mac : Mac) : String :=
  String.intercalate ":"
    (mac.bytes.map fun octet => String.ofList ((Bytes.hexPair octet).map Char.toUpper))

end Mac

/-! ## Network addresses -/

structure Ipv4Address where
  value : UInt32
  deriving DecidableEq, Repr, Inhabited

namespace Ipv4Address

def toNat (address : Ipv4Address) : Nat := address.value.toNat

/-- The address with this number; numbers wrap at 2^32. -/
def ofNat (number : Nat) : Ipv4Address := ⟨UInt32.ofNat number⟩

def bytes (address : Ipv4Address) : Bytes := Bytes.ofWord32 address.value

def ofOctets (first second third fourth : UInt8) : Ipv4Address :=
  ⟨Bytes.word32 first second third fourth⟩

def isBroadcast (address : Ipv4Address) : Bool := address.toNat == 0xffffffff

def isMulticast (address : Ipv4Address) : Bool := address.toNat / 0x10000000 == 14

def chars (address : Ipv4Address) : List Char :=
  List.intercalate ['.'] (address.bytes.map fun octet => decimal octet.toNat)

def text (address : Ipv4Address) : String := String.ofList address.chars

theorem toNat_lt (address : Ipv4Address) : address.toNat < 4294967296 := address.value.toNat_lt

@[simp] theorem toNat_ofNat (number : Nat) : (ofNat number).toNat = number % 4294967296 := rfl

@[simp] theorem ofNat_toNat (address : Ipv4Address) : ofNat address.toNat = address := by
  cases address
  simp [ofNat, toNat]

end Ipv4Address

/-! ## Endpoints and flows -/

structure Endpoint where
  address : Ipv4Address
  port : UInt16
  deriving DecidableEq, Repr, Inhabited

def Endpoint.text (endpoint : Endpoint) : String :=
  endpoint.address.text ++ ":" ++ String.ofList (decimal endpoint.port.toNat)

/-- A conversation between a guest on the simulated network and the outside. -/
structure Flow where
  guest : Endpoint
  outside : Endpoint
  deriving DecidableEq, Repr, Inhabited

def Flow.text (flow : Flow) : String :=
  flow.guest.text ++ " -> " ++ flow.outside.text

end Masquerade
