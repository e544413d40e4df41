import Masquerade.Address.Reader
import Masquerade.SetupError
import Masquerade.Text.Blank

/-!
# Subnets

The block of addresses that is simulated.  A subnet of length `l` spans
2^(32 - l) addresses, the first of which is a multiple of the span; so an address
lies inside exactly if division by the span gives the same number, and the rest
of that division is its host part.
-/

set_option autoImplicit false

namespace Masquerade

open Text (NumeralForm)

def Subnet.spanOf (length : Nat) : Nat := Nat.pow 2 (32 - length)

structure Subnet where
  network : Ipv4Address
  length : Nat
  length_pos : 0 < length
  length_le : length ≤ 24
  aligned : network.toNat % Subnet.spanOf length = 0

namespace Subnet

def span (subnet : Subnet) : Nat := spanOf subnet.length

def mask (subnet : Subnet) : UInt32 := UInt32.ofNat (4294967296 - subnet.span)

theorem aligned_ofNat (address : Ipv4Address) (span : Nat) :
    (Ipv4Address.ofNat (address.toNat / span * span)).toNat % span = 0 := by
  have bound := address.toNat_lt
  have smaller := Nat.div_mul_le_self address.toNat span
  have fits : address.toNat / span * span < 4294967296 := by omega
  rw [Ipv4Address.toNat_ofNat, Nat.mod_eq_of_lt fits, Nat.mul_mod_left]

def around (address : Ipv4Address) (length : Nat) : Except SetupError Subnet :=
  if inRange : 0 < length ∧ length ≤ 24 then
    .ok {
      network := .ofNat (address.toNat / spanOf length * spanOf length)
      length
      length_pos := inRange.1
      length_le := inRange.2
      aligned := aligned_ofNat address _ }
  else .error (.subnetLength length)

def contains (subnet : Subnet) (address : Ipv4Address) : Bool :=
  address.toNat / subnet.span == subnet.network.toNat / subnet.span

/-- The address in the block with the host part of `number`. -/
def host (subnet : Subnet) (number : Nat) : Ipv4Address :=
  .ofNat (subnet.network.toNat + number % subnet.span)

def parse (text : String) : Except SetupError Subnet :=
  match Text.cutFirst '/' (Text.trim text.toList) with
  | none => .error (.malformedSubnet text)
  | some (address, length) =>
    match Address.ipv4? address, NumeralForm.subnetLength.readSigned length with
    | some address, some length => around address length
    | _, _ => .error (.malformedSubnet text)

def chars (subnet : Subnet) : List Char :=
  subnet.network.chars ++ '/' :: Text.decimal subnet.length

def text (subnet : Subnet) : String := String.ofList subnet.chars

def standard : Subnet where
  network := .ofOctets 10 0 0 0
  length := 8
  length_pos := by decide
  length_le := by decide
  aligned := by decide

/-! ## Stations -/

/-- The address of the gateway: host 254. -/
def gateway (subnet : Subnet) : Ipv4Address := subnet.host 254

/-- The address for a station that knows only its hardware address.  Its host
part is the low half of the fifth octet and the high half of the sixth, so that
a station ending in `00:10` is host 1. -/
def leased (subnet : Subnet) (station : Mac) : Ipv4Address :=
  subnet.host (station.fifth.toNat % 16 * 16 + station.sixth.toNat / 16)

/-! ## The host part -/

theorem span_pos (subnet : Subnet) : 0 < subnet.span := Nat.two_pow_pos _

theorem spanOf_mul {length : Nat} (inRange : length ≤ 32) :
    spanOf length * Nat.pow 2 length = 4294967296 := by
  rw [spanOf, Nat.pow_eq, Nat.pow_eq, ← Nat.pow_add, Nat.sub_add_cancel inRange]

theorem network_add_span_le (subnet : Subnet) :
    subnet.network.toNat + subnet.span ≤ 4294967296 := by
  have bound := subnet.network.toNat_lt
  have aligned : subnet.network.toNat % subnet.span = 0 := subnet.aligned
  obtain ⟨count, network⟩ := Nat.dvd_of_mod_eq_zero aligned
  have whole : subnet.span * Nat.pow 2 subnet.length = 4294967296 :=
    spanOf_mul (Nat.le_trans subnet.length_le (by decide))
  have fewer : count < Nat.pow 2 subnet.length := by
    apply Nat.lt_of_mul_lt_mul_left (a := subnet.span)
    omega
  calc subnet.network.toNat + subnet.span
      = subnet.span * (count + 1) := by rw [network, Nat.mul_add, Nat.mul_one]
    _ ≤ subnet.span * Nat.pow 2 subnet.length := Nat.mul_le_mul_left _ fewer
    _ = 4294967296 := whole

theorem toNat_host (subnet : Subnet) (number : Nat) :
    (subnet.host number).toNat = subnet.network.toNat + number % subnet.span := by
  have fits := subnet.network_add_span_le
  have below := Nat.mod_lt number subnet.span_pos
  rw [host, Ipv4Address.toNat_ofNat, Nat.mod_eq_of_lt (by omega)]

theorem contains_host (subnet : Subnet) (number : Nat) :
    subnet.contains (subnet.host number) = true := by
  have aligned : subnet.network.toNat % subnet.span = 0 := subnet.aligned
  obtain ⟨count, network⟩ := Nat.dvd_of_mod_eq_zero aligned
  have positive := subnet.span_pos
  simp only [contains, toNat_host, network, beq_iff_eq]
  rw [Nat.mul_add_div positive, Nat.mul_div_cancel_left _ positive,
    Nat.div_eq_of_lt (Nat.mod_lt _ positive), Nat.add_zero]

end Subnet

end Masquerade
