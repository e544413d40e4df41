import Masquerade.Proofs.Gateway.Passing
import Masquerade.Proofs.Packet.WellFormed

/-!
# Addresses for stations that know only their hardware address

Such a station asks for its network address by its hardware address.  The gateway keeps no
list of what it gives out: eight bits of the hardware address are the host part.  A block
of addresses has room for all 256 of these host parts, so that stations share an address
just if they share the bits.  One of the host parts is the one that the gateway has itself.
-/

set_option autoImplicit false

namespace Masquerade

open Packet

/-! ## Host parts -/

def Mac.hostNumber (station : Mac) : Nat :=
  station.fifth.toNat % 16 * 16 + station.sixth.toNat / 16

structure Mac.SharesHostBits (first second : Mac) : Prop where
  lowHalfOfFifth : first.fifth.toNat % 16 = second.fifth.toNat % 16
  highHalfOfSixth : first.sixth.toNat / 16 = second.sixth.toNat / 16

namespace Mac

variable {first second : Mac}

theorem hostNumber_lt (station : Mac) : station.hostNumber < 256 := by
  have octet := station.sixth.toNat_lt
  have half := Nat.mod_lt station.fifth.toNat (show 0 < 16 by decide)
  rw [hostNumber]
  omega

theorem hostNumber_eq_iff : first.hostNumber = second.hostNumber ↔ first.SharesHostBits second := by
  have firstOctet := first.sixth.toNat_lt
  have secondOctet := second.sixth.toNat_lt
  simp only [hostNumber]
  constructor
  · intro same
    exact ⟨by omega, by omega⟩
  · rintro ⟨lowHalf, highHalf⟩
    rw [lowHalf, highHalf]

end Mac

namespace Subnet

variable (subnet : Subnet)

theorem byte_le_span : 256 ≤ subnet.span := by
  have short := subnet.length_le
  calc 256 = 2 ^ 8 := rfl
    _ ≤ 2 ^ (32 - subnet.length) := Nat.pow_le_pow_right (by decide) (by omega)

theorem toNat_host_byte {number : Nat} (isByte : number < 256) :
    (subnet.host number).toNat = subnet.network.toNat + number := by
  have room := subnet.byte_le_span
  rw [toNat_host, Nat.mod_eq_of_lt (by omega)]

theorem host_eq_iff {first second : Nat} (firstIsByte : first < 256) (secondIsByte : second < 256) :
    subnet.host first = subnet.host second ↔ first = second := by
  constructor
  · intro same
    have numbers := congrArg Ipv4Address.toNat same
    rw [subnet.toNat_host_byte firstIsByte, subnet.toNat_host_byte secondIsByte] at numbers
    omega
  · exact congrArg subnet.host

theorem leased_eq_host (station : Mac) : subnet.leased station = subnet.host station.hostNumber :=
  rfl

theorem contains_leased (station : Mac) : subnet.contains (subnet.leased station) = true :=
  subnet.contains_host station.hostNumber

theorem leased_eq_iff {first second : Mac} :
    subnet.leased first = subnet.leased second ↔ first.SharesHostBits second := by
  rw [leased_eq_host, leased_eq_host, subnet.host_eq_iff first.hostNumber_lt second.hostNumber_lt]
  exact Mac.hostNumber_eq_iff

theorem exists_leased_eq_host {number : Nat} (isByte : number < 256) :
    ∃ station, subnet.leased station = subnet.host number := by
  refine ⟨⟨0, 0, 0, 0, UInt8.ofNat (number / 16), UInt8.ofNat (number % 16 * 16)⟩, ?_⟩
  have fifth : (UInt8.ofNat (number / 16)).toNat = number / 16 :=
    UInt8.toNat_ofNat_of_lt' (by simp only [UInt8.size]; omega)
  have sixth : (UInt8.ofNat (number % 16 * 16)).toNat = number % 16 * 16 :=
    UInt8.toNat_ofNat_of_lt' (by simp only [UInt8.size]; omega)
  rw [leased_eq_host, Mac.hostNumber]
  dsimp only
  rw [fifth, sixth]
  congr 1
  omega

theorem leased_eq_gateway_iff (station : Mac) : subnet.leased station = subnet.gateway ↔
    station.fifth.toNat % 16 = 15 ∧ station.sixth.toNat / 16 = 14 := by
  have octet := station.sixth.toNat_lt
  rw [leased_eq_host, gateway, subnet.host_eq_iff station.hostNumber_lt (by decide), Mac.hostNumber]
  omega

theorem gateway_not_broadcast : subnet.gateway.isBroadcast = false := by
  have last := subnet.network_add_span_le
  have room := subnet.byte_le_span
  have number := subnet.toNat_host_byte (show 254 < 256 by decide)
  rw [Ipv4Address.isBroadcast, beq_eq_false_iff_ne, gateway, number]
  omega

end Subnet

/-! ## Questions and answers -/

structure CarriesReverseArp (frame : Bytes) (ethernet : EthernetHeader) (packet : ArpPacket) :
    Prop where
  parses : ∃ start length, EthernetHeader.decode frame = .ok (ethernet, start) ∧
    ArpPacket.decode (frame.drop start) = .ok (packet, length)
  etherType : ethernet.etherType = EthernetHeader.reverseArp
  isEthernetIpv4 : packet.isEthernetIpv4 = true

/-- A guest asks the gateway or a group for the address of the station in the question. -/
structure AsksAddress (frame : Bytes) (ethernet : EthernetHeader) (question : ArpPacket) :
    Prop where
  carries : CarriesReverseArp frame ethernet question
  addressed : ethernet.destination = Settings.gatewayMac ∨ ethernet.destination.isGroup = true
  asks : question.operation = ArpPacket.reverseRequest

def AssignsAddress (subnet : Subnet) (frame : Bytes) (guest station : Mac)
    (address : Ipv4Address) : Prop :=
  CarriesReverseArp frame ⟨guest, Settings.gatewayMac, EthernetHeader.reverseArp⟩
    (.ethernetIpv4 ArpPacket.reverseReply Settings.gatewayMac subnet.gateway station address)

theorem carriesReverseArp_encode {ethernet : EthernetHeader} {packet : ArpPacket} (rest : Bytes)
    (etherType : ethernet.etherType = EthernetHeader.reverseArp)
    (isEthernetIpv4 : packet.isEthernetIpv4 = true) :
    CarriesReverseArp (ethernetFrame ethernet (packet.encode ++ rest)) ethernet packet := by
  refine ⟨⟨_, ArpPacket.size, decode_ethernetFrame .., ?_⟩, etherType, isEthernetIpv4⟩
  rw [drop_ethernetFrame, ArpPacket.decode, ArpPacket.reader_encode]

theorem ownAddress_assigns (subnet : Subnet) (guest : Mac) (question : ArpPacket) :
    AssignsAddress subnet (Answer.ownAddress subnet guest question) guest question.targetMac
      (subnet.leased question.targetMac) := by
  rw [Answer.ownAddress, ← List.append_nil (ArpPacket.encode _)]
  exact carriesReverseArp_encode [] rfl rfl

theorem AsksAddress.asked {frame : Bytes} {ethernet : EthernetHeader} {question : ArpPacket}
    (asks : AsksAddress frame ethernet question) (subnet : Subnet) :
    Request.ofFrame subnet frame = some (.ownAddress ethernet.source question) := by
  obtain ⟨⟨⟨start, length, decoded, parsed⟩, etherType, related⟩, addressed, asksReverse⟩ := asks
  rw [Request.ofFrame, openFrame_eq_some_iff.mpr ⟨start, decoded, addressed, rfl⟩]
  dsimp only
  rw [etherType, if_neg (by decide), if_neg (by decide), if_pos rfl, Request.ofReverseArp, parsed]
  exact if_pos ⟨related, asksReverse⟩

/-- The one who asks is told the address, and no more comes of the question. -/
theorem World.transmit_asksAddress (world : World) (sender : NicId) {frame : Bytes}
    {ethernet : EthernetHeader} {question : ArpPacket}
    (asks : AsksAddress frame ethernet question)
    (atLeast : Request.shortestFrame ≤ frame.length)
    (atMost : frame.length ≤ Request.longestFrame) :
    ∃ answer, AssignsAddress world.gateway.subnet answer ethernet.source question.targetMac
        (world.gateway.subnet.leased question.targetMac) ∧
      PassesOn sender frame [(sender, answer)] world.gateway.streams world
        (world.transmit sender frame) := by
  have asked := asked_eq_some_iff.mpr ⟨atLeast, atMost, asks.asked world.gateway.subnet⟩
  have passes := (world.spread_passesOn sender atLeast atMost).post sender
    (Answer.ownAddress world.gateway.subnet ethernet.source question)
  refine ⟨_, ownAddress_assigns .., ?_⟩
  rw [transmit_of_asked asked, serve, spread_subnet]
  exact passes

end Masquerade
