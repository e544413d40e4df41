import Masquerade.Proofs.Gateway.Buffers
import Masquerade.Proofs.Gateway.Corruption
import Masquerade.Proofs.Gateway.Passing

/-!
# Parts of packets

A packet may be but a part of a larger one.  Datagrams and segments are looked for in whole
packets only.  Echo requests are not: a part that could be one, with a checksum of its
own, is taken for one.
-/

set_option autoImplicit false

namespace Masquerade

open Packet

/-- The frame carries a packet with this header, whatever its checksum, that is a part of a
larger one: more parts are to follow, or others came before it. -/
structure BringsFragment (frame : Bytes) (ip : Ipv4Header) : Prop where
  carries : ∃ ethernet start length, EthernetHeader.decode frame = .ok (ethernet, start) ∧
    ethernet.etherType = EthernetHeader.ipv4 ∧
    Ipv4Header.decode (frame.drop start) = .ok (ip, length)
  part : ip.moreFragments = true ∨ ip.fragmentOffset ≠ 0

structure HoldsEchoRequest (subnet : Subnet) (delivery : Delivery) : Prop where
  protocol : delivery.ip.protocol = Ipv4Header.icmp
  toGateway : delivery.ip.destination = subnet.gateway
  parses : ∃ header length, IcmpHeader.decode delivery.payload = .ok (header, length) ∧
    header.kind = IcmpHeader.echoRequest
  intact : Checksum.verifies delivery.payload delivery.payload.length = true

def AsksEcho (subnet : Subnet) (frame : Bytes) (delivery : Delivery) : Prop :=
  Reaches subnet frame delivery ∧ HoldsEchoRequest subnet delivery

def Request.echoOf (delivery : Delivery) : Request :=
  .echo delivery.ethernet.source delivery.ip delivery.payload

/-! ## What fragments ask for -/

section Asking

variable {subnet : Subnet} {frame : Bytes} {ip : Ipv4Header} {delivery : Delivery}
  {request : Request}

theorem isFragment_iff : ip.isFragment = true ↔ ip.moreFragments = true ∨ ip.fragmentOffset ≠ 0 := by
  simp only [Ipv4Header.isFragment, Bool.or_eq_true, bne_iff_ne]

theorem ofMessage_eq_some_iff (protocol : delivery.ip.protocol = Ipv4Header.icmp) :
    Request.ofMessage subnet delivery.ethernet.source delivery.ip delivery.payload = some request ↔
      HoldsEchoRequest subnet delivery ∧ request = .echoOf delivery := by
  simp only [Request.ofMessage]
  constructor
  · intro asked
    split at asked
    · cases asked
    · rename_i toGateway
      split at asked
      · cases asked
      · rename_i header length decoded
        split at asked
        · rename_i accepted
          cases asked
          exact ⟨⟨protocol, not_not.mp toGateway, ⟨header, length, decoded, accepted.2⟩,
            accepted.1⟩, rfl⟩
        · cases asked
  · rintro ⟨⟨_, toGateway, ⟨header, length, decoded, kind⟩, intact⟩, rfl⟩
    rw [if_neg (not_not.mpr toGateway), decoded]
    exact if_pos ⟨intact, kind⟩

theorem ofDelivery_of_fragment (part : delivery.ip.isFragment = true) :
    Request.ofDelivery subnet delivery = some request ↔
      HoldsEchoRequest subnet delivery ∧ request = .echoOf delivery := by
  by_cases protocol : delivery.ip.protocol = Ipv4Header.icmp
  · rw [Request.ofDelivery, if_pos protocol]
    exact ofMessage_eq_some_iff protocol
  · simp only [Request.ofDelivery, Request.ofSegment, Request.ofDatagram, part, if_true,
      if_neg protocol, ite_self, reduceCtorEq, false_iff]
    exact fun holds => protocol holds.1.protocol

theorem BringsFragment.ip_eq (fragment : BringsFragment frame ip)
    (intact : Delivery.read frame = some delivery) : delivery.ip = ip := by
  obtain ⟨_, _, _, decoded, _, parsed⟩ := fragment.carries
  obtain ⟨_, _, decodedToo, _, parsedToo, _, _⟩ := Delivery.read_eq_some_iff.mp intact
  rw [decoded] at decodedToo
  cases decodedToo
  rw [parsed] at parsedToo
  cases parsedToo
  rfl

/-- Of a fragment nothing is asked for but an echo. -/
theorem ofFrame_of_fragment (fragment : BringsFragment frame ip) :
    Request.ofFrame subnet frame = some request ↔
      ∃ delivery, AsksEcho subnet frame delivery ∧ request = .echoOf delivery := by
  have part := isFragment_iff.mpr fragment.part
  constructor
  · intro asked
    obtain ⟨_, _, _, decoded, isIpv4, _⟩ := fragment.carries
    obtain ⟨delivery, reaches, asked⟩ :=
      (ofFrame_eq_some_iff (carried_of_ofFrame decoded isIpv4 asked)).mp asked
    rw [← fragment.ip_eq reaches.intact] at part
    obtain ⟨holds, same⟩ := (ofDelivery_of_fragment part).mp asked
    exact ⟨delivery, ⟨reaches, holds⟩, same⟩
  · rintro ⟨delivery, ⟨reaches, holds⟩, rfl⟩
    rw [← fragment.ip_eq reaches.intact] at part
    exact (ofFrame_eq_some_iff rfl).mpr
      ⟨delivery, reaches, (ofDelivery_of_fragment part).mpr ⟨holds, rfl⟩⟩

end Asking

/-! ## What becomes of them -/

namespace World

variable {world : World} {sender : NicId} {frame : Bytes} {ip : Ipv4Header}

theorem transmit_fragment (fragment : BringsFragment frame ip)
    (atLeast : Request.shortestFrame ≤ frame.length)
    (atMost : frame.length ≤ Request.longestFrame)
    (noEcho : ∀ delivery, ¬ AsksEcho world.gateway.subnet frame delivery) :
    PassesOn sender frame [] world.gateway.streams world (world.transmit sender frame) := by
  apply world.transmit_passesOn sender atLeast atMost
  rw [Option.eq_none_iff_forall_ne_some]
  intro request asked
  obtain ⟨delivery, asks, _⟩ := (ofFrame_of_fragment fragment).mp asked
  exact noEcho delivery asks

theorem transmit_echo {delivery : Delivery}
    (asked : Request.ofFrame world.gateway.subnet frame = some (.echoOf delivery))
    (atLeast : Request.shortestFrame ≤ frame.length)
    (atMost : frame.length ≤ Request.longestFrame) :
    ∃ answer, Answer.echo world.gateway.subnet delivery.ethernet.source delivery.ip
        delivery.payload = .ok answer ∧
      PassesOn sender frame [(sender, answer)] world.gateway.streams world
        (world.transmit sender frame) := by
  obtain ⟨header, fits⟩ := message_fits asked
  have small : Ipv4Header.size + delivery.payload.length ≤ 65535 := by
    simp only [Request.longestFrame, EthernetHeader.size, Ipv4Header.size] at atMost fits ⊢
    omega
  obtain ⟨answer, built⟩ := Checked.echo_isBuilt world.gateway.subnet delivery.ethernet.source
    delivery.ip header small
  refine ⟨answer, built, ?_⟩
  have answered : world.transmit sender frame =
      (world.spread sender frame).post sender [answer] := by
    rw [transmit, if_neg (by omega), asked]
    dsimp only [Request.echoOf, serve]
    rw [spread_subnet, built]
    rfl
  rw [answered]
  exact (world.spread_passesOn sender atLeast atMost).post sender answer

end World

end Masquerade
