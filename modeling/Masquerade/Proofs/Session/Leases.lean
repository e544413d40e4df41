import Masquerade.Proofs.Gateway.Leases
import Masquerade.Proofs.Gateway.SetUp

/-!
# Which address a station is told

The answer to the question for the address of a station depends on the subnet and on eight
bits of its hardware address.  All 256 values of these bits are given out, among them the
one that leads to the address of the gateway.
-/

set_option autoImplicit false

namespace Masquerade.Session

open Packet
open World (PassesOn)

/-- Whoever asks for the address of a station is told one inside the subnet, and no more
comes of the question.  All 256 hosts with a number of one byte are told to some station.  Two
stations are told the same just if they agree in the low half of the fifth octet and the high
half of the sixth, and a station is told the address of the gateway just if these are 0xf and
0xe. -/
theorem leases_are_shared_iff_host_bits_are (subnet : Subnet) :
    (∀ (world : World) (sender : NicId) (frame : Bytes) (ethernet : EthernetHeader)
        (question : ArpPacket), world.gateway.subnet = subnet → 34 ≤ frame.length →
      frame.length ≤ 1522 → AsksAddress frame ethernet question →
        ∃ answer, AssignsAddress subnet answer ethernet.source question.targetMac
            (subnet.leased question.targetMac) ∧
          PassesOn sender frame [(sender, answer)] world.gateway.streams world
            (world.transmit sender frame)) ∧
    (∀ station, subnet.contains (subnet.leased station) = true) ∧
    (∀ number < 256, ∃ station, subnet.leased station = subnet.host number) ∧
    (∀ station, subnet.leased station = subnet.gateway ↔
      station.fifth.toNat % 16 = 15 ∧ station.sixth.toNat / 16 = 14) ∧
    ∀ first second, subnet.leased first = subnet.leased second ↔
      first.fifth.toNat % 16 = second.fifth.toNat % 16 ∧
        first.sixth.toNat / 16 = second.sixth.toNat / 16 := by
  refine ⟨?_, subnet.contains_leased, fun _ => subnet.exists_leased_eq_host,
    subnet.leased_eq_gateway_iff, fun first second => ?_⟩
  · rintro world sender frame ethernet question rfl atLeast atMost asks
    exact world.transmit_asksAddress sender asks atLeast atMost
  · rw [subnet.leased_eq_iff]
    exact ⟨fun shares => ⟨shares.1, shares.2⟩, fun shares => ⟨shares.1, shares.2⟩⟩

/-! ## A station with the number of the gateway -/

def namesake : Mac := ⟨0x52, 0x54, 0, 0x12, 0x0f, 0xe0⟩

def namesakeHeader : EthernetHeader :=
  ⟨⟨255, 255, 255, 255, 255, 255⟩, namesake, EthernetHeader.reverseArp⟩

def namesakeQuestion : ArpPacket :=
  .ethernetIpv4 ArpPacket.reverseRequest namesake (.ofOctets 0 0 0 0) namesake (.ofOctets 0 0 0 0)

def namesakeFrame : Bytes :=
  ethernetFrame namesakeHeader (namesakeQuestion.encode ++ List.replicate 18 0)

theorem namesakeFrame_asks : AsksAddress namesakeFrame namesakeHeader namesakeQuestion where
  carries := carriesReverseArp_encode _ rfl rfl
  addressed := Or.inr rfl
  asks := rfl

theorem namesake_leased : Subnet.standard.leased namesake = .ofOctets 10 0 0 254 := by
  decide

theorem namesake_gets_a_shared_lease :
    let world := World.plain (NameService.load none)
    world.gateway.subnet = .standard ∧ 34 ≤ namesakeFrame.length ∧ namesakeFrame.length ≤ 1522 ∧
      AsksAddress namesakeFrame namesakeHeader namesakeQuestion ∧
      ∃ answer, AssignsAddress .standard answer namesake namesake (.ofOctets 10 0 0 254) ∧
        PassesOn ⟨1⟩ namesakeFrame [(⟨1⟩, answer)] world.gateway.streams world
          (world.transmit ⟨1⟩ namesakeFrame) := by
  intro world
  have atLeast : 34 ≤ namesakeFrame.length := by decide
  have atMost : namesakeFrame.length ≤ 1522 := by decide
  have answered := (leases_are_shared_iff_host_bits_are .standard).1 world ⟨1⟩ namesakeFrame
    namesakeHeader namesakeQuestion rfl atLeast atMost namesakeFrame_asks
  exact ⟨rfl, atLeast, atMost, namesakeFrame_asks, namesake_leased ▸ answered⟩

/-- The address of the gateway is given out, and it is not true that no station gets it. -/
theorem gateway_address_is_given_out :
    let world := World.plain (NameService.load none)
    (∃ answer, (world.transmit ⟨1⟩ namesakeFrame).gateway.mailbox.waiting ⟨1⟩ = [answer] ∧
      AssignsAddress world.gateway.subnet answer namesake namesake
        world.gateway.subnet.gateway) ∧
      ¬ ∀ station, world.gateway.subnet.leased station ≠ world.gateway.subnet.gateway := by
  intro world
  have shared : world.gateway.subnet.leased namesake = world.gateway.subnet.gateway := by decide
  obtain ⟨answer, assigns, passes⟩ := world.transmit_asksAddress ⟨1⟩ namesakeFrame_asks
    (by decide) (by decide)
  refine ⟨⟨answer, ?_, shared ▸ assigns⟩, fun never => never namesake shared⟩
  rw [passes.gateway, Gateway.waiting_passing_own]
  rfl

end Masquerade.Session
