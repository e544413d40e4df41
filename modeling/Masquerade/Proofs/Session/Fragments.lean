import Masquerade.Proofs.Gateway.Fragments
import Masquerade.Proofs.Session.Replication

/-!
# Fragments from guests

A fragment never becomes a datagram or a segment, whatever bytes it holds.  One that could
be an echo request by itself is answered, though more of it may be still to come.
-/

set_option autoImplicit false

namespace Masquerade.Session

open Packet
open World (PassesOn)

/-- In any world, a fragment is passed on to the other controllers and to the peers like any
other frame.  It has no other effect, with one exception: if its payload is an intact echo
request to the gateway, the sender gets the answer that a whole request would get, and
still there is no other call and no change to streams and mappings. -/
theorem fragments_are_spread_or_echoed (world : World) (sender : NicId) {frame : Bytes}
    {ip : Ipv4Header} (fragment : BringsFragment frame ip) :
    let after := world.transmit sender frame
    (frame.length < 34 ∨ 1522 < frame.length → after = world) ∧
    (34 ≤ frame.length → frame.length ≤ 1522 →
      ((∀ delivery, ¬ AsksEcho world.gateway.subnet frame delivery) →
        PassesOn sender frame [] world.gateway.streams world after) ∧
      ∀ delivery, AsksEcho world.gateway.subnet frame delivery →
        ∃ answer, Answer.echo world.gateway.subnet delivery.ethernet.source delivery.ip
            delivery.payload = .ok answer ∧
          PassesOn sender frame [(sender, answer)] world.gateway.streams world after) := by
  intro after
  refine ⟨fun unusable => if_pos unusable, fun atLeast atMost => ⟨fun noEcho => ?_, ?_⟩⟩
  · exact World.transmit_fragment fragment atLeast atMost noEcho
  · intro delivery asks
    have asked := (ofFrame_of_fragment fragment).mpr ⟨delivery, asks, rfl⟩
    exact World.transmit_echo asked atLeast atMost

/-! ## The first part of an echo request -/

def echoHeader : Ipv4Header where
  tos := 0
  totalLength := 28
  identification := 7
  flagsFragment := 0x2000
  ttl := 64
  protocol := Ipv4Header.icmp
  checksum := 0x45d8
  source := .ofOctets 10 0 0 5
  destination := .ofOctets 10 0 0 254

/-- A first part that has the checksum of a whole echo request. -/
def echoPart : Bytes :=
  ethernetFrame ⟨Settings.gatewayMac, ⟨2, 0, 0, 0, 0, 1⟩, EthernetHeader.ipv4⟩
    (echoHeader.encode ++ [8, 0, 0xf7, 0xfd, 0, 1, 0, 1])

def echoDelivery : Delivery where
  ethernet := ⟨Settings.gatewayMac, ⟨2, 0, 0, 0, 0, 1⟩, EthernetHeader.ipv4⟩
  ip := echoHeader
  payload := [8, 0, 0xf7, 0xfd, 0, 1, 0, 1]

theorem echoPart_bringsFragment : BringsFragment echoPart echoHeader where
  carries := ⟨⟨Settings.gatewayMac, ⟨2, 0, 0, 0, 0, 1⟩, EthernetHeader.ipv4⟩, 14, 20,
    by decide +kernel⟩
  part := Or.inl (by decide +kernel)

theorem echoPart_asksEcho : AsksEcho .standard echoPart echoDelivery where
  left :=
    { intact := by decide +kernel
      addressed := Or.inl rfl
      noBroadcast := by decide +kernel
      noMulticast := by decide +kernel
      outward := Or.inl (by decide +kernel) }
  right :=
    { protocol := rfl
      toGateway := by decide +kernel
      parses := ⟨⟨8, 0, 0xf7fd⟩, 4, by decide +kernel⟩
      intact := by decide +kernel }

theorem echo_part_is_echoed :
    let world := after related registered
    BringsFragment echoPart echoHeader ∧
      ∃ answer, Answer.echo world.gateway.subnet echoDelivery.ethernet.source echoHeader
          echoDelivery.payload = .ok answer ∧
        PassesOn ⟨1⟩ echoPart [(⟨1⟩, answer)] world.gateway.streams world
          (world.transmit ⟨1⟩ echoPart) := by
  intro world
  have whole := (fragments_are_spread_or_echoed world ⟨1⟩ echoPart_bringsFragment).2
  have subnet : world.gateway.subnet = .standard := rfl
  have asks : AsksEcho world.gateway.subnet echoPart echoDelivery := by
    rw [subnet]
    exact echoPart_asksEcho
  exact ⟨echoPart_bringsFragment,
    (whole (by decide +kernel) (by decide +kernel)).2 echoDelivery asks⟩

/-- More is left than copies of the first part. -/
theorem echo_part_is_not_only_spread :
    let world := after related registered
    BringsFragment echoPart echoHeader ∧ 34 ≤ echoPart.length ∧ echoPart.length ≤ 1522 ∧
      world.gateway.copies ⟨1⟩ echoPart = [(⟨2⟩, echoPart)] ∧
      (world.transmit ⟨1⟩ echoPart).gateway.mailbox.waiting ⟨1⟩ ≠ [] ∧
      ¬ PassesOn ⟨1⟩ echoPart [] world.gateway.streams world
        (world.transmit ⟨1⟩ echoPart) := by
  intro world
  have answered : (world.transmit ⟨1⟩ echoPart).gateway.mailbox.entries.length = 2 := by
    decide +kernel
  have copied : (world.gateway.passing ⟨1⟩ echoPart []
      world.gateway.streams).mailbox.entries.length = 1 := by
    decide +kernel
  refine ⟨echoPart_bringsFragment, by decide +kernel, by decide +kernel, by decide +kernel,
    by decide +kernel, fun passes => ?_⟩
  rw [passes.gateway, copied] at answered
  cases answered

end Masquerade.Session
