import Masquerade.Proofs.Gateway.Corruption
import Masquerade.Proofs.Gateway.Passing
import Masquerade.Proofs.Session.Replies

/-!
# Damaged frames

Whatever has happened before, a frame that was damaged in one guarded byte is passed on to
the other controllers and to the peers like any other, and has no other effect.
-/

set_option autoImplicit false

namespace Masquerade.Session

open Packet
open World (PassesOn)

/-- In any world: the gateway leaves no answer to a damaged frame, makes no calls but those
that relay it, keeps all streams and mappings, and counts it. -/
theorem damaged_frames_are_only_spread (world : World) (sender : NicId) {frame : Bytes}
    (atLeast : 34 ≤ frame.length) (atMost : frame.length ≤ 1522) {delivery : Delivery}
    (intact : Delivery.read frame = some delivery) {place : Nat} (guards : delivery.Guards place)
    {byte : UInt8} (changed : frame[place]? ≠ some byte) :
    PassesOn sender (frame.set place byte) [] world.gateway.streams world
      (world.transmit sender (frame.set place byte)) := by
  rw [← List.length_set (i := place) (a := byte)] at atLeast atMost
  exact world.transmit_passesOn sender atLeast atMost
    (Request.ofFrame_set_eq_none world.gateway.subnet intact guards changed)

/-! ## A query with one wrong byte -/

def queryDelivery : Delivery where
  ethernet := ⟨Settings.gatewayMac, ⟨2, 0, 0, 0, 0, 1⟩, EthernetHeader.ipv4⟩
  ip :=
    { tos := 0, totalLength := 31, identification := 0, flagsFragment := 0, ttl := 64,
      protocol := 17, checksum := 0x65cc, source := .ofOctets 10 0 0 5,
      destination := .ofOctets 10 0 0 254 }
  payload := [15, 160, 0, 53, 0, 11, 214, 254, 1, 2, 3]

theorem queryDelivery_guards : queryDelivery.Guards 42 := by
  have parses : UdpHeader.decode queryDelivery.payload =
      .ok (⟨4000, 53, 11, 0xd6fe⟩, UdpHeader.size) := by
    decide +kernel
  have behind : UdpHeader.size ≤ 8 := Nat.le_refl 8
  have data : queryDelivery.GuardsPayload 8 :=
    .datagram _ rfl parses (by decide) (by decide +kernel) (Or.inr behind) (by decide)
  exact .payload data

theorem damaged_query_is_only_spread :
    let world := after queried (query.take 1)
    let damaged := queryFrame.set 42 9
    34 ≤ queryFrame.length ∧ queryFrame.length ≤ 1522 ∧
      Delivery.read queryFrame = some queryDelivery ∧ queryDelivery.Guards 42 ∧
      queryFrame[42]? ≠ some 9 ∧
      (world.transmit ⟨1⟩ queryFrame).gateway.mappings.size = 1 ∧
      PassesOn ⟨1⟩ damaged [] world.gateway.streams world (world.transmit ⟨1⟩ damaged) := by
  intro world damaged
  have atLeast : 34 ≤ queryFrame.length := by decide +kernel
  have atMost : queryFrame.length ≤ 1522 := by decide +kernel
  have intact : Delivery.read queryFrame = some queryDelivery := by decide +kernel
  have changed : queryFrame[42]? ≠ some 9 := by decide +kernel
  exact ⟨atLeast, atMost, intact, queryDelivery_guards, changed, by decide +kernel,
    damaged_frames_are_only_spread world ⟨1⟩ atLeast atMost intact queryDelivery_guards changed⟩

end Masquerade.Session
