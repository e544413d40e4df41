import Masquerade.Proofs.Gateway.Echoes
import Masquerade.Proofs.Gateway.SetUp

/-!
# Echoes of messages

A guest that sends the gateway a message gets it back just if it is an intact echo request,
and nothing else comes of it.  Options in the header of the packet and padding behind it
make no difference.
-/

set_option autoImplicit false

namespace Masquerade.Session

open Packet
open World (PassesOn)

/-- A message to the gateway in one piece is passed on, and replied to just if it has four
bytes or more, verifies and is of the kind of echo requests.  Then there is one reply, from
the gateway to the one who asked: with the identification of the request, two hops to live,
kind and code zero, a checksum that verifies, and from the fifth byte on the bytes of the
request.  Streams, mappings and all else stay as they are, and the kernel is asked for
nothing but to relay the frame. -/
theorem messages_are_echoed_exactly (world : World) (sender : NicId) {frame : Bytes}
    {delivery : Delivery} (noGroup : world.gateway.subnet.gateway.isMulticast = false)
    (brings : BringsMessage world.gateway.subnet frame delivery) :
    ∃ replies : List Bytes,
      PassesOn sender frame (replies.map (sender, ·)) world.gateway.streams world
        (world.transmit sender frame) ∧
      (replies ≠ [] ↔ 4 ≤ delivery.payload.length ∧ delivery.payload.head? = some 8 ∧
        Checksum.verifies delivery.payload delivery.payload.length = true) ∧
      replies.length ≤ 1 ∧
      ∀ reply ∈ replies, ∃ answer, Delivery.read reply = some answer ∧
        Echoes world.gateway.subnet delivery answer := by
  by_cases request : IsEchoRequest delivery.payload
  · obtain ⟨reply, answer, read, echoes, passes⟩ :=
      World.transmit_echoRequest sender noGroup brings request
    refine ⟨[reply], passes, ?_, Nat.le_refl 1, ?_⟩
    · exact ⟨fun _ => ⟨request.atLeast, request.kind, request.intact⟩,
        fun _ => List.cons_ne_nil reply []⟩
    · rw [List.forall_mem_singleton]
      exact ⟨answer, read, echoes⟩
  · have passes := World.transmit_otherMessage sender noGroup brings request
    refine ⟨[], passes, ?_, Nat.zero_le 1, ?_⟩
    · constructor
      · exact fun some => absurd rfl some
      · rintro ⟨atLeast, kind, intact⟩
        exact absurd ⟨atLeast, kind, intact⟩ request
    · exact fun reply member => absurd member List.not_mem_nil

/-! ## A request with options and padding -/

def oddMessage : Bytes := [8, 5, 0x6f, 0x09, 0x12, 0x34, 0, 1, 0xaa, 0xbb, 0xcc]

def oddHeader : Ipv4Header where
  tos := 0
  totalLength := 35
  identification := 0x1234
  flagsFragment := 0
  ttl := 64
  protocol := Ipv4Header.icmp
  checksum := 0x47a0
  source := .ofOctets 10 0 0 5
  destination := .ofOctets 10 0 0 254

def oddPacket : Bytes :=
  [0x46] ++ oddHeader.encode.drop 1 ++ [7, 4, 4, 0] ++ oddMessage

def oddFrame : Bytes :=
  ethernetFrame ⟨Settings.gatewayMac, ⟨2, 0, 0, 0, 0, 1⟩, EthernetHeader.ipv4⟩
    (oddPacket ++ [1, 2, 3, 4, 5, 6, 7])

def oddDelivery : Delivery where
  ethernet := ⟨Settings.gatewayMac, ⟨2, 0, 0, 0, 0, 1⟩, EthernetHeader.ipv4⟩
  ip := oddHeader
  payload := oddMessage

theorem oddFrame_bringsMessage : BringsMessage .standard oddFrame oddDelivery where
  atLeast := by decide +kernel
  atMost := by decide +kernel
  intact := by decide +kernel
  addressed := Or.inl rfl
  toGateway := by decide +kernel
  protocol := rfl
  unbroken := by decide +kernel

/-- The message comes back without the option, the padding and the code. -/
theorem odd_message_is_echoed :
    let world := World.plain (NameService.load none)
    world.gateway.subnet.gateway.isMulticast = false ∧
      BringsMessage world.gateway.subnet oddFrame oddDelivery ∧
      ∃ reply answer,
        PassesOn ⟨1⟩ oddFrame [(⟨1⟩, reply)] world.gateway.streams world
          (world.transmit ⟨1⟩ oddFrame) ∧
        Delivery.read reply = some answer ∧
        Echoes world.gateway.subnet oddDelivery answer ∧
        answer.payload.length = 11 ∧
        answer.payload.drop 4 = [0x12, 0x34, 0, 1, 0xaa, 0xbb, 0xcc] := by
  intro world
  have noGroup : world.gateway.subnet.gateway.isMulticast = false := by decide +kernel
  have brings : BringsMessage world.gateway.subnet oddFrame oddDelivery := by
    have subnet : world.gateway.subnet = .standard := rfl
    rw [subnet]
    exact oddFrame_bringsMessage
  obtain ⟨replies, passes, replied, single, echoed⟩ :=
    messages_are_echoed_exactly world ⟨1⟩ noGroup brings
  have some : replies ≠ [] := replied.mpr (by decide +kernel)
  obtain ⟨reply, rfl⟩ := List.length_eq_one_iff.mp
    (Nat.le_antisymm single (List.length_pos_iff.mpr some))
  obtain ⟨answer, read, echoes⟩ := echoed reply (List.mem_singleton_self reply)
  exact ⟨noGroup, brings, reply, answer, passes, read, echoes, echoes.length, echoes.rest⟩

end Masquerade.Session
