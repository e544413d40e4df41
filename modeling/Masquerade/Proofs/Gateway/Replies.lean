import Masquerade.Gateway.Mapping
import Masquerade.Proofs.Packet.Pieces

/-!
# Replies as the guest receives them

A reply of at most 65527 bytes reaches the guest in fragments of one packet, which
together make up one intact datagram; of a longer one the guest receives nothing.
-/

set_option autoImplicit false

namespace Masquerade

open Packet

def Mapping.answers (mapping : Mapping) (flow : Flow) (payload : Bytes) : List Bytes :=
  match mapping.replyFrames flow payload with
  | .error _ => []
  | .ok frames => frames

def Mapping.longestReply : Nat := 65527

structure IsDatagramTo (flow : Flow) (payload bytes : Bytes) (header : UdpHeader) : Prop where
  parses : UdpHeader.decode bytes = .ok (header, UdpHeader.size)
  sourcePort : header.sourcePort = flow.outside.port
  destinationPort : header.destinationPort = flow.guest.port
  length : header.length.toNat = bytes.length
  summed : header.checksum ≠ 0
  intact : Checksum.verifiesTransport .udp flow.outside.address flow.guest.address bytes
    bytes.length = true
  payload : bytes.drop UdpHeader.size = payload

/-- The deliveries make up a reply of a mapping. -/
structure IsReply (mapping : Mapping) (flow : Flow) (payload : Bytes)
    (deliveries : List Delivery) : Prop where
  nonempty : deliveries ≠ []
  toGuest : ∀ delivery ∈ deliveries, delivery.ethernet.destination = mapping.guestMac
  fromGateway : ∀ delivery ∈ deliveries, delivery.ethernet.source = Settings.gatewayMac
  source : ∀ delivery ∈ deliveries, delivery.ip.source = flow.outside.address
  destination : ∀ delivery ∈ deliveries, delivery.ip.destination = flow.guest.address
  protocol : ∀ delivery ∈ deliveries, delivery.ip.protocol = Transport.udp.protocol
  identification : ∀ delivery ∈ deliveries,
    delivery.ip.identification = mapping.identification
  short : ∀ delivery ∈ deliveries, delivery.payload.length ≤ Mapping.mostPayload
  followOn : FollowOn 0 deliveries
  datagram : ∃ header,
    IsDatagramTo flow payload (deliveries.flatMap Delivery.payload) header

namespace Mapping

variable (mapping : Mapping) (flow : Flow) {payload : Bytes}

theorem isDatagramTo {payload : Bytes} {sum : UInt16} (summed : sum ≠ 0)
    (fits : UdpHeader.size + payload.length ≤ 65535)
    (intact : Checksum.verifiesTransport .udp flow.outside.address flow.guest.address
      ((UdpHeader.sized (.between flow.outside.port flow.guest.port) payload sum).encode ++ payload)
      ((UdpHeader.sized (.between flow.outside.port flow.guest.port) payload sum).encode ++
        payload).length = true) :
    IsDatagramTo flow payload
      ((UdpHeader.sized (.between flow.outside.port flow.guest.port) payload sum).encode ++ payload)
      (UdpHeader.sized (.between flow.outside.port flow.guest.port) payload sum) where
  parses := UdpHeader.decode_encode (UdpHeader.sized_length _ _ _ fits)
  sourcePort := rfl
  destinationPort := rfl
  length := by rw [UdpHeader.sized_length _ _ _ fits, List.length_append, UdpHeader.length_encode]
  summed := summed
  intact := intact
  payload := List.drop_left' (UdpHeader.length_encode _)

theorem replyFrames_short (fits : payload.length ≤ longestReply) :
    ∃ frames deliveries, mapping.replyFrames flow payload = .ok frames ∧
      frames.map Delivery.read = deliveries.map some ∧
      IsReply mapping flow payload deliveries := by
  have limit : longestReply = 65527 := rfl
  have header : UdpHeader.size = 8 := rfl
  have small : UdpHeader.size + payload.length ≤ 65535 := by omega
  obtain ⟨sum, summed, assembled, intact⟩ := udpDatagram_ok flow.outside.address
    flow.guest.address (.between flow.outside.port flow.guest.port) small
  have datagram := isDatagramTo flow summed small intact
  have total := datagram.length
  rw [UdpHeader.sized_length _ _ _ small] at total
  have carries : (Answer.frameTo mapping.guestMac EthernetHeader.ipv4).etherType =
      EthernetHeader.ipv4 := rfl
  have room : 8 ≤ mostPayload := by decide
  have limit : mostPayload ≤ 65515 := by decide
  obtain ⟨frames, deliveries, built, fragments, nonempty⟩ := fragment_ok
    (.between flow.outside.address flow.guest.address Transport.udp.protocol
      mapping.identification Answer.hops) carries rfl (Or.inr room) limit (total ▸ small)
  refine ⟨frames, deliveries, ?_, fragments.read, ?_⟩
  · unfold replyFrames
    rw [assembled]
    exact built
  · have same := fragments.ip
    exact {
      nonempty := nonempty
      toGuest := fun delivery member => by rw [fragments.ethernet delivery member]; rfl
      fromGateway := fun delivery member => by rw [fragments.ethernet delivery member]; rfl
      source := fun delivery member => congrArg Ipv4Header.source (same delivery member)
      destination := fun delivery member => congrArg Ipv4Header.destination (same delivery member)
      protocol := fun delivery member => congrArg Ipv4Header.protocol (same delivery member)
      identification := fun delivery member =>
        congrArg Ipv4Header.identification (same delivery member)
      short := fragments.short
      followOn := fragments.followOn
      datagram := ⟨_, fragments.whole ▸ datagram⟩ }

theorem replyFrames_long (long : longestReply < payload.length) :
    mapping.replyFrames flow payload = .error (.refused .udpTooLarge) := by
  have limit : longestReply = 65527 := rfl
  have header : UdpHeader.size = 8 := rfl
  have large : 65535 < UdpHeader.size + payload.length := by omega
  unfold replyFrames
  rw [udpDatagram_error flow.outside.address flow.guest.address
    (.between flow.outside.port flow.guest.port) large]

theorem replyFrames_isOk_iff :
    (∃ frames, mapping.replyFrames flow payload = .ok frames) ↔ payload.length ≤ longestReply := by
  constructor
  · rintro ⟨frames, built⟩
    refine Nat.le_of_not_lt fun long => ?_
    rw [mapping.replyFrames_long flow long] at built
    cases built
  · intro fits
    obtain ⟨frames, _, built, _⟩ := mapping.replyFrames_short flow fits
    exact ⟨frames, built⟩

theorem answers_short (fits : payload.length ≤ longestReply) :
    ∃ deliveries, (mapping.answers flow payload).map Delivery.read = deliveries.map some ∧
      IsReply mapping flow payload deliveries := by
  obtain ⟨frames, deliveries, built, read, isReply⟩ := mapping.replyFrames_short flow fits
  refine ⟨deliveries, ?_, isReply⟩
  unfold answers
  rw [built]
  exact read

theorem answers_long (long : longestReply < payload.length) : mapping.answers flow payload = [] := by
  unfold answers
  rw [mapping.replyFrames_long flow long]

/-- Nothing is left for the guest just if the reply does not fit a datagram. -/
theorem answers_eq_nil_iff :
    mapping.answers flow payload = [] ↔ longestReply < payload.length := by
  refine ⟨fun none => Nat.lt_of_not_le fun fits => ?_, mapping.answers_long flow⟩
  obtain ⟨deliveries, read, isReply⟩ := mapping.answers_short flow fits
  rw [none, List.map_nil] at read
  exact isReply.nonempty (List.map_eq_nil_iff.mp read.symm)

end Mapping

end Masquerade
