import Masquerade.Proofs.Gateway.Fragments
import Masquerade.Proofs.Gateway.Leases

/-!
# Messages to the gateway

Of the messages to the gateway itself only intact echo requests are answered.  The answer
is the request with its first four bytes written anew; what follows them comes back as it
was, without the padding of the frame.
-/

set_option autoImplicit false

namespace Masquerade

open Packet

structure IsEchoRequest (message : Bytes) : Prop where
  atLeast : 4 ≤ message.length
  kind : message.head? = some 8
  intact : Checksum.verifies message message.length = true

/-- A guest sends the gateway a message in one piece, in a frame of a usable length. -/
structure BringsMessage (subnet : Subnet) (frame : Bytes) (delivery : Delivery) : Prop where
  atLeast : 34 ≤ frame.length
  atMost : frame.length ≤ 1522
  intact : Delivery.read frame = some delivery
  addressed : delivery.ethernet.destination = Settings.gatewayMac ∨
    delivery.ethernet.destination.isGroup = true
  toGateway : delivery.ip.destination = subnet.gateway
  protocol : delivery.ip.protocol = Ipv4Header.icmp
  unbroken : delivery.ip.isFragment = false

structure Echoes (subnet : Subnet) (request answer : Delivery) : Prop where
  ethernet : answer.ethernet =
    ⟨request.ethernet.source, Settings.gatewayMac, EthernetHeader.ipv4⟩
  source : answer.ip.source = subnet.gateway
  destination : answer.ip.destination = request.ip.source
  protocol : answer.ip.protocol = Ipv4Header.icmp
  identification : answer.ip.identification = request.ip.identification
  ttl : answer.ip.ttl = 2
  unbroken : answer.ip.isFragment = false
  length : answer.payload.length = request.payload.length
  kindAndCode : answer.payload.take 2 = [0, 0]
  intact : Checksum.verifies answer.payload answer.payload.length = true
  rest : answer.payload.drop 4 = request.payload.drop 4

/-! ## Requests -/

theorem decodes_echoRequest_iff (message : Bytes) :
    (∃ header length, IcmpHeader.decode message = .ok (header, length) ∧
        header.kind = IcmpHeader.echoRequest) ↔
      4 ≤ message.length ∧ message.head? = some 8 := by
  constructor
  · rintro ⟨header, length, decoded, kind⟩
    refine ⟨size_le_of_decode_message decoded, ?_⟩
    match message, decoded with
    | first :: _ :: _ :: _ :: _, decoded =>
        cases decoded
        exact congrArg some kind
  · rintro ⟨atLeast, kind⟩
    match message, atLeast, kind with
    | first :: second :: third :: fourth :: _, _, kind =>
        exact ⟨⟨first, second, Bytes.word16 third fourth⟩, IcmpHeader.size, rfl,
          Option.some.inj kind⟩

section Requests

variable {subnet : Subnet} {frame : Bytes} {delivery : Delivery}

theorem BringsMessage.reaches (brings : BringsMessage subnet frame delivery)
    (noGroup : subnet.gateway.isMulticast = false) : Reaches subnet frame delivery where
  intact := brings.intact
  addressed := brings.addressed
  noBroadcast := by rw [brings.toGateway, subnet.gateway_not_broadcast]
  noMulticast := by rw [brings.toGateway, noGroup]
  outward := Or.inl brings.toGateway

theorem BringsMessage.holds_iff (brings : BringsMessage subnet frame delivery) :
    HoldsEchoRequest subnet delivery ↔ IsEchoRequest delivery.payload := by
  constructor
  · intro holds
    obtain ⟨atLeast, kind⟩ := (decodes_echoRequest_iff _).mp holds.parses
    exact ⟨atLeast, kind, holds.intact⟩
  · intro request
    exact ⟨brings.protocol, brings.toGateway,
      (decodes_echoRequest_iff _).mpr ⟨request.atLeast, request.kind⟩, request.intact⟩

theorem BringsMessage.asks_iff (brings : BringsMessage subnet frame delivery)
    (noGroup : subnet.gateway.isMulticast = false) {request : Request} :
    Request.ofFrame subnet frame = some request ↔
      IsEchoRequest delivery.payload ∧ request = .echoOf delivery := by
  rw [ofFrame_of_read brings.intact, Request.ofDelivery, if_pos brings.protocol,
    ofMessage_eq_some_iff brings.protocol, brings.holds_iff]
  exact ⟨fun asked => asked.2, fun asked => ⟨brings.reaches noGroup, asked⟩⟩

end Requests

/-! ## Answers -/

theorem echoMessage_eq {message : Bytes} (atLeast : 4 ≤ message.length) :
    ∃ sum, Answer.echoMessage message = [0, 0] ++ Bytes.ofWord16 sum ++ message.drop 4 := by
  match message, atLeast with
  | _ :: _ :: _ :: _ :: rest, _ =>
      have room : IcmpHeader.checksumOffset + 2 ≤ ([0, 0, 0, 0] ++ rest : Bytes).length := by
        rw [List.length_append]
        exact Nat.le_add_right 4 rest.length
      obtain ⟨sum, stored, _⟩ := Checksum.store_verifies (by decide) room
      exact ⟨sum, stored⟩

theorem echo_echoes (subnet : Subnet) {request : Delivery} (atLeast : 4 ≤ request.payload.length)
    (fits : Ipv4Header.size + request.payload.length ≤ 65535) :
    ∃ frame answer, Answer.echo subnet request.ethernet.source request.ip request.payload =
        .ok frame ∧
      Delivery.read frame = some answer ∧ Echoes subnet request answer := by
  obtain ⟨length, verified⟩ := echoMessage_intact atLeast
  obtain ⟨sum, shape⟩ := echoMessage_eq atLeast
  have carries : (Answer.frameTo request.ethernet.source EthernetHeader.ipv4).etherType =
      EthernetHeader.ipv4 := rfl
  have room : Ipv4Header.size + (Answer.echoMessage request.payload).length ≤ 65535 := by
    rw [length]
    exact fits
  obtain ⟨frame, packetSum, built, read⟩ := read_ipv4Frame (.between subnet.gateway
    request.ip.source Ipv4Header.icmp request.ip.identification Answer.echoHops) carries room
  refine ⟨frame, _, built, read, ?_⟩
  exact
    { ethernet := rfl
      source := rfl
      destination := rfl
      protocol := rfl
      identification := rfl
      ttl := rfl
      unbroken := Ipv4Header.isFragment_of_zero rfl
      length
      kindAndCode := by rw [shape]; rfl
      intact := by rw [length]; exact verified
      rest := by rw [shape]; rfl }

/-! ## What becomes of messages -/

namespace World

variable {world : World} {frame : Bytes} {delivery : Delivery}

theorem transmit_echoRequest (sender : NicId)
    (noGroup : world.gateway.subnet.gateway.isMulticast = false)
    (brings : BringsMessage world.gateway.subnet frame delivery)
    (request : IsEchoRequest delivery.payload) :
    ∃ reply answer, Delivery.read reply = some answer ∧
      Echoes world.gateway.subnet delivery answer ∧
      PassesOn sender frame [(sender, reply)] world.gateway.streams world
        (world.transmit sender frame) := by
  have asked := (brings.asks_iff noGroup).mpr ⟨request, rfl⟩
  have short := Delivery.length_payload_le brings.intact
  have limits := frame_limits
  have atMost := brings.atMost
  obtain ⟨reply, answer, built, read, echoes⟩ :=
    echo_echoes world.gateway.subnet request.atLeast (by omega)
  have passes := (world.spread_passesOn sender brings.atLeast brings.atMost).post sender reply
  refine ⟨reply, answer, read, echoes, ?_⟩
  rw [transmit_of_asked (asked_eq_some_iff.mpr ⟨brings.atLeast, brings.atMost, asked⟩),
    Request.echoOf, serve, spread_subnet, built]
  exact passes

theorem transmit_otherMessage (sender : NicId)
    (noGroup : world.gateway.subnet.gateway.isMulticast = false)
    (brings : BringsMessage world.gateway.subnet frame delivery)
    (other : ¬ IsEchoRequest delivery.payload) :
    PassesOn sender frame [] world.gateway.streams world (world.transmit sender frame) := by
  have passes := world.spread_passesOn sender brings.atLeast brings.atMost
  cases asked : Request.ofFrame world.gateway.subnet frame with
  | none =>
      have usable : ¬ (frame.length < Request.shortestFrame ∨
          Request.longestFrame < frame.length) := by
        rw [not_or, Nat.not_lt, Nat.not_lt]
        exact ⟨brings.atLeast, brings.atMost⟩
      rw [transmit, if_neg usable, asked]
      exact passes
  | some request => exact absurd ((brings.asks_iff noGroup).mp asked).1 other

end World

end Masquerade
