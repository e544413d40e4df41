import Masquerade.Proofs.Packet.Reading

/-!
# What is asked for, exactly

A frame asks for a datagram or a segment to be carried on just if it passes every
check on the way there, and then for exactly what lies between the headers and the
lengths that they give.  Frames to other stations, packets to hosts within the subnet,
fragments and broken checksums ask for nothing.
-/

set_option autoImplicit false

namespace Masquerade

open Packet

/-! ## Packets that reach the gateway -/

/-- The frame brings an intact packet that is for the gateway to handle. -/
structure Reaches (subnet : Subnet) (frame : Bytes) (delivery : Delivery) : Prop where
  intact : Delivery.read frame = some delivery
  addressed : delivery.ethernet.destination = Settings.gatewayMac ∨
    delivery.ethernet.destination.isGroup = true
  noBroadcast : delivery.ip.destination.isBroadcast = false
  noMulticast : delivery.ip.destination.isMulticast = false
  outward : delivery.ip.destination = subnet.gateway ∨
    subnet.contains delivery.ip.destination = false

theorem isServed_iff (subnet : Subnet) (destination : Ipv4Address) :
    Request.isServed subnet destination = true ↔
      destination.isBroadcast = false ∧ destination.isMulticast = false ∧
        (destination = subnet.gateway ∨ subnet.contains destination = false) := by
  simp only [Request.isServed, Bool.and_eq_true, Bool.or_eq_true, Bool.not_eq_true', beq_iff_eq,
    and_assoc]

def Request.ofDelivery (subnet : Subnet) (delivery : Delivery) : Option Request :=
  if delivery.ip.protocol = Ipv4Header.icmp then
    ofMessage subnet delivery.ethernet.source delivery.ip delivery.payload
  else if delivery.ip.protocol = Transport.tcp.protocol then
    ofSegment delivery.ethernet.source delivery.ip delivery.payload
  else if delivery.ip.protocol = Transport.udp.protocol then
    ofDatagram delivery.ethernet.source delivery.ip delivery.payload
  else none

def Request.protocol? : Request → Option UInt8
  | .hardwareAddress _ _ => none
  | .ownAddress _ _ => none
  | .echo _ _ _ => some Ipv4Header.icmp
  | .datagram _ _ _ => some Transport.udp.protocol
  | .segment _ _ _ => some Transport.tcp.protocol

theorem ofPacket_eq_some_iff {subnet : Subnet} {ethernet : EthernetHeader} {packet : Bytes}
    {request : Request} :
    Request.ofPacket subnet ethernet.source packet = some request ↔
      ∃ ip length, Ipv4Header.decode packet = .ok (ip, length) ∧
        Checksum.verifies packet length = true ∧ Request.isServed subnet ip.destination = true ∧
        Request.ofDelivery subnet
          ⟨ethernet, ip, (packet.take ip.totalLength.toNat).drop length⟩ = some request := by
  simp only [Request.ofPacket, Request.openPacket]
  cases decoded : Ipv4Header.decode packet with
  | error fault => simp
  | ok found =>
      obtain ⟨ip, length⟩ := found
      dsimp only
      by_cases accepted : Checksum.verifies packet length = true ∧
          Request.isServed subnet ip.destination = true
      · rw [if_pos accepted]
        constructor
        · exact fun asked => ⟨ip, length, rfl, accepted.1, accepted.2, asked⟩
        · rintro ⟨_, _, same, _, _, asked⟩
          cases same
          exact asked
      · rw [if_neg accepted]
        constructor
        · intro none
          cases none
        · rintro ⟨_, _, same, verified, served, _⟩
          cases same
          exact absurd ⟨verified, served⟩ accepted

section Protocols

variable {subnet : Subnet} {guest : Mac} {ip : Ipv4Header} {bytes : Bytes} {request : Request}

theorem protocol?_of_ofArp (asked : Request.ofArp subnet guest bytes = some request) :
    request.protocol? = none := by
  simp only [Request.ofArp] at asked
  split at asked
  · cases asked
  · split at asked
    · cases asked
      rfl
    · cases asked

theorem protocol?_of_ofReverseArp (asked : Request.ofReverseArp guest bytes = some request) :
    request.protocol? = none := by
  simp only [Request.ofReverseArp] at asked
  split at asked
  · cases asked
  · split at asked
    · cases asked
      rfl
    · cases asked

theorem protocol?_of_ofMessage (asked : Request.ofMessage subnet guest ip bytes = some request) :
    request.protocol? = some Ipv4Header.icmp := by
  simp only [Request.ofMessage] at asked
  split at asked
  · cases asked
  · split at asked
    · cases asked
    · split at asked
      · cases asked
        rfl
      · cases asked

theorem protocol?_of_ofDatagram (asked : Request.ofDatagram guest ip bytes = some request) :
    request.protocol? = some Transport.udp.protocol := by
  simp only [Request.ofDatagram] at asked
  split at asked
  · cases asked
  · split at asked
    · cases asked
    · split at asked
      · cases asked
        rfl
      · cases asked

theorem protocol?_of_ofSegment (asked : Request.ofSegment guest ip bytes = some request) :
    request.protocol? = some Transport.tcp.protocol := by
  simp only [Request.ofSegment] at asked
  split at asked
  · cases asked
  · split at asked
    · cases asked
    · split at asked
      · cases asked
      · cases asked
        rfl

theorem protocol?_of_ofDelivery {delivery : Delivery}
    (asked : Request.ofDelivery subnet delivery = some request) :
    request.protocol? = some delivery.ip.protocol := by
  simp only [Request.ofDelivery] at asked
  split at asked
  · rename_i protocol
    rw [protocol, protocol?_of_ofMessage asked]
  · split at asked
    · rename_i protocol
      rw [protocol, protocol?_of_ofSegment asked]
    · split at asked
      · rename_i protocol
        rw [protocol, protocol?_of_ofDatagram asked]
      · cases asked

end Protocols

theorem openFrame_eq_some_iff {frame : Bytes} {ethernet : EthernetHeader} {packet : Bytes} :
    Request.openFrame frame = some (ethernet, packet) ↔
      ∃ start, EthernetHeader.decode frame = .ok (ethernet, start) ∧
        (ethernet.destination = Settings.gatewayMac ∨ ethernet.destination.isGroup = true) ∧
        packet = frame.drop start := by
  simp only [Request.openFrame]
  constructor
  · intro opened
    split at opened
    · cases opened
    · rename_i header start decoded
      split at opened
      · rename_i addressed
        cases opened
        exact ⟨start, decoded, addressed, rfl⟩
      · cases opened
  · rintro ⟨start, decoded, addressed, rfl⟩
    rw [decoded]
    exact if_pos addressed

theorem carried_of_ofFrame {subnet : Subnet} {frame : Bytes} {ethernet : EthernetHeader}
    {start : Nat} {request : Request}
    (decoded : EthernetHeader.decode frame = .ok (ethernet, start))
    (isIpv4 : ethernet.etherType = EthernetHeader.ipv4)
    (asked : Request.ofFrame subnet frame = some request) : request.protocol?.isSome = true := by
  rw [Request.ofFrame] at asked
  split at asked
  · cases asked
  · rename_i opened
    obtain ⟨_, found, _, rfl⟩ := openFrame_eq_some_iff.mp opened
    rw [decoded] at found
    cases found
    rw [if_pos isIpv4] at asked
    obtain ⟨_, _, _, _, _, asked⟩ := ofPacket_eq_some_iff.mp asked
    rw [protocol?_of_ofDelivery asked, Option.isSome_some]

/-- Echoes, datagrams and segments are asked for in packets that reach the gateway, and
in no other way. -/
theorem ofFrame_eq_some_iff {subnet : Subnet} {frame : Bytes} {request : Request}
    (carried : request.protocol?.isSome = true) :
    Request.ofFrame subnet frame = some request ↔
      ∃ delivery, Reaches subnet frame delivery ∧
        Request.ofDelivery subnet delivery = some request := by
  constructor
  · intro asked
    rw [Request.ofFrame] at asked
    split at asked
    · cases asked
    · rename_i ethernet packet opened
      obtain ⟨start, decoded, addressed, rfl⟩ := openFrame_eq_some_iff.mp opened
      split at asked
      · rename_i isIpv4
        obtain ⟨ip, length, parsed, verified, served, asked⟩ := ofPacket_eq_some_iff.mp asked
        obtain ⟨noBroadcast, noMulticast, outward⟩ := (isServed_iff ..).mp served
        refine ⟨_, ⟨Delivery.read_eq_some_iff.mpr ?_, addressed, noBroadcast, noMulticast,
          outward⟩, asked⟩
        exact ⟨start, length, decoded, isIpv4, parsed, verified, rfl⟩
      · split at asked
        · rw [protocol?_of_ofArp asked] at carried
          cases carried
        · split at asked
          · rw [protocol?_of_ofReverseArp asked] at carried
            cases carried
          · cases asked
  · rintro ⟨delivery, ⟨intact, addressed, noBroadcast, noMulticast, outward⟩, asked⟩
    obtain ⟨start, length, decoded, isIpv4, parsed, verified, payload⟩ :=
      Delivery.read_eq_some_iff.mp intact
    have served := (isServed_iff subnet delivery.ip.destination).mpr
      ⟨noBroadcast, noMulticast, outward⟩
    rw [Request.ofFrame, openFrame_eq_some_iff.mpr ⟨start, decoded, addressed, rfl⟩]
    dsimp only
    rw [if_pos isIpv4, ofPacket_eq_some_iff]
    refine ⟨delivery.ip, length, parsed, verified, served, ?_⟩
    rw [← payload]
    exact asked

/-- A frame with an intact packet asks for what the packet does, if it reaches the gateway. -/
theorem ofFrame_of_read {subnet : Subnet} {frame : Bytes} {delivery : Delivery} {request : Request}
    (intact : Delivery.read frame = some delivery) :
    Request.ofFrame subnet frame = some request ↔
      Reaches subnet frame delivery ∧ Request.ofDelivery subnet delivery = some request := by
  constructor
  · intro asked
    obtain ⟨_, _, decoded, isIpv4, _⟩ := Delivery.read_eq_some_iff.mp intact
    obtain ⟨found, reaches, asked⟩ :=
      (ofFrame_eq_some_iff (carried_of_ofFrame decoded isIpv4 asked)).mp asked
    have same := reaches.intact.symm.trans intact
    cases same
    exact ⟨reaches, asked⟩
  · rintro ⟨reaches, asked⟩
    refine (ofFrame_eq_some_iff ?_).mpr ⟨delivery, reaches, asked⟩
    rw [protocol?_of_ofDelivery asked, Option.isSome_some]

def Request.asked (subnet : Subnet) (frame : Bytes) : Option Request :=
  if frame.length < shortestFrame ∨ longestFrame < frame.length then none
  else ofFrame subnet frame

theorem asked_eq_some_iff {subnet : Subnet} {frame : Bytes} {request : Request} :
    Request.asked subnet frame = some request ↔ Request.shortestFrame ≤ frame.length ∧
      frame.length ≤ Request.longestFrame ∧ Request.ofFrame subnet frame = some request := by
  rw [Request.asked]
  split
  · simp only [reduceCtorEq, false_iff]
    omega
  · rename_i usable
    rw [not_or, Nat.not_lt, Nat.not_lt] at usable
    exact ⟨fun asked => ⟨usable.1, usable.2, asked⟩, fun asked => asked.2.2⟩

/-! ## Datagrams -/

/-- The packet is no fragment and holds a datagram whose length fits and whose checksum
is missing or right. -/
structure HoldsDatagram (delivery : Delivery) (header : UdpHeader) (flow : Flow)
    (payload : Bytes) : Prop where
  protocol : delivery.ip.protocol = Transport.udp.protocol
  unbroken : delivery.ip.isFragment = false
  parses : ∃ rest, UdpHeader.reader delivery.payload = .ok (header, rest)
  atLeast : UdpHeader.size ≤ header.length.toNat
  atMost : header.length.toNat ≤ delivery.payload.length
  intact : header.checksum = 0 ∨ Checksum.verifiesTransport .udp delivery.ip.source
    delivery.ip.destination (delivery.payload.take header.length.toNat) header.length.toNat = true
  flow : flow = ⟨⟨delivery.ip.source, header.sourcePort⟩,
    ⟨delivery.ip.destination, header.destinationPort⟩⟩
  payload : payload = (delivery.payload.take header.length.toNat).drop UdpHeader.size

def BringsDatagram (subnet : Subnet) (frame : Bytes) (guest : Mac) (flow : Flow)
    (payload : Bytes) : Prop :=
  ∃ delivery header, Reaches subnet frame delivery ∧ delivery.ethernet.source = guest ∧
    HoldsDatagram delivery header flow payload

theorem ofDatagram_eq_some_iff (delivery : Delivery) (guest : Mac) (flow : Flow)
    (payload : Bytes) (protocol : delivery.ip.protocol = Transport.udp.protocol) :
    Request.ofDatagram delivery.ethernet.source delivery.ip delivery.payload =
        some (.datagram guest flow payload) ↔
      delivery.ethernet.source = guest ∧ ∃ header, HoldsDatagram delivery header flow payload := by
  simp only [Request.ofDatagram, UdpHeader.decode]
  constructor
  · intro asked
    split at asked
    · cases asked
    · rename_i unbroken
      split at asked
      · cases asked
      · rename_i header length decoded
        split at decoded
        · cases decoded
        · rename_i parsed rest parses
          split at decoded
          · cases decoded
          · rename_i fits
            cases decoded
            rw [not_or, Nat.not_lt, Nat.not_lt] at fits
            split at asked
            · rename_i intact
              cases asked
              rw [List.length_take, Nat.min_eq_left fits.2] at intact
              exact ⟨rfl, header, protocol, Bool.eq_false_iff.mpr unbroken, ⟨rest, parses⟩, fits.1,
                fits.2, intact, rfl, rfl⟩
            · cases asked
  · rintro ⟨rfl, header, _, unbroken, ⟨rest, parses⟩, atLeast, atMost, intact, rfl, rfl⟩
    have fits : ¬ (header.length.toNat < UdpHeader.size ∨
        delivery.payload.length < header.length.toNat) := by
      rw [not_or, Nat.not_lt, Nat.not_lt]
      exact ⟨atLeast, atMost⟩
    have length : (delivery.payload.take header.length.toNat).length = header.length.toNat := by
      rw [List.length_take, Nat.min_eq_left atMost]
    simp only [unbroken, Bool.false_eq_true, if_false, parses, if_neg fits, length, if_pos intact]

theorem ofFrame_datagram_iff (subnet : Subnet) (frame : Bytes) (guest : Mac) (flow : Flow)
    (payload : Bytes) :
    Request.ofFrame subnet frame = some (.datagram guest flow payload) ↔
      BringsDatagram subnet frame guest flow payload := by
  have reads : ∀ delivery : Delivery, delivery.ip.protocol = Transport.udp.protocol →
      Request.ofDelivery subnet delivery =
        Request.ofDatagram delivery.ethernet.source delivery.ip delivery.payload := by
    intro delivery protocol
    rw [Request.ofDelivery, protocol, if_neg (by decide), if_neg (by decide), if_pos rfl]
  rw [ofFrame_eq_some_iff rfl]
  constructor
  · rintro ⟨delivery, reaches, asked⟩
    have protocol := (Option.some.inj (protocol?_of_ofDelivery asked)).symm
    rw [reads delivery protocol] at asked
    obtain ⟨source, header, holds⟩ := (ofDatagram_eq_some_iff _ _ _ _ protocol).mp asked
    exact ⟨delivery, header, reaches, source, holds⟩
  · rintro ⟨delivery, header, reaches, source, holds⟩
    refine ⟨delivery, reaches, ?_⟩
    rw [reads delivery holds.protocol]
    exact (ofDatagram_eq_some_iff _ _ _ _ holds.protocol).mpr ⟨source, header, holds⟩

/-! ## Segments -/

/-- The packet is no fragment and holds a segment whose checksum is right. -/
structure HoldsSegment (delivery : Delivery) (flow : Flow) (segment : Segment) : Prop where
  protocol : delivery.ip.protocol = Transport.tcp.protocol
  unbroken : delivery.ip.isFragment = false
  intact : Checksum.verifiesTransport .tcp delivery.ip.source delivery.ip.destination
    delivery.payload delivery.payload.length = true
  parses : ∃ length, TcpHeader.decode delivery.payload = .ok (segment.header, length) ∧
    segment.options = (delivery.payload.take length).drop TcpHeader.size ∧
    segment.payload = delivery.payload.drop length
  flow : flow = ⟨⟨delivery.ip.source, segment.header.sourcePort⟩,
    ⟨delivery.ip.destination, segment.header.destinationPort⟩⟩

def BringsSegment (subnet : Subnet) (frame : Bytes) (guest : Mac) (flow : Flow)
    (segment : Segment) : Prop :=
  ∃ delivery, Reaches subnet frame delivery ∧ delivery.ethernet.source = guest ∧
    HoldsSegment delivery flow segment

theorem ofSegment_eq_some_iff (delivery : Delivery) (guest : Mac) (flow : Flow)
    (segment : Segment) (protocol : delivery.ip.protocol = Transport.tcp.protocol) :
    Request.ofSegment delivery.ethernet.source delivery.ip delivery.payload =
        some (.segment guest flow segment) ↔
      delivery.ethernet.source = guest ∧ HoldsSegment delivery flow segment := by
  simp only [Request.ofSegment]
  constructor
  · intro asked
    split at asked
    · cases asked
    · rename_i unbroken
      split at asked
      · cases asked
      · rename_i intact
        split at asked
        · cases asked
        · rename_i header length parses
          cases asked
          rw [Bool.not_eq_true', Bool.not_eq_false] at intact
          exact ⟨rfl, protocol, Bool.eq_false_iff.mpr unbroken, intact,
            ⟨length, parses, rfl, rfl⟩, rfl⟩
  · rintro ⟨rfl, _, unbroken, intact, ⟨length, parses, options, payload⟩, rfl⟩
    obtain ⟨header, _, _⟩ := segment
    dsimp only at options payload
    subst options payload
    simp only [unbroken, Bool.false_eq_true, if_false, intact, Bool.not_true, parses]

theorem ofFrame_segment_iff (subnet : Subnet) (frame : Bytes) (guest : Mac) (flow : Flow)
    (segment : Segment) :
    Request.ofFrame subnet frame = some (.segment guest flow segment) ↔
      BringsSegment subnet frame guest flow segment := by
  have reads : ∀ delivery : Delivery, delivery.ip.protocol = Transport.tcp.protocol →
      Request.ofDelivery subnet delivery =
        Request.ofSegment delivery.ethernet.source delivery.ip delivery.payload := by
    intro delivery protocol
    rw [Request.ofDelivery, protocol, if_neg (by decide), if_pos rfl]
  rw [ofFrame_eq_some_iff rfl]
  constructor
  · rintro ⟨delivery, reaches, asked⟩
    have protocol := (Option.some.inj (protocol?_of_ofDelivery asked)).symm
    rw [reads delivery protocol] at asked
    obtain ⟨source, holds⟩ := (ofSegment_eq_some_iff _ _ _ _ protocol).mp asked
    exact ⟨delivery, reaches, source, holds⟩
  · rintro ⟨delivery, reaches, source, holds⟩
    refine ⟨delivery, reaches, ?_⟩
    rw [reads delivery holds.protocol]
    exact (ofSegment_eq_some_iff _ _ _ _ holds.protocol).mpr ⟨source, holds⟩

theorem Segment.opens_iff (segment : Segment) : segment.opens = true ↔
    segment.has .syn = true ∧ segment.has .ack = false ∧ segment.has .rst = false := by
  rw [Segment.opens, Bool.and_eq_true, Bool.and_eq_true, Bool.not_eq_true', Bool.not_eq_true',
    and_assoc]

/-- A guest sends a segment of a flow to the gateway, in a frame of a usable length. -/
structure Submits (subnet : Subnet) (frame : Bytes) (guest : Mac) (flow : Flow)
    (segment : Segment) : Prop where
  atLeast : Request.shortestFrame ≤ frame.length
  atMost : frame.length ≤ Request.longestFrame
  brings : BringsSegment subnet frame guest flow segment

theorem submits_iff {subnet : Subnet} {frame : Bytes} {guest : Mac} {flow : Flow}
    {segment : Segment} : Submits subnet frame guest flow segment ↔
      Request.asked subnet frame = some (.segment guest flow segment) := by
  rw [asked_eq_some_iff, ofFrame_segment_iff]
  constructor
  · exact fun submits => ⟨submits.atLeast, submits.atMost, submits.brings⟩
  · exact fun asked => ⟨asked.1, asked.2.1, asked.2.2⟩

def Request.submitted (subnet : Subnet) (frame : Bytes) : Option (Mac × Flow × Segment) :=
  match asked subnet frame with
  | some (.segment guest flow found) => some (guest, flow, found)
  | _ => none

theorem submits_of_submitted {subnet : Subnet} {frame : Bytes} {found : Mac × Flow × Segment}
    (submitted : Request.submitted subnet frame = some found) :
    Submits subnet frame found.1 found.2.1 found.2.2 := by
  rw [Request.submitted] at submitted
  split at submitted
  · rename_i asked
    cases submitted
    exact submits_iff.mpr asked
  · cases submitted

end Masquerade
