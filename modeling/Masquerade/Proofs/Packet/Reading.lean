import Masquerade.Gateway.Request
import Masquerade.Packet.Assembly
import Masquerade.Proofs.Checksum

/-!
# Frames as their receivers read them

Whoever receives a frame finds both headers in it and the payload between the two
lengths of the packet, if the header carries its checksum.  Segments and datagrams
are read on from there.  What the gateway assembles is read back as it was meant.
-/

set_option autoImplicit false

namespace Masquerade.Packet

/-! ## Packets -/

structure Delivery where
  ethernet : EthernetHeader
  ip : Ipv4Header
  payload : Bytes
  deriving DecidableEq, Repr

def Delivery.read (frame : Bytes) : Option Delivery :=
  match EthernetHeader.decode frame with
  | .error _ => none
  | .ok (ethernet, start) =>
    if ethernet.etherType ≠ EthernetHeader.ipv4 then none
    else
      match Ipv4Header.decode (frame.drop start) with
      | .error _ => none
      | .ok (ip, length) =>
        if Checksum.verifies (frame.drop start) length then
          some ⟨ethernet, ip, ((frame.drop start).take ip.totalLength.toNat).drop length⟩
        else none

/-- A packet is delivered just if both headers are read and its checksum verifies. -/
theorem Delivery.read_eq_some_iff {frame : Bytes} {delivery : Delivery} :
    Delivery.read frame = some delivery ↔
      ∃ start length, EthernetHeader.decode frame = .ok (delivery.ethernet, start) ∧
        delivery.ethernet.etherType = EthernetHeader.ipv4 ∧
        Ipv4Header.decode (frame.drop start) = .ok (delivery.ip, length) ∧
        Checksum.verifies (frame.drop start) length = true ∧
        delivery.payload =
          ((frame.drop start).take delivery.ip.totalLength.toNat).drop length := by
  simp only [Delivery.read]
  constructor
  · intro read
    split at read
    · cases read
    · rename_i ethernet start decoded
      split at read
      · cases read
      · rename_i isIpv4
        rw [ne_eq, Decidable.not_not] at isIpv4
        split at read
        · cases read
        · rename_i ip length parsed
          split at read
          · rename_i verified
            cases read
            exact ⟨start, length, decoded, isIpv4, parsed, verified, rfl⟩
          · cases read
  · rintro ⟨start, length, decoded, isIpv4, parsed, verified, payload⟩
    obtain ⟨ethernet, ip, inside⟩ := delivery
    dsimp only at decoded isIpv4 parsed payload
    subst payload
    simp only [decoded, isIpv4, ne_eq, not_true_eq_false, if_false, parsed, verified, if_true]

/-- The packet in a frame, whatever type the frame says that it has. -/
def Delivery.unpack (frame : Bytes) : Option Delivery :=
  match EthernetHeader.decode frame with
  | .error _ => none
  | .ok (ethernet, start) =>
    match Ipv4Header.decode (frame.drop start) with
    | .error _ => none
    | .ok (ip, length) =>
      if Checksum.verifies (frame.drop start) length then
        some ⟨ethernet, ip, ((frame.drop start).take ip.totalLength.toNat).drop length⟩
      else none

theorem Delivery.read_of_unpack {frame : Bytes} {delivery : Delivery}
    (unpacked : unpack frame = some delivery)
    (carries : delivery.ethernet.etherType = EthernetHeader.ipv4) :
    read frame = some delivery := by
  unfold unpack at unpacked
  unfold read
  split at unpacked
  · cases unpacked
  · split at unpacked
    · cases unpacked
    · split at unpacked
      · rename_i verified
        cases unpacked
        dsimp only at carries
        simp only [carries, ne_eq, not_true_eq_false, if_false, verified, if_true]
      · cases unpacked

theorem Delivery.map_read_of_unpack {frames : List Bytes} {deliveries : List Delivery}
    (unpacked : frames.map unpack = deliveries.map some)
    (carry : ∀ delivery ∈ deliveries, delivery.ethernet.etherType = EthernetHeader.ipv4) :
    frames.map read = deliveries.map some := by
  induction deliveries generalizing frames with
  | nil => rw [List.map_eq_nil_iff.mp unpacked, List.map_nil, List.map_nil]
  | cons delivery others ih =>
      obtain ⟨frame, rest, rfl, first, later⟩ := List.map_eq_cons_iff.mp unpacked
      obtain ⟨carries, carry⟩ := List.forall_mem_cons.mp carry
      rw [List.map_cons, List.map_cons, read_of_unpack first carries, ih later carry]

/-! ### The room that a payload has -/

theorem Reader.exists_of_bind {α β : Type} {first : Reader α} {next : α → Reader β}
    {bytes : Bytes} {result : β × Bytes} (run : (first >>= next) bytes = .ok result) :
    ∃ value rest, first bytes = .ok (value, rest) ∧ next value rest = .ok result := by
  cases ran : first bytes with
  | error fault =>
      rw [bind_of_error next ran] at run
      cases run
  | ok found =>
      obtain ⟨value, rest⟩ := found
      rw [bind_of_ok next ran] at run
      exact ⟨value, rest, rfl, run⟩

theorem Reader.of_demand {condition : Bool} {fault : Fault} {bytes : Bytes}
    {result : Unit × Bytes} (run : demand condition fault bytes = .ok result) :
    condition = true := by
  cases condition with
  | true => rfl
  | false => cases run

theorem EthernetHeader.start_of_decode {bytes : Bytes} {header : EthernetHeader} {start : Nat}
    (decoded : decode bytes = .ok (header, start)) : start = size := by
  rw [decode] at decoded
  split at decoded
  · cases decoded
  · cases decoded
    rfl

theorem Ipv4Header.size_le_of_decode {bytes : Bytes} {header : Ipv4Header} {length : Nat}
    (parsed : decode bytes = .ok (header, length)) : size ≤ length := by
  simp only [decode] at parsed
  split at parsed
  · cases parsed
  · rename_i found run
    split at parsed
    · cases parsed
    · split at parsed
      · cases parsed
      · cases parsed
        rw [reader] at run
        obtain ⟨first, _, _, run⟩ := Reader.exists_of_bind run
        obtain ⟨_, _, _, run⟩ := Reader.exists_of_bind run
        obtain ⟨_, _, demanded, run⟩ := Reader.exists_of_bind run
        have enough := of_decide_eq_true (Reader.of_demand demanded)
        -- The nine fields behind the size do not matter to it.
        iterate 9 obtain ⟨_, _, _, run⟩ := Reader.exists_of_bind run
        cases run
        exact enough

theorem Delivery.length_payload_le {frame : Bytes} {delivery : Delivery}
    (read : Delivery.read frame = some delivery) :
    delivery.payload.length ≤ frame.length - EthernetHeader.size - Ipv4Header.size := by
  obtain ⟨start, length, decoded, _, parsed, _, payload⟩ := Delivery.read_eq_some_iff.mp read
  have ethernet := EthernetHeader.start_of_decode decoded
  have room := Ipv4Header.size_le_of_decode parsed
  rw [payload, List.length_drop, List.length_take, List.length_drop]
  omega

def Ipv4Header.sized (header : Ipv4Header) (payload : Bytes) (sum : UInt16) : Ipv4Header :=
  { header with totalLength := UInt16.ofNat (Ipv4Header.size + payload.length), checksum := sum }

section Sized

variable (header : Ipv4Header) (payload : Bytes) (sum : UInt16)

@[simp] theorem Ipv4Header.sized_source : (header.sized payload sum).source = header.source := rfl

@[simp] theorem Ipv4Header.sized_destination :
    (header.sized payload sum).destination = header.destination := rfl

@[simp] theorem Ipv4Header.sized_protocol :
    (header.sized payload sum).protocol = header.protocol := rfl

@[simp] theorem Ipv4Header.sized_flagsFragment :
    (header.sized payload sum).flagsFragment = header.flagsFragment := rfl

end Sized

theorem Ipv4Header.isFragment_of_zero {header : Ipv4Header} (unmarked : header.flagsFragment = 0) :
    header.isFragment = false := by
  simp [isFragment, moreFragments, fragmentOffset, unmarked]

theorem Ipv4Header.put_checksum (header : Ipv4Header) (payload : Bytes) (sum : UInt16) :
    Checksum.put (header.sized payload 0).encode Ipv4Header.checksumOffset sum =
      (header.sized payload sum).encode := rfl

theorem ipv4Packet_ok (header : Ipv4Header) {payload : Bytes}
    (fits : Ipv4Header.size + payload.length ≤ 65535) :
    ∃ sum, ipv4Packet header payload = .ok ((header.sized payload sum).encode ++ payload) ∧
      Checksum.verifies ((header.sized payload sum).encode ++ payload) Ipv4Header.size = true := by
  have room : Ipv4Header.checksumOffset + 2 ≤ (header.sized payload 0).encode.length := by
    rw [Ipv4Header.length_encode]
    decide
  obtain ⟨sum, stored, verified⟩ := Checksum.store_verifies (by decide) room
  rw [Ipv4Header.put_checksum, Ipv4Header.length_encode] at stored verified
  refine ⟨sum, ?_, ?_⟩
  · unfold ipv4Packet
    dsimp only
    rw [if_neg (Nat.not_lt.mpr fits)]
    exact congrArg (fun packet => Except.ok (packet ++ payload)) stored
  · have front : ((header.sized payload sum).encode ++ payload).take Ipv4Header.size =
        (header.sized payload sum).encode := List.take_left' (Ipv4Header.length_encode _)
    have whole : (header.sized payload sum).encode.take Ipv4Header.size =
        (header.sized payload sum).encode := List.take_of_length_le (Nat.le_of_eq (by simp))
    simp only [Checksum.verifies, Bool.and_eq_true, decide_eq_true_eq, whole] at verified
    simp only [Checksum.verifies, front, verified.2, Bool.and_true, decide_eq_true_eq]
    simp

theorem Ipv4Header.decode_encode {header : Ipv4Header} {payload : Bytes}
    (length : header.totalLength.toNat = Ipv4Header.size + payload.length) :
    Ipv4Header.decode (header.encode ++ payload) = .ok (header, Ipv4Header.size) := by
  unfold decode
  rw [reader_encode]
  simp [length, Nat.not_lt.mpr]

theorem ipv4Packet_error (header : Ipv4Header) {payload : Bytes}
    (long : 65535 < Ipv4Header.size + payload.length) :
    ipv4Packet header payload = .error (.refused .ipv4TooLarge) := by
  unfold ipv4Packet
  exact if_pos long

theorem ipv4Frame_error (ethernet : EthernetHeader) (header : Ipv4Header) {payload : Bytes}
    (long : 65535 < Ipv4Header.size + payload.length) :
    ipv4Frame ethernet header payload = .error (.refused .ipv4TooLarge) := by
  unfold ipv4Frame
  rw [ipv4Packet_error header long]

theorem unpack_ipv4Frame (ethernet : EthernetHeader) (header : Ipv4Header) {payload : Bytes}
    (fits : Ipv4Header.size + payload.length ≤ 65535) :
    ∃ frame sum, ipv4Frame ethernet header payload = .ok frame ∧
      Delivery.unpack frame = some ⟨ethernet, header.sized payload sum, payload⟩ := by
  obtain ⟨sum, assembled, verified⟩ := ipv4Packet_ok header fits
  refine ⟨ethernet.encode ++ ((header.sized payload sum).encode ++ payload), sum, ?_, ?_⟩
  · unfold ipv4Frame
    rw [assembled]
    rfl
  · have total : (header.sized payload sum).totalLength.toNat =
        Ipv4Header.size + payload.length := by
      rw [Ipv4Header.sized, UInt16.toNat_ofNat']
      omega
    have decoded : EthernetHeader.decode
        (ethernet.encode ++ ((header.sized payload sum).encode ++ payload)) =
          .ok (ethernet, EthernetHeader.size) := by
      rw [EthernetHeader.decode, EthernetHeader.reader_encode]
    have packet : (ethernet.encode ++ ((header.sized payload sum).encode ++ payload)).drop
        EthernetHeader.size = (header.sized payload sum).encode ++ payload := rfl
    have inside : (((header.sized payload sum).encode ++ payload).take
        (Ipv4Header.size + payload.length)).drop Ipv4Header.size = payload := by
      rw [List.take_of_length_le (by simp)]
      rfl
    unfold Delivery.unpack
    simp only [decoded, packet, Ipv4Header.decode_encode total, verified, if_true, total, inside]

/-- The frame of a packet is read as it was meant. -/
theorem read_ipv4Frame {ethernet : EthernetHeader} (header : Ipv4Header) {payload : Bytes}
    (carries : ethernet.etherType = EthernetHeader.ipv4)
    (fits : Ipv4Header.size + payload.length ≤ 65535) :
    ∃ frame sum, ipv4Frame ethernet header payload = .ok frame ∧
      Delivery.read frame = some ⟨ethernet, header.sized payload sum, payload⟩ := by
  obtain ⟨frame, sum, framed, unpacked⟩ := unpack_ipv4Frame ethernet header fits
  exact ⟨frame, sum, framed, Delivery.read_of_unpack unpacked carries⟩

/-! ## Segments -/

/-- The segment in a frame, and the flow of which its sender is the guest. -/
def segmentIn (frame : Bytes) : Option (Flow × Segment) :=
  match Delivery.read frame with
  | none => none
  | some delivery =>
    if delivery.ip.protocol ≠ Transport.tcp.protocol then none
    else
      match Request.ofSegment delivery.ethernet.source delivery.ip delivery.payload with
      | some (.segment _ flow segment) => some (flow, segment)
      | _ => none

theorem segmentIn_of_read {frame bytes : Bytes} {ethernet : EthernetHeader} {ip : Ipv4Header}
    {guest : Mac} {flow : Flow} {segment : Segment}
    (read : Delivery.read frame = some ⟨ethernet, ip, bytes⟩)
    (protocol : ip.protocol = Transport.tcp.protocol)
    (found : Request.ofSegment ethernet.source ip bytes = some (.segment guest flow segment)) :
    segmentIn frame = some (flow, segment) := by
  unfold segmentIn
  rw [read]
  simp only [protocol, ne_eq, not_true_eq_false, if_false, found]

def TcpHeader.sized (header : TcpHeader) (options : Bytes) (sum : UInt16) : TcpHeader :=
  { header with headerLength := TcpHeader.size + options.length, checksum := sum }

section Sized

variable (header : TcpHeader) (options : Bytes) (sum : UInt16)

@[simp] theorem TcpHeader.sized_sourcePort :
    (header.sized options sum).sourcePort = header.sourcePort := rfl

@[simp] theorem TcpHeader.sized_destinationPort :
    (header.sized options sum).destinationPort = header.destinationPort := rfl

@[simp] theorem TcpHeader.sized_headerLength :
    (header.sized options sum).headerLength = TcpHeader.size + options.length := rfl

end Sized

theorem TcpHeader.put_checksum (header : TcpHeader) (options payload : Bytes) (sum : UInt16) :
    Checksum.put ((header.sized options 0).encode ++ options ++ payload)
        TcpHeader.checksumOffset sum =
      (header.sized options sum).encode ++ options ++ payload := by
  have room : TcpHeader.checksumOffset + 2 ≤ (header.sized options 0).encode.length := by
    rw [TcpHeader.length_encode]
    decide
  rw [List.append_assoc, Checksum.put_append room, List.append_assoc]
  rfl

theorem TcpHeader.decode_encode {header : TcpHeader} {options payload : Bytes}
    (length : header.headerLength = TcpHeader.size + options.length)
    (whole : options.length % 4 = 0) (most : options.length ≤ 40) :
    TcpHeader.decode (header.encode ++ options ++ payload) = .ok (header, header.headerLength) := by
  have minimum : TcpHeader.size = 20 := rfl
  unfold decode
  rw [List.append_assoc, reader_encode header _ (by omega) (by omega) (by omega)]
  simp [length]

theorem tcpSegment_ok (source destination : Ipv4Address) (header : TcpHeader)
    {options : Bytes} (payload : Bytes) (whole : options.length % 4 = 0)
    (most : options.length ≤ 40) :
    ∃ sum, tcpSegment source destination header options payload =
        .ok ((header.sized options sum).encode ++ options ++ payload) ∧
      Checksum.verifiesTransport .tcp source destination
        ((header.sized options sum).encode ++ options ++ payload)
        ((header.sized options sum).encode ++ options ++ payload).length = true := by
  have length : ∀ sum, ((header.sized options sum).encode ++ options ++ payload).length =
      TcpHeader.size + options.length + payload.length := by
    intro sum
    rw [List.length_append, List.length_append, TcpHeader.length_encode]
  have room : TcpHeader.checksumOffset + 2 ≤
      ((header.sized options 0).encode ++ options ++ payload).length := by
    have minimum : TcpHeader.checksumOffset + 2 ≤ TcpHeader.size := by decide
    rw [length]
    omega
  obtain ⟨sum, stored, verified⟩ :=
    Checksum.storeTransport_verifies .tcp source destination (by decide) room
  rw [TcpHeader.put_checksum] at stored verified
  refine ⟨Checksum.stored .tcp sum, ?_, ?_⟩
  · unfold tcpSegment
    rw [if_neg (by omega)]
    exact congrArg Except.ok stored
  · rw [length] at verified ⊢
    exact verified

theorem ofSegment_encode (guest : Mac) {ip : Ipv4Header} {source destination : Ipv4Address}
    {header : TcpHeader} {options payload : Bytes} (sender : ip.source = source)
    (receiver : ip.destination = destination)
    (length : header.headerLength = TcpHeader.size + options.length)
    (whole : options.length % 4 = 0) (most : options.length ≤ 40) (unbroken : ip.isFragment = false)
    (verified : Checksum.verifiesTransport .tcp source destination
      (header.encode ++ options ++ payload)
      (header.encode ++ options ++ payload).length = true) :
    Request.ofSegment guest ip (header.encode ++ options ++ payload) =
      some (.segment guest
        ⟨⟨source, header.sourcePort⟩, ⟨destination, header.destinationPort⟩⟩
        ⟨header, options, payload⟩) := by
  subst sender receiver
  have front : (header.encode ++ options).length = header.headerLength := by
    rw [List.length_append, TcpHeader.length_encode, length]
  have taken : (header.encode ++ options ++ payload).take header.headerLength =
      header.encode ++ options := List.take_left' front
  have dropped : (header.encode ++ options ++ payload).drop header.headerLength = payload :=
    List.drop_left' front
  have optionsLeft : (header.encode ++ options).drop TcpHeader.size = options :=
    List.drop_left' (TcpHeader.length_encode header)
  unfold Request.ofSegment
  rw [TcpHeader.decode_encode length whole most]
  simp only [unbroken, Bool.false_eq_true, if_false, verified, Bool.not_true, taken, dropped,
    optionsLeft]

/-- The frame of a segment is read as it was meant, with nothing added but lengths and
checksums. -/
theorem segmentIn_frame (ethernet : EthernetHeader) (ip : Ipv4Header) (header : TcpHeader)
    (options : Bytes) {payload : Bytes} (carries : ethernet.etherType = EthernetHeader.ipv4)
    (protocol : ip.protocol = Transport.tcp.protocol) (unbroken : ip.flagsFragment = 0)
    (whole : options.length % 4 = 0) (most : options.length ≤ 40)
    (fits : payload.length ≤ 65000) :
    ∃ bytes frame sum, tcpSegment ip.source ip.destination header options payload = .ok bytes ∧
      ipv4Frame ethernet ip bytes = .ok frame ∧
      segmentIn frame = some
        (⟨⟨ip.source, header.sourcePort⟩, ⟨ip.destination, header.destinationPort⟩⟩,
          ⟨header.sized options sum, options, payload⟩) := by
  obtain ⟨sum, assembled, verified⟩ :=
    tcpSegment_ok ip.source ip.destination header payload whole most
  have small : Ipv4Header.size + ((header.sized options sum).encode ++ options ++ payload).length ≤
      65535 := by
    have minimum : TcpHeader.size = 20 ∧ Ipv4Header.size = 20 := ⟨rfl, rfl⟩
    rw [List.length_append, List.length_append, TcpHeader.length_encode]
    omega
  obtain ⟨frame, packetSum, framed, read⟩ := read_ipv4Frame ip carries small
  refine ⟨_, frame, sum, assembled, framed, ?_⟩
  have noFragment : (ip.sized ((header.sized options sum).encode ++ options ++ payload)
      packetSum).isFragment = false := Ipv4Header.isFragment_of_zero unbroken
  have found := ofSegment_encode ethernet.source (Ipv4Header.sized_source ..)
    (Ipv4Header.sized_destination ..) (TcpHeader.sized_headerLength ..) whole most noFragment verified
  rw [TcpHeader.sized_sourcePort, TcpHeader.sized_destinationPort] at found
  exact segmentIn_of_read read ((Ipv4Header.sized_protocol ..).trans protocol) found

/-! ## Datagrams -/

def UdpHeader.sized (header : UdpHeader) (payload : Bytes) (sum : UInt16) : UdpHeader :=
  { header with length := UInt16.ofNat (UdpHeader.size + payload.length), checksum := sum }

section Sized

variable (header : UdpHeader) (payload : Bytes) (sum : UInt16)

theorem UdpHeader.sized_length (fits : UdpHeader.size + payload.length ≤ 65535) :
    (header.sized payload sum).length.toNat = UdpHeader.size + payload.length := by
  rw [sized, UInt16.toNat_ofNat']
  omega

theorem UdpHeader.put_checksum :
    Checksum.put ((header.sized payload 0).encode ++ payload) UdpHeader.checksumOffset sum =
      (header.sized payload sum).encode ++ payload := by
  have room : UdpHeader.checksumOffset + 2 ≤ (header.sized payload 0).encode.length := by
    rw [UdpHeader.length_encode]
    decide
  rw [Checksum.put_append room]
  rfl

end Sized

theorem UdpHeader.decode_encode {header : UdpHeader} {payload : Bytes}
    (length : header.length.toNat = UdpHeader.size + payload.length) :
    UdpHeader.decode (header.encode ++ payload) = .ok (header, UdpHeader.size) := by
  unfold decode
  rw [reader_encode]
  simp [length]

/-- A datagram that fits carries a checksum, and never the one that stands for none. -/
theorem udpDatagram_ok (source destination : Ipv4Address) (header : UdpHeader) {payload : Bytes}
    (fits : UdpHeader.size + payload.length ≤ 65535) :
    ∃ sum, sum ≠ 0 ∧ udpDatagram source destination header payload =
        .ok ((header.sized payload sum).encode ++ payload) ∧
      Checksum.verifiesTransport .udp source destination
        ((header.sized payload sum).encode ++ payload)
        ((header.sized payload sum).encode ++ payload).length = true := by
  have length : ∀ sum, ((header.sized payload sum).encode ++ payload).length =
      UdpHeader.size + payload.length := by
    intro sum
    rw [List.length_append, UdpHeader.length_encode]
  have room : UdpHeader.checksumOffset + 2 ≤
      ((header.sized payload 0).encode ++ payload).length := by
    have minimum : UdpHeader.checksumOffset + 2 ≤ UdpHeader.size := by decide
    rw [length]
    omega
  obtain ⟨sum, stored, verified⟩ :=
    Checksum.storeTransport_verifies .udp source destination (by decide) room
  rw [UdpHeader.put_checksum, length] at stored verified
  refine ⟨Checksum.stored .udp sum, Checksum.stored_udp_ne_zero sum, ?_, ?_⟩
  · unfold udpDatagram
    dsimp only
    rw [if_neg (Nat.not_lt.mpr fits)]
    exact congrArg Except.ok stored
  · rw [length]
    exact verified

theorem udpDatagram_error (source destination : Ipv4Address) (header : UdpHeader) {payload : Bytes}
    (long : 65535 < UdpHeader.size + payload.length) :
    udpDatagram source destination header payload = .error (.refused .udpTooLarge) := by
  unfold udpDatagram
  exact if_pos long

end Masquerade.Packet
