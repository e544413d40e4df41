import Masquerade.Proofs.Packet.Pieces
import Masquerade.Settings

/-!
# Well-formed frames

A frame that is sent with the headers of the gateway is accepted by its own decoders:
its lengths agree, its checksums verify, and a segment in it is read back as it was
built.  Whatever is assembled from a payload that fits is such a frame.
-/

set_option autoImplicit false

namespace Masquerade.Packet

structure IsSegmentOf (source destination : Ipv4Address) (header : TcpHeader)
    (options payload bytes : Bytes) : Prop where
  built : tcpSegment source destination header options payload = .ok bytes
  verifies : Checksum.verifiesTransport .tcp source destination bytes bytes.length = true
  decodes : ∃ sum, TcpHeader.decode bytes =
    .ok (header.sized options sum, TcpHeader.size + options.length)
  optionsLeft : (bytes.take (TcpHeader.size + options.length)).drop TcpHeader.size = options
  payloadLeft : bytes.drop (TcpHeader.size + options.length) = payload

structure IsIntact (protocol : UInt8) (source destination : Ipv4Address) (bytes : Bytes) :
    Prop where
  segment : protocol = Transport.tcp.protocol →
    ∃ header options payload, IsSegmentOf source destination header options payload bytes
  message : protocol = Ipv4Header.icmp → Checksum.verifies bytes bytes.length = true

structure IsPacket (ip : Ipv4Header) (packet : Bytes) : Prop where
  decodes : Ipv4Header.decode packet = .ok (ip, Ipv4Header.size)
  total : ip.totalLength.toNat = packet.length
  verifies : Checksum.verifies packet Ipv4Header.size = true
  intact : IsIntact ip.protocol ip.source ip.destination (packet.drop Ipv4Header.size)

structure WellFormed (frame : Bytes) : Prop where
  atLeast : Request.shortestFrame ≤ frame.length
  atMost : frame.length ≤ Request.longestFrame
  header : ∃ ethernet, EthernetHeader.decode frame = .ok (ethernet, EthernetHeader.size) ∧
    ethernet.source = Settings.gatewayMac ∧
    (ethernet.etherType = EthernetHeader.ipv4 →
      ∃ ip, IsPacket ip (frame.drop EthernetHeader.size))

def longestPayload : Nat := 1488

theorem frame_limits :
    EthernetHeader.size = 14 ∧ Ipv4Header.size = 20 ∧ longestPayload = 1488 ∧
      Request.shortestFrame = 34 ∧ Request.longestFrame = 1522 :=
  ⟨rfl, rfl, rfl, rfl, rfl⟩

theorem decode_ethernetFrame (ethernet : EthernetHeader) (payload : Bytes) :
    EthernetHeader.decode (ethernetFrame ethernet payload) =
      .ok (ethernet, EthernetHeader.size) := by
  rw [EthernetHeader.decode, ethernetFrame, EthernetHeader.reader_encode]

theorem drop_ethernetFrame (ethernet : EthernetHeader) (payload : Bytes) :
    (ethernetFrame ethernet payload).drop EthernetHeader.size = payload :=
  List.drop_left' (EthernetHeader.length_encode ethernet)

theorem length_ethernetFrame (ethernet : EthernetHeader) (payload : Bytes) :
    (ethernetFrame ethernet payload).length = EthernetHeader.size + payload.length := by
  rw [ethernetFrame, List.length_append, EthernetHeader.length_encode]

/-! ## Frames without a packet -/

theorem ethernetFrame_wellFormed {ethernet : EthernetHeader} {payload : Bytes}
    (source : ethernet.source = Settings.gatewayMac)
    (other : ethernet.etherType ≠ EthernetHeader.ipv4) (atLeast : Ipv4Header.size ≤ payload.length)
    (atMost : payload.length ≤ longestPayload) : WellFormed (ethernetFrame ethernet payload) := by
  have limits := frame_limits
  refine ⟨?_, ?_, ethernet, decode_ethernetFrame .., source, fun same => absurd same other⟩
  · rw [length_ethernetFrame]
    omega
  · rw [length_ethernetFrame]
    omega

/-! ## Packets -/

theorem ipv4Packet_isPacket {ip : Ipv4Header} {payload packet : Bytes}
    (built : ipv4Packet ip payload = .ok packet)
    (fits : Ipv4Header.size + payload.length ≤ 65535)
    (intact : IsIntact ip.protocol ip.source ip.destination payload) :
    (∃ header, IsPacket header packet) ∧ packet.length = Ipv4Header.size + payload.length := by
  obtain ⟨sum, assembled, verified⟩ := ipv4Packet_ok ip fits
  rw [built] at assembled
  cases assembled
  have total : (ip.sized payload sum).totalLength.toNat = Ipv4Header.size + payload.length := by
    rw [Ipv4Header.sized, UInt16.toNat_ofNat']
    omega
  have length : ((ip.sized payload sum).encode ++ payload).length =
      Ipv4Header.size + payload.length := by
    rw [List.length_append, Ipv4Header.length_encode]
  have inside : ((ip.sized payload sum).encode ++ payload).drop Ipv4Header.size = payload :=
    List.drop_left' (Ipv4Header.length_encode _)
  refine ⟨⟨ip.sized payload sum, Ipv4Header.decode_encode total, total.trans length.symm,
    verified, ?_⟩, length⟩
  rw [inside]
  exact intact

theorem ipv4Frame_wellFormed {ethernet : EthernetHeader} {ip : Ipv4Header} {payload frame : Bytes}
    (built : ipv4Frame ethernet ip payload = .ok frame)
    (source : ethernet.source = Settings.gatewayMac) (fits : payload.length ≤ longestPayload)
    (intact : IsIntact ip.protocol ip.source ip.destination payload) : WellFormed frame := by
  have limits := frame_limits
  rw [ipv4Frame] at built
  split at built
  · cases built
  · rename_i packet assembled
    cases built
    obtain ⟨isPacket, length⟩ := ipv4Packet_isPacket assembled (by omega) intact
    refine ⟨?_, ?_, ethernet, decode_ethernetFrame .., source, fun _ => ?_⟩
    · rw [length_ethernetFrame]
      omega
    · rw [length_ethernetFrame]
      omega
    · rw [drop_ethernetFrame]
      exact isPacket

/-! ## Segments -/

theorem isSegmentOf_of_built {source destination : Ipv4Address} {header : TcpHeader}
    {options payload bytes : Bytes}
    (built : tcpSegment source destination header options payload = .ok bytes) :
    IsSegmentOf source destination header options payload bytes ∧
      bytes.length ≤ 60 + payload.length := by
  have padded : options.length % 4 = 0 ∧ options.length ≤ 40 := by
    by_cases refused : options.length % 4 ≠ 0 ∨ 40 < options.length
    · rw [tcpSegment, if_pos refused] at built
      cases built
    · omega
  have minimum : TcpHeader.size = 20 := rfl
  obtain ⟨sum, assembled, verified⟩ :=
    tcpSegment_ok source destination header payload padded.1 padded.2
  have same := built
  rw [assembled] at same
  cases same
  have front : ((header.sized options sum).encode ++ options).length =
      TcpHeader.size + options.length := by
    rw [List.length_append, TcpHeader.length_encode]
  have decoded : TcpHeader.decode ((header.sized options sum).encode ++ options ++ payload) =
      .ok (header.sized options sum, TcpHeader.size + options.length) :=
    TcpHeader.decode_encode (TcpHeader.sized_headerLength ..) padded.1 padded.2
  refine ⟨⟨built, verified, ⟨sum, decoded⟩, ?_, List.drop_left' front⟩, ?_⟩
  · rw [List.take_left' front]
    exact List.drop_left' (TcpHeader.length_encode _)
  · rw [List.length_append, front]
    omega

theorem segmentFrame_wellFormed {ethernet : EthernetHeader} {ip : Ipv4Header} {header : TcpHeader}
    {options payload bytes frame : Bytes}
    (built : ipv4Frame ethernet ip bytes = .ok frame)
    (assembled : tcpSegment ip.source ip.destination header options payload = .ok bytes)
    (source : ethernet.source = Settings.gatewayMac)
    (protocol : ip.protocol = Transport.tcp.protocol)
    (fits : 60 + payload.length ≤ longestPayload) : WellFormed frame := by
  obtain ⟨segment, length⟩ := isSegmentOf_of_built assembled
  refine ipv4Frame_wellFormed built source (Nat.le_trans length fits)
    ⟨fun _ => ⟨header, options, payload, segment⟩, fun isMessage => ?_⟩
  rw [protocol] at isMessage
  cases isMessage

/-! ## Fragments -/

theorem pieceFrames_built {ethernet : EthernetHeader} {ip : Ipv4Header} {size count index : Nat}
    {pieces frames : List Bytes}
    (built : pieceFrames ethernet ip size count index pieces = .ok frames) :
    ∀ frame ∈ frames, ∃ flagsFragment, ∃ piece ∈ pieces,
      ipv4Frame ethernet { ip with flagsFragment } piece = .ok frame := by
  induction pieces generalizing index frames with
  | nil =>
      rw [pieceFrames] at built
      cases built
      exact fun frame member => absurd member List.not_mem_nil
  | cons piece rest ih =>
      simp only [pieceFrames] at built
      split at built
      · cases built
      · rename_i first assembled
        split at built
        · cases built
        · rename_i others later
          cases built
          refine List.forall_mem_cons.mpr ⟨⟨_, piece, List.mem_cons_self .., assembled⟩, ?_⟩
          intro frame member
          obtain ⟨flagsFragment, other, there, same⟩ := ih later frame member
          exact ⟨flagsFragment, other, List.mem_cons_of_mem _ there, same⟩

theorem fragment_wellFormed {ethernet : EthernetHeader} {ip : Ipv4Header} {payload : Bytes}
    {most : Nat} {frames : List Bytes} (built : fragment ethernet ip payload most = .ok frames)
    (source : ethernet.source = Settings.gatewayMac)
    (protocol : ip.protocol = Transport.udp.protocol)
    (limit : most ≤ longestPayload) : ∀ frame ∈ frames, WellFormed frame := by
  have intact : ∀ piece, IsIntact ip.protocol ip.source ip.destination piece := by
    rw [protocol]
    intro piece
    constructor
    · intro isSegment
      cases isSegment
    · intro isMessage
      cases isMessage
  rw [fragment] at built
  split at built
  · rename_i single
    split at built
    · cases built
    · rename_i frame assembled
      cases built
      rw [List.forall_mem_singleton]
      exact ipv4Frame_wellFormed assembled source (Nat.le_trans single limit) (intact payload)
  · dsimp only at built
    split at built
    · cases built
    · intro frame member
      obtain ⟨flagsFragment, piece, there, assembled⟩ := pieceFrames_built built frame member
      have short := length_le_of_mem_chunks there
      have less := Nat.div_mul_le_self most 8
      exact ipv4Frame_wellFormed assembled source (Nat.le_trans short (Nat.le_trans less limit))
        (intact piece)

end Masquerade.Packet
