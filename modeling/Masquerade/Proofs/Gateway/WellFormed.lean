import Masquerade.Proofs.Gateway.Answers
import Masquerade.Proofs.Stream.Frames

/-!
# What the gateway makes is well formed

Answers and replies are well-formed frames from the gateway.  An echo is no longer than
its request, which was no longer than a frame may be.
-/

set_option autoImplicit false

namespace Masquerade

open Packet

/-! ## Echoes -/

theorem size_le_of_decode_message {message : Bytes} {header : IcmpHeader} {length : Nat}
    (decoded : IcmpHeader.decode message = .ok (header, length)) :
    IcmpHeader.size ≤ message.length := by
  match message, decoded with
  | _ :: _ :: _ :: _ :: rest, _ =>
      have size : IcmpHeader.size = 4 := rfl
      simp only [List.length_cons]
      omega

theorem echoMessage_intact {message : Bytes} (atLeast : IcmpHeader.size ≤ message.length) :
    (Answer.echoMessage message).length = message.length ∧
      Checksum.verifies (Answer.echoMessage message) message.length = true := by
  have size : IcmpHeader.size = 4 := rfl
  have offset : IcmpHeader.checksumOffset = 2 := rfl
  have length := Bytes.length_overwrite message (IcmpHeader.encode ⟨IcmpHeader.echoReply, 0, 0⟩) 0
    (by rw [IcmpHeader.length_encode]; omega)
  rw [Answer.echoMessage]
  generalize Bytes.overwrite message 0 (IcmpHeader.encode ⟨IcmpHeader.echoReply, 0, 0⟩) = blank
    at length ⊢
  have room : IcmpHeader.checksumOffset + 2 ≤ blank.length := by omega
  obtain ⟨sum, stored, verified⟩ := Checksum.store_verifies (by decide) room
  rw [stored, Checksum.put_length room]
  rw [length] at verified
  exact ⟨length, verified⟩

theorem message_fits {subnet : Subnet} {frame message : Bytes} {guest : Mac} {ip : Ipv4Header}
    (asked : Request.ofFrame subnet frame = some (.echo guest ip message)) :
    IcmpHeader.size ≤ message.length ∧
      message.length ≤ frame.length - EthernetHeader.size - Ipv4Header.size := by
  obtain ⟨delivery, reaches, asks⟩ := (ofFrame_eq_some_iff rfl).mp asked
  have protocol := Option.some.inj (protocol?_of_ofDelivery asks)
  rw [Request.ofDelivery, if_pos protocol.symm, Request.ofMessage] at asks
  split at asks
  · cases asks
  · split at asks
    · cases asks
    · rename_i decoded
      split at asks
      · cases asks
        exact ⟨size_le_of_decode_message decoded, Delivery.length_payload_le reaches.intact⟩
      · cases asks

theorem echo_wellFormed {subnet : Subnet} {guest : Mac} {ip : Ipv4Header} {message frame : Bytes}
    (built : Answer.echo subnet guest ip message = .ok frame)
    (atLeast : IcmpHeader.size ≤ message.length) (atMost : message.length ≤ longestPayload) :
    WellFormed frame := by
  obtain ⟨length, verified⟩ := echoMessage_intact atLeast
  refine ipv4Frame_wellFormed built rfl (length ▸ atMost) ⟨fun isSegment => ?_, fun _ => ?_⟩
  · cases isSegment
  · rw [length]
    exact verified

/-! ## Answers -/

theorem arpFrame_wellFormed (guest : Mac) {etherType : UInt16} (packet : ArpPacket)
    (other : etherType ≠ EthernetHeader.ipv4) :
    WellFormed (ethernetFrame (Answer.frameTo guest etherType) packet.encode) := by
  have length := packet.length_encode
  refine ethernetFrame_wellFormed rfl other ?_ ?_
  · rw [length]
    decide
  · rw [length]
    decide

theorem reset_wellFormed {guest : Mac} {flow : Flow} {header : TcpHeader} {length : Nat}
    {frame : Bytes} (built : Answer.reset guest flow header length = .ok frame) :
    WellFormed frame := by
  rw [Answer.reset] at built
  split at built
  · cases built
  · rename_i segment assembled
    exact segmentFrame_wellFormed built assembled rfl rfl (by decide)

theorem of_mem_builtPosts {sender : NicId} {answer : Except WireError Bytes}
    {post : NicId × Bytes} (member : post ∈ builtPosts sender answer) : answer = .ok post.2 := by
  cases answer with
  | error fault => cases member
  | ok frame => rw [List.mem_singleton.mp member]

theorem IsAnswer.wellFormed {gateway : Gateway} {sender : NicId} {request : Request}
    {posts : List (NicId × Bytes)} (answer : IsAnswer gateway sender request posts) {frame : Bytes}
    (asked : Request.ofFrame gateway.subnet frame = some request)
    (atMost : frame.length ≤ Request.longestFrame) : ∀ post ∈ posts, WellFormed post.2 := by
  cases answer with
  | hardwareAddress | ownAddress =>
      rw [List.forall_mem_singleton]
      exact arpFrame_wellFormed _ _ (by decide)
  | echo guest ip message =>
      intro post member
      obtain ⟨atLeast, fits⟩ := message_fits asked
      have limits := frame_limits
      exact echo_wellFormed (of_mem_builtPosts member) atLeast (by omega)
  | datagram | segment => exact fun post none => absurd none List.not_mem_nil
  | refusal =>
      intro post member
      exact reset_wellFormed (of_mem_builtPosts member)

/-! ## Replies -/

theorem Mapping.answers_wellFormed (mapping : Mapping) (flow : Flow) (payload : Bytes) :
    ∀ frame ∈ mapping.answers flow payload, WellFormed frame := by
  simp only [Mapping.answers, Mapping.replyFrames]
  split
  · exact fun frame member => absurd member List.not_mem_nil
  · rename_i frames built
    split at built
    · cases built
    · exact fragment_wellFormed built rfl rfl (by decide)

end Masquerade
