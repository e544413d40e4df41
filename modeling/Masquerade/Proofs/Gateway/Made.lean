import Masquerade.Proofs.Gateway.Ending
import Masquerade.Proofs.Gateway.WellFormed

/-!
# Who makes the frames

What the gateway itself leaves in the mailbox comes from a stream, from a mapping or from
a request.  Streams and mappings that are there when a frame comes or a round begins send
to their own guests.
-/

set_option autoImplicit false

namespace Masquerade

open Packet (Delivery WellFormed segmentIn)

structure FromStream (flow : Flow) (stream : Stream) (post : NicId × Bytes) : Prop where
  owner : post.1 = stream.owner
  guest : ∃ delivery, Delivery.read post.2 = some delivery ∧
    delivery.ethernet.destination = stream.guestMac
  segment : ∃ segment, segmentIn post.2 = some (flow.reversed, segment)

structure FromMapping (flow : Flow) (mapping : Mapping) (post : NicId × Bytes) : Prop where
  owner : post.1 = mapping.owner
  reply : ∃ payload deliveries, post.2 ∈ mapping.answers flow payload ∧
    (mapping.answers flow payload).map Delivery.read = deliveries.map some ∧
    IsReply mapping flow payload deliveries

theorem Mapping.posts_made (mapping : Mapping) (flow : Flow) (payload : Bytes) :
    ∀ post ∈ mapping.posts flow payload, WellFormed post.2 ∧ FromMapping flow mapping post := by
  intro post member
  obtain ⟨frame, answer, rfl⟩ := List.mem_map.mp member
  refine ⟨mapping.answers_wellFormed flow payload frame answer, rfl, ?_⟩
  by_cases fits : payload.length ≤ longestReply
  · obtain ⟨deliveries, read, reply⟩ := mapping.answers_short flow fits
    exact ⟨payload, deliveries, answer, read, reply⟩
  · rw [mapping.answers_long flow (Nat.lt_of_not_le fits)] at answer
    cases answer

theorem Happening.posts_made {stream : Stream}
    (fits : stream.unacknowledged.length ≤ Stream.mostRead) (cause : Stream.Cause) (now : Nat)
    (start : Kernel) :
    ∀ post ∈ Happening.posts (.turned cause now stream start),
      WellFormed post.2 ∧ FromStream stream.flow stream post := by
  rw [World.turned_posts]
  intro post member
  obtain ⟨frame, sent, rfl⟩ := List.mem_map.mp member
  obtain ⟨_, _, move⟩ := stream.turn_move now start cause
  have sends := move.sends fits frame sent
  exact ⟨sends.wellFormed, rfl, sends.toGuest, sends.segmentIn⟩

namespace World

variable {world : World}

def Bounded (world : World) : Prop :=
  ∀ flow stream, world.gateway.streams.get? flow = some stream →
    stream.unacknowledged.length ≤ Stream.mostRead

def StreamMakes (world : World) (post : NicId × Bytes) : Prop :=
  ∃ flow stream, world.gateway.streams.get? flow = some stream ∧ FromStream flow stream post

def MappingMakes (world : World) (post : NicId × Bytes) : Prop :=
  ∃ flow mapping, world.gateway.mappings.get? flow = some mapping ∧ FromMapping flow mapping post

theorem transmitHappenings_made (sound : world.Sound) (bounded : world.Bounded) (sender : NicId)
    (frame : Bytes) :
    ∀ post ∈ (world.transmitHappenings sender frame).flatMap Happening.posts,
      WellFormed post.2 ∧ world.StreamMakes post := by
  intro post member
  obtain ⟨happening, happens, left⟩ := List.mem_flatMap.mp member
  obtain ⟨guest, flow, segment, _, brought⟩ := asked_of_mem_transmitHappenings happens
  cases broughtBy_of_mem brought with
  | opened => cases left
  | @turned stream found =>
      rw [spread_streams] at found
      obtain ⟨wellFormed, sent⟩ := Happening.posts_made (bounded flow stream found) _ _ _ post left
      rw [sound.streams.get found] at sent
      exact ⟨wellFormed, flow, stream, found, sent⟩

theorem turned_of_mem_pollHappenings (sound : world.Sound) {happening : Happening}
    (member : happening ∈ world.pollHappenings) :
    ∃ cause now stream start, happening = .turned cause now stream start ∧
      world.gateway.streams.get? happening.stream.flow = some stream := by
  have inside : happening ∈ happeningsOf happening.stream.flow world.pollHappenings :=
    List.mem_filter.mpr ⟨member, decide_eq_true rfl⟩
  rcases happeningsOf_round sound happening.stream.flow with
    none | ⟨cause, now, stream, start, found, one⟩
  · rw [none] at inside
    cases inside
  · rw [one] at inside
    exact ⟨cause, now, stream, start, List.mem_singleton.mp inside, found⟩

theorem pollHappenings_made (sound : world.Sound) (bounded : world.Bounded) :
    ∀ post ∈ world.pollHappenings.flatMap Happening.posts,
      WellFormed post.2 ∧ world.StreamMakes post := by
  intro post member
  obtain ⟨happening, happens, left⟩ := List.mem_flatMap.mp member
  obtain ⟨cause, now, stream, start, rfl, found⟩ := turned_of_mem_pollHappenings sound happens
  obtain ⟨wellFormed, sent⟩ := Happening.posts_made (bounded _ stream found) _ _ _ post left
  rw [← Happening.flow_turned cause now stream start] at sent
  exact ⟨wellFormed, _, stream, found, sent⟩

theorem replyPostsOn_made (sound : world.Sound) (calls : List Call) :
    ∀ post ∈ world.gateway.replyPostsOn calls, WellFormed post.2 ∧ world.MappingMakes post := by
  intro post member
  obtain ⟨row, there, left⟩ := List.mem_flatMap.mp member
  obtain ⟨payload, _, sent⟩ := List.mem_flatMap.mp left
  obtain ⟨wellFormed, reply⟩ := row.2.posts_made row.1 payload post sent
  exact ⟨wellFormed, row.1, row.2, FlowTable.get?_of_mem_rows sound.mappings.distinct there, reply⟩

/-! ## Frames and rounds -/

/-- What the gateway makes for a frame, behind the copies: segments of streams, or an
answer. -/
theorem transmit_makes (sound : world.Sound) (bounded : world.Bounded) (sender : NicId)
    (frame : Bytes) :
    ∃ made, (world.transmit sender frame).gateway.mailbox.entries =
        world.gateway.mailbox.entries ++ (world.gateway.copies sender frame ++ made) ∧
      ∀ post ∈ made, WellFormed post.2 ∧ (world.StreamMakes post ∨
        ∃ request, Request.asked world.gateway.subnet frame = some request ∧
          IsAnswer world.gateway sender request made) := by
  obtain ⟨_, answer, leaves, answers, rfl | silent⟩ := transmit_leaves sound sender frame
  · refine ⟨_, leaves.mailbox, fun post member => ?_⟩
    rw [List.append_nil] at member
    exact (transmitHappenings_made sound bounded sender frame post member).imp_right Or.inl
  · refine ⟨_, leaves.mailbox, fun post member => ?_⟩
    rw [silent, List.nil_append] at member ⊢
    rcases answers.nil_or_asked with rfl | ⟨request, asked, answers⟩
    · exact absurd member List.not_mem_nil
    · obtain ⟨_, fits, found⟩ := asked_eq_some_iff.mp asked
      exact ⟨answers.wellFormed found fits post member, Or.inr ⟨request, asked, answers⟩⟩

/-- What the gateway makes in a round, before what comes through the relay. -/
theorem poll_makes (sound : world.Sound) (bounded : world.Bounded) :
    ∃ made, world.poll.gateway.mailbox.entries = world.gateway.mailbox.entries ++
        (made ++ world.gateway.relayPostsOn (world.poll.kernel.callsSince world.kernel)) ∧
      ∀ post ∈ made, WellFormed post.2 ∧ (world.StreamMakes post ∨ world.MappingMakes post) := by
  obtain ⟨calls, leaves, _⟩ := poll_leaves sound
  rw [leaves.makes.callsSince_eq]
  refine ⟨_, leaves.mailbox, fun post member => ?_⟩
  rcases List.mem_append.mp member with replied | sent
  · exact (replyPostsOn_made sound calls post replied).imp_right Or.inr
  · exact (pollHappenings_made sound bounded post sent).imp_right Or.inl

end World

end Masquerade
