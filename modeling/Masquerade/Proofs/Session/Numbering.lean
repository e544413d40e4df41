import Masquerade.Proofs.Gateway.Numbering
import Masquerade.Proofs.Session.Frames
import Masquerade.Proofs.Session.LastUse

/-!
# Numbers of replies

The replies of one mapping carry one number after the other, from zero on, through all that
is done on a network.  Mappings that send to the same guest from the same address outside may
number their replies alike, and then the guest cannot tell their fragments apart.
-/

set_option autoImplicit false

namespace Masquerade

open Packet

namespace World

/-- Through a session the mappings count what comes to them. -/
theorem Course.numbers {world after : World} {rounds : List World}
    {frames : List (NicId × Bytes)} (course : Course world rounds frames after)
    (sound : world.Sound) (positive : 0 < world.gateway.mappings.capacity)
    {seen : List MappedReply} (counted : world.HasCounted seen) (sequence : InSequence seen) :
    after.HasCounted (seen ++ rounds.flatMap repliesTaken) ∧
      InSequence (seen ++ rounds.flatMap repliesTaken) := by
  induction course generalizing seen with
  | refl =>
      rw [List.flatMap_nil, List.append_nil]
      exact ⟨counted, sequence⟩
  | @aside world between _ _ _ steps mappings _ made _ ih =>
      have given := fun reply member => Nat.lt_of_lt_of_le (counted.given reply member)
        (Kernel.length_sockets_le made)
      exact ih (sound.steps steps) (mappings ▸ positive) ⟨given, mappings ▸ counted.rows⟩ sequence
  | @round world _ _ _ _ ih =>
      have steps := steps_poll world
      rw [List.flatMap_cons, ← List.append_assoc]
      exact ih (sound.steps steps) (steps.capacity_mappings ▸ positive)
        (poll_hasCounted sound counted) (poll_inSequence sound counted sequence)
  | @frame world _ _ _ sender bytes _ ih =>
      have steps := steps_transmit world sender bytes
      exact ih (sound.steps steps) (steps.capacity_mappings ▸ positive)
        (transmit_hasCounted sound positive counted sender bytes) sequence

end World

theorem Gateway.replyPostsOn_eq (gateway : Gateway) (calls : List Call) :
    gateway.replyPostsOn calls = (repliesOf gateway.mappings.rows calls).flatMap
      MappedReply.posts := by
  rw [replyPostsOn, repliesOf, List.flatMap_assoc]
  refine List.flatMap_congr fun row _ => ?_
  rw [List.flatMap_map]
  rfl

namespace Session

def replies (start : World) (operations : List Operation) : List MappedReply :=
  (roundsIn start operations).flatMap World.repliesTaken

/-- A round leaves what comes to the mappings, each time with the number that the mapping has
then.  That is the number of the datagrams that came to the socket of the mapping before, so
that fewer than 65536 replies carry different numbers where they come through one mapping.
A mapping that a frame opens has a socket to which nothing came, and begins at zero. -/
theorem replies_are_numbered_by_mapping {start : World} (new : start.IsNew)
    (operations : List Operation) :
    (∀ round ∈ roundsIn start operations, ∃ rest,
      round.poll.gateway.mailbox.entries = round.gateway.mailbox.entries ++
        (round.repliesTaken.flatMap MappedReply.posts ++ rest)) ∧
    (∀ reply ∈ replies start operations, reply.payload.length ≤ Mapping.longestReply →
      ∃ deliveries, (reply.mapping.answers reply.flow reply.payload).map Delivery.read =
          deliveries.map some ∧
        IsReply reply.mapping reply.flow reply.payload deliveries) ∧
    InSequence (replies start operations) ∧
    ((replies start operations).length < 65536 →
      (replies start operations).Pairwise fun first second =>
        first.mapping.socket = second.mapping.socket →
          first.mapping.identification ≠ second.mapping.identification) ∧
    ∀ (sender : NicId) (frame : Bytes) (flow : Flow) (payload : Bytes),
      let world := after start operations
      world.Carried frame flow payload → world.gateway.mappings.get? flow = none →
      ∃ mapping, (world.transmit sender frame).gateway.mappings.get? flow = some mapping ∧
        mapping.identification = 0 ∧
        ∀ reply ∈ replies start operations, reply.mapping.socket ≠ mapping.socket := by
  have counted : start.HasCounted [] := by
    refine ⟨fun reply member => absurd member List.not_mem_nil, ?_⟩
    rw [new.no_records.2]
    exact fun row member => absurd member List.not_mem_nil
  obtain ⟨counts, sequence⟩ :=
    (course_after operations start).numbers new.sound new.room_for_mapping counted .nil
  refine ⟨fun round member => ?_, fun reply _ => ?_, sequence, sequence.pairwise, ?_⟩
  · obtain ⟨more, rfl⟩ := roundsIn_reached start operations round member
    obtain ⟨calls, leaves, _⟩ := World.poll_leaves (sound_after new more)
    rw [World.repliesTaken, leaves.makes.callsSince_eq, ← Gateway.replyPostsOn_eq, leaves.mailbox]
    exact ⟨_, congrArg _ (List.append_assoc ..)⟩
  · exact reply.mapping.answers_short reply.flow
  · intro sender frame flow payload world carried absent
    obtain ⟨mapping, put, first, fresh⟩ := World.transmit_numbers (sound_after new operations)
      (room_after new operations) sender carried absent
    refine ⟨mapping, put, first, fun reply member => ?_⟩
    exact Nat.ne_of_lt (Nat.lt_of_lt_of_le (counts.given reply member) fresh)

/-! ## Answers that need two fragments -/

/-- Both replies come in fragments, which have all in common by which a guest puts them
together. -/
def Confusable (first second : MappedReply) : Prop :=
  1 < (first.mapping.answers first.flow first.payload).length ∧
    1 < (second.mapping.answers second.flow second.payload).length ∧
    first.flow.outside.address = second.flow.outside.address ∧
    first.flow.guest.address = second.flow.guest.address ∧
    first.mapping.identification = second.mapping.identification

instance (first second : MappedReply) : Decidable (Confusable first second) :=
  inferInstanceAs (Decidable (_ ∧ _))

def quiet : World := .plain (.load none)

def asking : List Operation :=
  let answer : Arrival := .data (List.replicate 1473 7) ⟨.ofOctets 1 2 3 4, 53⟩
  [.register ⟨⟨1⟩, ⟨2, 0, 0, 0, 0, 1⟩⟩, .transmit ⟨1⟩ (datagramFrame (serviceFlow 4000) [1]),
    .transmit ⟨1⟩ (datagramFrame (serviceFlow 4001) [2]), .change 0 { arrivals := [answer, answer] },
    .change 1 { arrivals := [answer] }, .poll 2]

theorem answers_to_one_port_differ :
    quiet.IsNew ∧ (replies quiet asking).length = 3 ∧
      (replies quiet asking).Pairwise fun first second =>
        first.mapping.socket = second.mapping.socket →
          first.mapping.identification ≠ second.mapping.identification := by
  have new : quiet.IsNew := World.plain_isNew none
  have three : (replies quiet asking).length = 3 := by decide +kernel
  have few : (replies quiet asking).length < 65536 := by omega
  exact ⟨new, three, (replies_are_numbered_by_mapping new asking).2.2.2.1 few⟩

/-- Answers to different ports need not differ: the first of each is number zero. -/
theorem answers_to_two_ports_clash :
    quiet.IsNew ∧ (replies quiet asking).length < 65536 ∧
      ¬ (replies quiet asking).Pairwise fun first second => ¬ Confusable first second :=
  ⟨World.plain_isNew none, by decide +kernel, by decide +kernel⟩

end Session

end Masquerade
