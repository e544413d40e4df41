import Mathlib.Data.List.Induction
import Masquerade.Proofs.Gateway.Made
import Masquerade.Proofs.Session.Ending
import Masquerade.Proofs.Session.OutsideToGuest
import Masquerade.Proofs.Session.Replies

/-!
# Frames that controllers get

All that waits in the mailbox was left there by a frame or in a round.  What the gateway
has made itself is well formed, and what a stream or mapping sends goes to the guest
for whom it was opened.
-/

set_option autoImplicit false

namespace Masquerade.Session

open Packet (WellFormed)
open World (KeepsMappings MappingMakes StreamMakes)

/-! ## Rounds of an operation -/

def LeftInRounds : World → List World → World → Prop
  | before, [], after =>
      after.gateway.mailbox.entries.Sublist before.gateway.mailbox.entries
  | before, round :: rest, after =>
      round.gateway.mailbox.entries.Sublist before.gateway.mailbox.entries ∧
        LeftInRounds round.poll rest after

theorem LeftInRounds.after_sublist {before other after : World} {rounds : List World}
    (left : LeftInRounds other rounds after)
    (fewer : other.gateway.mailbox.entries.Sublist before.gateway.mailbox.entries) :
    LeftInRounds before rounds after := by
  cases rounds with
  | nil => exact List.Sublist.trans left fewer
  | cons round rest => exact ⟨left.1.trans fewer, left.2⟩

theorem LeftInRounds.of_course {before after : World} {rounds : List World}
    {frames : List (NicId × Bytes)} (course : World.Course before rounds frames after)
    (noFrame : frames = []) : LeftInRounds before rounds after := by
  induction course with
  | refl => exact List.Sublist.refl _
  | aside _ _ mailbox _ _ ih => exact (ih noFrame).after_sublist mailbox
  | round _ ih => exact ⟨List.Sublist.refl _, ih noFrame⟩
  | frame => cases noFrame

theorem run_left (world : World) {operation : Operation}
    (noFrame : ∀ sender frame, operation ≠ .transmit sender frame) :
    LeftInRounds world (operation.rounds world) (operation.run world).2 :=
  .of_course (course_of_no_frame world noFrame) rfl

theorem reached_of_row {world last : World} {rounds : List World} {happenings : List Happening}
    (row : World.RowOfRounds world rounds happenings last) :
    ∀ round ∈ rounds, ∃ more, round = after world more := by
  induction row with
  | refl => exact fun round member => absurd member List.not_mem_nil
  | round _ ih =>
      refine List.forall_mem_cons.mpr ⟨⟨[], rfl⟩, fun round member => ?_⟩
      obtain ⟨more, same⟩ := ih round member
      exact ⟨.poll 1 :: more, same⟩
  | received nic _ ih =>
      refine List.forall_mem_cons.mpr ⟨⟨[], rfl⟩, fun round member => ?_⟩
      obtain ⟨more, same⟩ := ih round member
      exact ⟨.receive nic :: more, same⟩

theorem rounds_reached (world : World) (operation : Operation) :
    ∀ round ∈ operation.rounds world, ∃ more, round = after world more := by
  cases operation with
  | poll rounds => exact reached_of_row (World.row_pollTimes rounds world)
  | receiveUpTo nic most => exact reached_of_row (World.row_receiveUpTo nic most world)
  | receive | available =>
      exact fun round member => ⟨[], List.mem_singleton.mp member⟩
  | transmit | register | macOf | phase | describe | script | change =>
      exact fun round member => absurd member List.not_mem_nil

theorem roundsIn_reached (world : World) (operations : List Operation) :
    ∀ round ∈ roundsIn world operations, ∃ more, round = after world more := by
  induction operations generalizing world with
  | nil => exact fun round member => absurd member List.not_mem_nil
  | cons operation rest ih =>
      intro round member
      rcases List.mem_append.mp member with now | later
      · exact rounds_reached world operation round now
      · obtain ⟨more, same⟩ := ih _ round later
        exact ⟨operation :: more, same⟩

/-! ## Records and their guests -/

/-- A record was opened by a frame, where there was none before, and is still the same. -/
def OpenedBy {Record : Type} (entry : World → Option Record) (Same : Record → Record → Prop)
    (Opens : World → NicId → Bytes → Record → Prop) (start : World) (operations : List Operation)
    (record : Record) : Prop :=
  ∃ before sender frame later first, operations = before ++ .transmit sender frame :: later ∧
    entry (after start before) = none ∧ Opens (after start before) sender frame first ∧
    entry ((after start before).transmit sender frame) = some first ∧ Same first record

/-- What is there at the end was not there at the beginning, so that one frame has
brought it. -/
theorem openedBy_of_found {Record : Type} (entry : World → Option Record)
    (Same : Record → Record → Prop) (Opens : World → NicId → Bytes → Record → Prop)
    (refl : ∀ record, Same record record)
    (trans : ∀ first second third, Same first second → Same second third → Same first third)
    {start : World} (begins : entry start = none)
    (each : ∀ (operations : List Operation) (operation : Operation) (record : Record),
      entry (operation.run (after start operations)).2 = some record →
        (∃ old, entry (after start operations) = some old ∧ Same old record) ∨
        entry (after start operations) = none ∧ ∃ sender frame,
          operation = .transmit sender frame ∧ Opens (after start operations) sender frame record)
    (operations : List Operation) {record : Record}
    (found : entry (after start operations) = some record) :
    OpenedBy entry Same Opens start operations record := by
  -- From the back: the last operation has found the record there, or has opened it.
  induction operations using List.reverseRecOn generalizing record with
  | nil =>
      have none : entry start = some record := found
      rw [begins] at none
      cases none
  | append_singleton operations operation ih =>
      rw [after_append] at found
      rcases each operations operation record found with
        ⟨old, there, same⟩ | ⟨absent, sender, frame, rfl, opens⟩
      · obtain ⟨before, sender, frame, later, first, split, absent, opens, given, kept⟩ := ih there
        refine ⟨before, sender, frame, later ++ [operation], first, ?_, absent, opens, given,
          trans _ _ _ kept same⟩
        rw [split, List.append_assoc, List.cons_append]
      · exact ⟨operations, sender, frame, [], record, rfl, absent, opens, found, refl record⟩

def OpensStream (flow : Flow) (world : World) (sender : NicId) (frame : Bytes) (stream : Stream) :
    Prop :=
  stream.owner = sender ∧ ∃ segment, segment.opens = true ∧
    Request.asked world.gateway.subnet frame = some (.segment stream.guestMac flow segment)

def OpensMapping (flow : Flow) (world : World) (sender : NicId) (frame : Bytes)
    (mapping : Mapping) : Prop :=
  mapping.owner = sender ∧ ∃ payload,
    Request.asked world.gateway.subnet frame = some (.datagram mapping.guestMac flow payload)

def StreamOpened (start : World) (operations : List Operation) (flow : Flow) (stream : Stream) :
    Prop :=
  OpenedBy (fun world => world.gateway.streams.get? flow) Stream.SameParties (OpensStream flow)
    start operations stream

def MappingOpened (start : World) (operations : List Operation) (flow : Flow)
    (mapping : Mapping) : Prop :=
  OpenedBy (fun world => world.gateway.mappings.get? flow) Mapping.Continues (OpensMapping flow)
    start operations mapping

section Records

variable {start : World} {operations : List Operation} {flow : Flow}

theorem get?_run_stream {world : World} (sound : world.Sound) (operation : Operation)
    {stream : Stream}
    (given : (operation.run world).2.gateway.streams.get? flow = some stream) :
    (∃ old, world.gateway.streams.get? flow = some old ∧ Stream.SameParties old stream) ∨
      world.gateway.streams.get? flow = none ∧ ∃ sender frame,
        operation = .transmit sender frame ∧ OpensStream flow world sender frame stream := by
  rcases operation.frame_or_not with ⟨sender, frame, rfl⟩ | noFrame
  · cases found : world.gateway.streams.get? flow with
    | none =>
        obtain ⟨owner, segment, asked, opens⟩ := World.get?_transmit_opened sound found given
        exact Or.inr ⟨rfl, sender, frame, rfl, owner, segment, opens, asked⟩
    | some old =>
        exact Or.inl ⟨old, rfl, World.get?_transmit_parties sound found sender frame given⟩
  · exact Or.inl ((run_free flow sound noFrame).kept stream given)

theorem stream_opened (new : start.IsNew) {stream : Stream}
    (found : (after start operations).gateway.streams.get? flow = some stream) :
    StreamOpened start operations flow stream := by
  rw [StreamOpened]
  refine openedBy_of_found (fun world => world.gateway.streams.get? flow) Stream.SameParties
    (OpensStream flow) (fun _ => ⟨rfl, rfl, rfl, rfl⟩) (fun _ _ _ => Stream.SameParties.trans)
    (FlowTable.get?_of_no_rows new.no_records.1 flow) ?_ operations found
  exact fun operations operation _ => get?_run_stream (sound_after new operations) operation

theorem get?_run_mapping {world : World} (sound : world.Sound) (operation : Operation)
    {mapping : Mapping}
    (given : (operation.run world).2.gateway.mappings.get? flow = some mapping) :
    (∃ old, world.gateway.mappings.get? flow = some old ∧ old.Continues mapping) ∨
      world.gateway.mappings.get? flow = none ∧ ∃ sender frame,
        operation = .transmit sender frame ∧ OpensMapping flow world sender frame mapping := by
  rcases operation.frame_or_not with ⟨sender, frame, rfl⟩ | noFrame
  · rcases World.get?_transmit_mapping sound given with before | ⟨absent, opened⟩
    · exact Or.inl ⟨mapping, before, rfl⟩
    · exact Or.inr ⟨absent, sender, frame, rfl, opened⟩
  · exact Or.inl ((course_of_no_frame world noFrame).keepsMappings sound flow mapping given)

theorem mapping_opened (new : start.IsNew) {mapping : Mapping}
    (found : (after start operations).gateway.mappings.get? flow = some mapping) :
    MappingOpened start operations flow mapping := by
  rw [MappingOpened]
  refine openedBy_of_found (fun world => world.gateway.mappings.get? flow) Mapping.Continues
    (OpensMapping flow) (fun _ => rfl) (fun _ _ _ first second => first.trans second)
    (FlowTable.get?_of_no_rows new.no_records.2 flow) ?_ operations found
  exact fun operations operation _ => get?_run_mapping (sound_after new operations) operation

theorem bounded_after (new : start.IsNew) (operations : List Operation) :
    (after start operations).Bounded := by
  intro flow stream found
  obtain ⟨_, _, _, last, life, _, left, _⟩ :=
    life_of_row new (FlowTable.mem_rows_of_get? found)
  have here : last.stream = stream := left
  rw [← here]
  exact life.supplied.2.1.fits

end Records

/-! ## All frames of a session -/

/-- What the gateway makes itself is well formed: behind the copies of a frame, and in
front of what a round takes from the relay.  Nothing is left in any other way.  Frames of
streams and mappings go to the guest for whom these were opened. -/
theorem made_frames_are_well_formed {start : World} (new : start.IsNew)
    (operations : List Operation) :
    let world := after start operations
    (∀ sender frame, ∃ made,
      (world.transmit sender frame).gateway.mailbox.entries = world.gateway.mailbox.entries ++
        (world.gateway.copies sender frame ++ made) ∧
      ∀ post ∈ made, WellFormed post.2 ∧ (world.StreamMakes post ∨
        ∃ request, Request.asked world.gateway.subnet frame = some request ∧
          IsAnswer world.gateway sender request made)) ∧
    (∃ made,
      world.poll.gateway.mailbox.entries = world.gateway.mailbox.entries ++
        (made ++ world.gateway.relayPostsOn (world.poll.kernel.callsSince world.kernel)) ∧
      ∀ post ∈ made, WellFormed post.2 ∧ (world.StreamMakes post ∨ world.MappingMakes post)) ∧
    (∀ operation : Operation, (∀ sender frame, operation ≠ .transmit sender frame) →
      LeftInRounds world (operation.rounds world) (operation.run world).2 ∧
      ∀ round ∈ operation.rounds world, ∃ more, round = after start (operations ++ more)) ∧
    (∀ flow stream, world.gateway.streams.get? flow = some stream →
      StreamOpened start operations flow stream) ∧
    ∀ flow mapping, world.gateway.mappings.get? flow = some mapping →
      MappingOpened start operations flow mapping := by
  intro world
  have sound : world.Sound := sound_after new operations
  have bounded : world.Bounded := bounded_after new operations
  refine ⟨World.transmit_makes sound bounded, World.poll_makes sound bounded,
    fun operation noFrame => ⟨run_left world noFrame, fun round member => ?_⟩,
    fun flow stream => stream_opened new, fun flow mapping => mapping_opened new⟩
  obtain ⟨more, reached⟩ := rounds_reached world operation round member
  exact ⟨more, by rw [after_append]; exact reached⟩

theorem query_frames_are_well_formed :
    queried.IsNew ∧ ∃ made, made ≠ [] ∧
      (after queried query).poll.gateway.mailbox.entries =
        (after queried query).gateway.mailbox.entries ++ made ∧
      ∀ post ∈ made, WellFormed post.2 ∧
        ((after queried query).StreamMakes post ∨ (after queried query).MappingMakes post) := by
  have new : queried.IsNew := World.plain_isNew _
  have empty : (after queried query).gateway.mailbox.entries = [] := by decide +kernel
  have left : (after queried query).poll.gateway.mailbox.entries.length = 2 := by decide +kernel
  have noRelay : (after queried query).gateway.relayPostsOn
      ((after queried query).poll.kernel.callsSince (after queried query).kernel) = [] := by
    decide +kernel
  obtain ⟨_, ⟨made, leaves, wellFormed⟩, _⟩ := made_frames_are_well_formed new query
  rw [noRelay, List.append_nil] at leaves
  refine ⟨new, made, fun none => ?_, leaves, wellFormed⟩
  rw [leaves, empty, none] at left
  cases left

end Masquerade.Session
