import Masquerade.Proofs.Gateway.Mailbox

/-!
# What a segment brings about

A segment of a guest makes no calls on the sockets that datagrams come from and leaves
the mappings alone.  What it puts into the mailbox is what its stream sends, or without a
stream at most a single reset that refuses it.
-/

set_option autoImplicit false

namespace Masquerade

open Kernel (Makes)
open Packet (WireError)

def builtPosts (nic : NicId) : Except WireError Bytes → List (NicId × Bytes)
  | .ok frame => [(nic, frame)]
  | .error _ => []

def refusalPosts (sender : NicId) (guestMac : Mac) (flow : Flow) (segment : Segment)
    (length : Nat) : List (NicId × Bytes) :=
  builtPosts sender (Answer.reset guestMac flow segment.header length)

namespace World

theorem postBuilt_leaves (world : World) (nic : NicId) (frame : Except WireError Bytes) :
    Leaves [] (builtPosts nic frame) world (world.postBuilt nic frame) := by
  cases frame with
  | error fault => exact .refl world
  | ok frame => exact .posted world nic [frame]

@[simp] theorem mappings_postBuilt (world : World) (nic : NicId)
    (frame : Except WireError Bytes) :
    (world.postBuilt nic frame).gateway.mappings = world.gateway.mappings := by
  cases frame <;> rfl

theorem Sound.spare_of_fresh {world : World} (sound : world.Sound) {calls : List Call}
    (fresh : ∀ call ∈ calls,
      call.socket? = none ∨ call.socket? = some world.kernel.sockets.length) :
    Spare world.gateway.datagramSockets calls := by
  intro call member socket inside same
  have held : socket ∈ world.gateway.holders := by
    rcases List.mem_append.mp inside with mapped | relayed
    · exact List.mem_append_left _ (List.mem_append_left _ mapped)
    · exact List.mem_append_right _ relayed
  rcases fresh call member with none | next
  · rw [none] at same
    cases same
  · rw [next] at same
    exact Nat.ne_of_lt (sound.held.lt held) (Option.some.inj same).symm

variable {world : World} {flow : Flow}

theorem continueStream_leaves (sound : world.Sound) {stream : Stream}
    (found : world.gateway.streams.get? flow = some stream) (segment : Segment) :
    ∃ calls, Leaves calls
        (Happening.posts (.turned (.segment segment) world.gateway.clock stream world.kernel))
        world (world.continueStream flow stream segment) ∧
      Spare world.gateway.datagramSockets calls ∧
      (world.continueStream flow stream segment).gateway.mappings = world.gateway.mappings := by
  obtain ⟨calls, made, move⟩ :=
    stream.turn_move world.gateway.clock world.kernel (.segment segment)
  have about : ∀ call ∈ calls, call.socket? = some stream.socket :=
    fun call member => (move.about_socket call member).1
  have away := sound.stream_not_mem_datagramSockets (FlowTable.mem_rows_of_get? found)
  have kept := get?_set_turn found
    (stream.turn world.gateway.clock world.kernel (.segment segment)).stream
  let turn := stream.turn world.gateway.clock world.kernel (.segment segment)
  let after := ({ world with kernel := turn.kernel }.keepStream flow turn.stream).post stream.owner
    turn.frames
  have leaves : Leaves calls (turn.frames.map (stream.owner, ·)) world after :=
    ⟨made, rfl, rfl, rfl⟩
  rw [turned_posts]
  have served : world.continueStream flow stream segment =
      if turn.ends then after.dropStream flow else after.touchStream flow := rfl
  rw [served]
  cases ends : turn.ends with
  | true =>
      obtain ⟨calls, dropped, about, mappings⟩ :=
        leaves_ended leaves kept rfl move.parties.socket about
      exact ⟨calls, dropped, spare_of_about about away, mappings⟩
  | false => exact ⟨calls, ⟨made, rfl, rfl, rfl⟩, spare_of_about about away, rfl⟩

theorem refuse_leaves (world : World) (sender : NicId) (guestMac : Mac) (flow : Flow)
    (segment : Segment) (length : Nat) :
    Leaves [] (refusalPosts sender guestMac flow segment length) world
        (world.refuse sender guestMac flow segment length) := by
  rw [refuse, refusalPosts]
  exact postBuilt_leaves ..

@[simp] theorem mappings_refuse (world : World) (sender : NicId) (guestMac : Mac) (flow : Flow)
    (segment : Segment) (length : Nat) :
    (world.refuse sender guestMac flow segment length).gateway.mappings =
      world.gateway.mappings := by
  rw [refuse, mappings_postBuilt]

theorem openStream_leaves (sound : world.Sound) (sender : NicId) (guestMac : Mac)
    (segment : Segment) :
    ∃ calls posts, Leaves calls posts world (world.openStream sender guestMac flow segment) ∧
      Spare world.gateway.datagramSockets calls ∧
      (world.openStream sender guestMac flow segment).gateway.mappings = world.gateway.mappings ∧
      (posts = [] ∨ posts = refusalPosts sender guestMac flow segment 0) := by
  generalize leads : world.openStream sender guestMac flow segment = after
  cases openStream_outcome leads with
  | declined => exact ⟨[], _, refuse_leaves .., by simp [Spare], mappings_refuse .., Or.inr rfl⟩
  | @failed _ kernel _ missed =>
      obtain ⟨calls, made, fruitless⟩ := Kernel.openStream_error missed
      have whole := (Leaves.called made).trans (refuse_leaves (world.withKernel kernel) sender
        guestMac flow segment 0)
      rw [List.append_nil, List.nil_append] at whole
      exact ⟨calls, _, whole, sound.spare_of_fresh fruitless.about, mappings_refuse .., Or.inr rfl⟩
  | @taken _ kernel _ opened =>
      obtain ⟨rfl, result, made, _⟩ := Kernel.openStream_ok opened
      have closed := (made.trans kernel.makes_drawRandom).trans
        (Kernel.makes_close _ world.kernel.sockets.length)
      exact ⟨_, [], Leaves.called closed, sound.spare_of_fresh (by simp [Call.socket?]), rfl,
        Or.inl rfl⟩
  | @added _ kernel _ _ opened =>
      obtain ⟨rfl, result, made, _⟩ := Kernel.openStream_ok opened
      have drawn := made.trans kernel.makes_drawRandom
      exact ⟨_, [], ⟨drawn, (List.append_nil _).symm, rfl, rfl⟩,
        sound.spare_of_fresh (by simp [Call.socket?]), rfl, Or.inl rfl⟩

theorem posts_segmentHappenings_of_none (absent : world.gateway.streams.get? flow = none)
    (sender : NicId) (guestMac : Mac) (segment : Segment) :
    (world.segmentHappenings sender guestMac flow segment).flatMap Happening.posts = [] := by
  simp only [segmentHappenings, absent]
  split <;> rfl

/-- A segment leaves what its stream sends.  One without a stream may leave a reset for its
sender. -/
theorem onSegment_leaves (sound : world.Sound) (sender : NicId) (guestMac : Mac) (flow : Flow)
    (segment : Segment) :
    ∃ calls answer, Leaves calls
        ((world.segmentHappenings sender guestMac flow segment).flatMap Happening.posts ++ answer)
        world (world.onSegment sender guestMac flow segment) ∧
      Spare world.gateway.datagramSockets calls ∧
      (world.onSegment sender guestMac flow segment).gateway.mappings = world.gateway.mappings ∧
      (answer = [] ∨ world.gateway.streams.get? flow = none ∧
        ∃ length, answer = refusalPosts sender guestMac flow segment length) := by
  have silent : Spare world.gateway.datagramSockets [] := by simp [Spare]
  generalize leads : world.onSegment sender guestMac flow segment = after
  cases onSegment_outcome leads with
  | repeated found opens =>
      refine ⟨[], [], ?_, silent, rfl, Or.inl rfl⟩
      simp only [segmentHappenings, found, opens, if_true, List.flatMap_nil, List.append_nil]
      exact .refl world
  | continued found carriesOn =>
      obtain ⟨calls, leaves, spare, mappings⟩ := continueStream_leaves sound found segment
      refine ⟨calls, [], ?_, spare, mappings, Or.inl rfl⟩
      simp only [segmentHappenings, found, carriesOn, Bool.false_eq_true, if_false,
        List.flatMap_singleton, List.append_nil]
      exact leaves
  | opened absent =>
      obtain ⟨calls, posts, leaves, spare, mappings, what⟩ :=
        openStream_leaves sound sender guestMac segment
      refine ⟨calls, posts, ?_, spare, mappings,
        what.imp_right fun refused => ⟨absent, 0, refused⟩⟩
      rw [posts_segmentHappenings_of_none absent, List.nil_append]
      exact leaves
  | passedOver absent =>
      refine ⟨[], [], ?_, silent, rfl, Or.inl rfl⟩
      rw [posts_segmentHappenings_of_none absent, List.nil_append]
      exact .refl world
  | refused absent =>
      refine ⟨[], refusalPosts sender guestMac flow segment segment.payload.length, ?_, silent,
        mappings_refuse .., Or.inr ⟨absent, _, rfl⟩⟩
      rw [posts_segmentHappenings_of_none absent, List.nil_append]
      exact refuse_leaves ..

end World

end Masquerade
