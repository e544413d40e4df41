import Masquerade.Proofs.Gateway.Datagrams

/-!
# What a frame from a controller leaves

Behind the copies for the other controllers stands what the gateway makes itself: what
a stream sends on a segment of its guest, or an answer for the sender of the frame.  So
what streams send is queued as it happens, on frames and in rounds.
-/

set_option autoImplicit false

namespace Masquerade

open Packet

/-- The answer to a request, for which nothing has to be remembered.  There is none to a
datagram, and to a segment only one that refuses it where it has no stream. -/
inductive IsAnswer (gateway : Gateway) (sender : NicId) : Request → List (NicId × Bytes) → Prop
  | hardwareAddress (guest : Mac) (packet : ArpPacket) :
      IsAnswer gateway sender (.hardwareAddress guest packet)
        [(sender, Answer.hardwareAddress gateway.subnet guest packet)]
  | ownAddress (guest : Mac) (packet : ArpPacket) :
      IsAnswer gateway sender (.ownAddress guest packet)
        [(sender, Answer.ownAddress gateway.subnet guest packet)]
  | echo (guest : Mac) (ip : Ipv4Header) (message : Bytes) :
      IsAnswer gateway sender (.echo guest ip message)
        (builtPosts sender (Answer.echo gateway.subnet guest ip message))
  | datagram (guest : Mac) (flow : Flow) (payload : Bytes) :
      IsAnswer gateway sender (.datagram guest flow payload) []
  | segment (guest : Mac) (flow : Flow) (segment : Segment) :
      IsAnswer gateway sender (.segment guest flow segment) []
  | refusal (guest : Mac) {flow : Flow} (absent : gateway.streams.get? flow = none)
      (segment : Segment) (length : Nat) : IsAnswer gateway sender (.segment guest flow segment)
        (refusalPosts sender guest flow segment length)

def Gateway.IsAnsweredWith (gateway : Gateway) (sender : NicId) (frame : Bytes)
    (answer : List (NicId × Bytes)) : Prop :=
  (Request.asked gateway.subnet frame).elim (answer = []) (IsAnswer gateway sender · answer)

theorem Gateway.IsAnsweredWith.nil_or_asked {gateway : Gateway} {sender : NicId} {frame : Bytes}
    {answer : List (NicId × Bytes)} (answers : gateway.IsAnsweredWith sender frame answer) :
    answer = [] ∨ ∃ request, Request.asked gateway.subnet frame = some request ∧
      IsAnswer gateway sender request answer := by
  rw [IsAnsweredWith] at answers
  cases asked : Request.asked gateway.subnet frame with
  | none =>
      rw [asked] at answers
      exact Or.inl answers
  | some request =>
      rw [asked] at answers
      exact Or.inr ⟨request, rfl, answers⟩

namespace World

variable {world : World}

/-- Serving a request leaves what its stream sends and the answer.  On the sockets of
mappings it sends the datagram of a flow that is carried, and nothing else. -/
theorem serve_leaves (sound : world.Sound) (sender : NicId) (request : Request) :
    let after := world.serve sender request
    ∃ calls answer, Leaves calls
        ((world.requestHappenings sender request).flatMap Happening.posts ++ answer) world after ∧
      IsAnswer world.gateway sender request answer ∧
      ((Spare world.gateway.datagramSockets calls ∧
          after.gateway.mappings = world.gateway.mappings ∧
          ∀ guest flow payload, request = .datagram guest flow payload → ¬ world.Carries flow) ∨
        ∃ guest flow payload mapping, request = .datagram guest flow payload ∧
          world.Carries flow ∧ Forwards world after flow payload calls mapping) := by
  intro after
  have silent : Spare world.gateway.datagramSockets [] := by simp [Spare]
  cases request with
  | hardwareAddress guest packet =>
      exact ⟨[], _, .posted world sender [_], .hardwareAddress guest packet,
        Or.inl ⟨silent, rfl, by simp⟩⟩
  | ownAddress guest packet =>
      exact ⟨[], _, .posted world sender [_], .ownAddress guest packet,
        Or.inl ⟨silent, rfl, by simp⟩⟩
  | echo guest ip message =>
      exact ⟨[], _, postBuilt_leaves .., .echo guest ip message,
        Or.inl ⟨silent, mappings_postBuilt .., by simp⟩⟩
  | datagram guest flow payload =>
      obtain ⟨calls, leaves, outcome⟩ := onDatagram_leaves sound sender guest flow payload
      refine ⟨calls, [], leaves, .datagram guest flow payload, ?_⟩
      rcases outcome with ⟨cannot, spare, mappings⟩ | ⟨carries, mapping, forwards⟩
      · refine Or.inl ⟨spare, mappings, fun _ _ _ same => ?_⟩
        cases same
        exact cannot
      · exact Or.inr ⟨guest, flow, payload, mapping, rfl, carries, forwards⟩
  | segment guest flow segment =>
      obtain ⟨calls, answer, leaves, spare, mappings, rfl | ⟨absent, length, rfl⟩⟩ :=
        onSegment_leaves sound sender guest flow segment
      · exact ⟨calls, _, leaves, .segment guest flow segment,
          Or.inl ⟨spare, mappings, by simp⟩⟩
      · exact ⟨calls, _, leaves, .refusal guest absent segment length,
          Or.inl ⟨spare, mappings, by simp⟩⟩

theorem answer_or_sent {sender : NicId} {request : Request} {answer : List (NicId × Bytes)}
    (answers : IsAnswer world.gateway sender request answer) :
    answer = [] ∨ (world.requestHappenings sender request).flatMap Happening.posts = [] := by
  cases answers with
  | hardwareAddress | ownAddress | echo => exact Or.inr rfl
  | datagram | segment => exact Or.inl rfl
  | refusal guest absent segment =>
      exact Or.inr (posts_segmentHappenings_of_none absent sender guest segment)

theorem isAnswer_spread {sender : NicId} {frame : Bytes} {request : Request}
    {answer : List (NicId × Bytes)}
    (answers : IsAnswer (world.spread sender frame).gateway sender request answer) :
    IsAnswer world.gateway sender request answer := by
  cases answers with
  | hardwareAddress | ownAddress | echo =>
      rw [spread_subnet]
      constructor
  | datagram => exact .datagram ..
  | segment => exact .segment ..
  | refusal guest absent segment length =>
      rw [spread_streams] at absent
      exact .refusal guest absent segment length

/-- A frame leaves its copies, what its stream sends and its answer. -/
theorem transmit_leaves (sound : world.Sound) (sender : NicId) (frame : Bytes) :
    ∃ calls answer, Leaves calls (world.gateway.copies sender frame ++
        ((world.transmitHappenings sender frame).flatMap Happening.posts ++ answer)) world
        (world.transmit sender frame) ∧
      world.gateway.IsAnsweredWith sender frame answer ∧
      (answer = [] ∨
        (world.transmitHappenings sender frame).flatMap Happening.posts = []) := by
  -- The request is served in the world in which the frame was spread already.
  have soundSpread := sound.steps (steps_spread world sender frame)
  cases asked : Request.asked world.gateway.subnet frame with
  | none =>
      obtain ⟨calls, copied, _⟩ := copies_of_not_asked sender asked
      rw [transmitHappenings_of_not_asked asked]
      refine ⟨calls, [], ?_, ?_, Or.inl rfl⟩
      · rw [List.flatMap_nil, List.append_nil, List.append_nil]
        exact copied
      · rw [Gateway.IsAnsweredWith, asked]
        rfl
  | some request =>
      obtain ⟨first, copied, _⟩ := copies_of_asked sender asked
      obtain ⟨second, answer, leaves, answers, _⟩ := serve_leaves soundSpread sender request
      rw [transmit_of_asked asked, transmitHappenings_of_asked asked]
      refine ⟨first ++ second, answer, copied.trans leaves, ?_, answer_or_sent answers⟩
      rw [Gateway.IsAnsweredWith, asked]
      exact isAnswer_spread answers

/-- What streams send is queued as it happens.  On a frame it stands behind the copies of
the frame, where otherwise an answer to it may be, in a round between the replies of the
mappings and what comes through the relay; and nothing else is queued. -/
structure QueuesAsItHappens (world : World) : Prop where
  onFrame : ∀ sender frame, ∃ calls answer, Leaves calls (world.gateway.copies sender frame ++
      ((world.transmitHappenings sender frame).flatMap Happening.posts ++ answer)) world
      (world.transmit sender frame) ∧
    world.gateway.IsAnsweredWith sender frame answer ∧
    (answer = [] ∨ (world.transmitHappenings sender frame).flatMap Happening.posts = [])
  inRound : ∃ calls, Leaves calls (world.gateway.replyPostsOn calls ++
    world.pollHappenings.flatMap Happening.posts ++ world.gateway.relayPostsOn calls)
    world world.poll

theorem Sound.queuesAsItHappens (sound : world.Sound) : world.QueuesAsItHappens where
  onFrame := transmit_leaves sound
  inRound := by
    obtain ⟨calls, leaves, _⟩ := poll_leaves sound
    exact ⟨calls, leaves⟩

/-! ## Datagrams -/

/-- The gateway carries the payload of a frame: a guest sends it as a datagram of a flow
that is carried. -/
structure Carried (world : World) (frame : Bytes) (flow : Flow) (payload : Bytes) : Prop where
  atLeast : Request.shortestFrame ≤ frame.length
  atMost : frame.length ≤ Request.longestFrame
  brought : ∃ guest, BringsDatagram world.gateway.subnet frame guest flow payload
  carries : world.Carries flow

theorem carried_iff {frame : Bytes} {flow : Flow} {payload : Bytes} :
    world.Carried frame flow payload ↔ (∃ guest,
      Request.asked world.gateway.subnet frame = some (.datagram guest flow payload)) ∧
        world.Carries flow := by
  constructor
  · rintro ⟨atLeast, atMost, ⟨guest, brings⟩, carries⟩
    have request := (ofFrame_datagram_iff ..).mpr brings
    exact ⟨⟨guest, asked_eq_some_iff.mpr ⟨atLeast, atMost, request⟩⟩, carries⟩
  · rintro ⟨⟨guest, asked⟩, carries⟩
    obtain ⟨atLeast, atMost, request⟩ := asked_eq_some_iff.mp asked
    exact ⟨atLeast, atMost, ⟨guest, (ofFrame_datagram_iff ..).mp request⟩, carries⟩

theorem carries_spread_iff (world : World) (sender : NicId) (frame : Bytes) (flow : Flow) :
    (world.spread sender frame).Carries flow ↔ world.Carries flow := by
  have open_iff := world.canOpen_spread_iff sender frame
  have canMap : (world.spread sender frame).CanMap flow ↔ world.CanMap flow := by
    constructor
    · rintro ⟨socket, target⟩
      rw [spread_subnet, spread_nameService] at target
      exact ⟨open_iff.mp socket, target⟩
    · rintro ⟨socket, target⟩
      refine ⟨open_iff.mpr socket, ?_⟩
      rw [spread_subnet, spread_nameService]
      exact target
  rw [Carries, Carries, spread_mappings, canMap]

def socketsThrough (before after : World) : List SocketId :=
  before.gateway.mappingSockets ++ after.gateway.mappingSockets

theorem passes_spares (sound : world.Sound) {frame : Bytes} {calls : List Call}
    (passes : ∀ call ∈ calls, ∃ relay, world.gateway.relay = some relay ∧
      relay.Passes frame call) : Spare world.gateway.mappingSockets calls := by
  intro call member socket inside same
  obtain ⟨relay, here, peer, _, result, rfl⟩ := passes call member
  obtain ⟨row, there, rfl⟩ := List.mem_map.mp inside
  exact sound.mapping_ne_relay there here (Option.some.inj same).symm

/-- A frame that brings nothing to carry touches neither a mapping nor its socket. -/
theorem transmit_spares (sound : world.Sound) (sender : NicId) {frame : Bytes}
    (idle : ∀ flow payload, ¬ world.Carried frame flow payload) :
    (world.transmit sender frame).gateway.mappings = world.gateway.mappings ∧
      ∃ calls, Kernel.Makes calls world.kernel (world.transmit sender frame).kernel ∧
        Spare world.gateway.mappingSockets calls := by
  cases asked : Request.asked world.gateway.subnet frame with
  | none =>
      obtain ⟨calls, copied, passes⟩ := copies_of_not_asked sender asked
      refine ⟨?_, calls, copied.makes, passes_spares sound passes⟩
      rcases transmit_of_not_asked asked with same | same
      · rw [same]
      · rw [same, spread_mappings]
  | some request =>
      have soundSpread := sound.steps (steps_spread world sender frame)
      obtain ⟨first, copied, passes⟩ := copies_of_asked sender asked
      obtain ⟨second, posts, leaves, _, outcome⟩ := serve_leaves soundSpread sender request
      rw [transmit_of_asked asked]
      rcases outcome with ⟨spare, mappings, _⟩ | ⟨guest, flow, payload, _, rfl, carries, _⟩
      · refine ⟨mappings.trans (spread_mappings ..), first ++ second,
          copied.makes.trans leaves.makes, (passes_spares sound passes).append ?_⟩
        rw [← Gateway.mappingSockets_of_same (spread_mappings world sender frame)]
        exact spare.mono fun _ => List.mem_append_left _
      · exact absurd (carried_iff.mpr ⟨⟨guest, asked⟩, (carries_spread_iff ..).mp carries⟩)
          (idle flow payload)

section Sends

variable {after : World} {sender : NicId} {frame : Bytes} {first second : List Call}

theorem sentFrom_transmit (sound : world.Sound) (soundAfter : after.Sound)
    (passes : ∀ call ∈ first, ∃ relay, world.gateway.relay = some relay ∧
      relay.Passes frame call)
    {posts : List (NicId × Bytes)} (leaves : Leaves (first ++ second) posts world after) :
    sentFrom (world.socketsThrough after) (after.kernel.callsSince world.kernel) =
      sentFrom (world.socketsThrough after) second := by
  have passesAfter : ∀ call ∈ first, ∃ relay, after.gateway.relay = some relay ∧
      relay.Passes frame call := by
    rw [leaves.relay]
    exact passes
  have spare : Spare (world.socketsThrough after) first := fun call member socket inside =>
    (List.mem_append.mp inside).elim (passes_spares sound passes call member socket)
      (passes_spares soundAfter passesAfter call member socket)
  rw [leaves.makes.callsSince_eq, sentFrom_append, sentFrom_of_spare spare, List.nil_append]

end Sends

/-- A frame sends nothing on the sockets of mappings, or its datagram once. -/
theorem transmit_sends (sound : world.Sound) (sender : NicId) (frame : Bytes) :
    let after := world.transmit sender frame
    let sends := sentFrom (world.socketsThrough after) (after.kernel.callsSince world.kernel)
    ((∀ flow payload, ¬ world.Carried frame flow payload) ∧ sends = []) ∨
      ∃ flow payload mapping result, world.Carried frame flow payload ∧
        (∀ other bytes, world.Carried frame other bytes → other = flow ∧ bytes = payload) ∧
        after.gateway.mappings.get? flow = some mapping ∧
        (∀ old, world.gateway.mappings.get? flow = some old → mapping = old) ∧
        sends = [.sendTo mapping.socket mapping.target payload result] := by
  intro after sends
  by_cases brings : ∃ flow payload, world.Carried frame flow payload
  · right
    obtain ⟨flow, payload, carried⟩ := brings
    obtain ⟨⟨guest, asked⟩, carries⟩ := carried_iff.mp carried
    have soundAfter : after.Sound := sound.steps (steps_transmit world sender frame)
    have soundSpread := sound.steps (steps_spread world sender frame)
    have same : after = (world.spread sender frame).onDatagram sender guest flow payload :=
      transmit_of_asked asked
    obtain ⟨first, copied, passes⟩ := copies_of_asked sender asked
    obtain ⟨second, leaves, ⟨cannot, _⟩ | ⟨_, mapping, forwards⟩⟩ :=
      onDatagram_leaves soundSpread sender guest flow payload
    · exact absurd ((carries_spread_iff ..).mpr carries) cannot
    · rw [← same] at leaves forwards
      obtain ⟨result, once⟩ := forwards.once
      refine ⟨flow, payload, mapping, result, carried, ?_, forwards.mapped, ?_, ?_⟩
      · intro other bytes carriedToo
        obtain ⟨⟨_, askedToo⟩, _⟩ := carried_iff.mp carriedToo
        rw [asked] at askedToo
        cases askedToo
        exact ⟨rfl, rfl⟩
      · intro old there
        exact forwards.kept old (by rw [spread_mappings]; exact there)
      · refine (sentFrom_transmit sound soundAfter passes (copied.trans leaves)).trans
          (once _ (List.mem_append_right _ ?_))
        exact Gateway.mem_mappingSockets (FlowTable.mem_rows_of_get? forwards.mapped)
  · left
    have idle : ∀ flow payload, ¬ world.Carried frame flow payload :=
      fun flow payload carried => brings ⟨flow, payload, carried⟩
    obtain ⟨mappings, calls, made, spare⟩ := transmit_spares sound sender idle
    refine ⟨idle, ?_⟩
    have through : Spare (world.socketsThrough after) calls := by
      rw [socketsThrough, Gateway.mappingSockets_of_same mappings]
      exact spare.mono fun socket inside => (List.mem_append.mp inside).elim id id
    exact (congrArg (sentFrom _) made.callsSince_eq).trans (sentFrom_of_spare through)

end World

end Masquerade
