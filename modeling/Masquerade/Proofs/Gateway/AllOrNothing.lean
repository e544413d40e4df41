import Masquerade.Proofs.Gateway.Refusals
import Masquerade.Proofs.Gateway.Streams
import Masquerade.Proofs.Session.Drawn

/-!
# Streams are opened as a whole or not at all

A request for a stream that is not there is granted just if the table has room, it does not
go to the gateway itself, and the kernel gives a socket and connects it.  Then all of the
stream is there.  Where anything is missing, the guest gets a reset and nothing else stays.
No stream makes room for another, and the table never holds more than it may.
-/

set_option autoImplicit false

namespace Masquerade

open Kernel (Makes)

theorem Kernel.drawRandom_randoms_congr {kernel other : Kernel}
    (same : kernel.randoms = other.randoms) :
    kernel.drawRandom.2.randoms = other.drawRandom.2.randoms := by
  unfold drawRandom
  rw [same]
  split
  · exact same
  · rfl

namespace World

theorem relayed_randoms (world : World) (frame : Bytes) :
    (world.relayed frame).randoms = world.kernel.randoms :=
  world.relayed_keeps frame Kernel.randoms fun kernel _ _ _ => kernel.answer_randoms .sendto

/-! ## What a stream needs -/

/-- All that the stream of a flow needs to be opened. -/
structure CanOpenStream (world : World) (flow : Flow) : Prop where
  room : world.gateway.streams.size < world.gateway.streams.capacity
  outward : flow.outside.address ≠ world.gateway.subnet.gateway
  connects : world.kernel.CanConnect

variable {world : World} {flow : Flow}

theorem canOpenStream_spread_iff (world : World) (sender : NicId) (frame : Bytes) (flow : Flow) :
    (world.spread sender frame).CanOpenStream flow ↔ world.CanOpenStream flow := by
  have next : ∀ kind, kind ≠ CallKind.sendto →
      (world.spread sender frame).kernel.next kind = world.kernel.next kind := by
    intro kind other
    rw [spread_kernel_eq]
    exact world.relayed_keeps frame (Kernel.next · kind) fun kernel socket target bytes =>
      kernel.next_sendTo socket target bytes kind other.symm
  have connects := Kernel.canConnect_congr next
  constructor
  · rintro ⟨room, outward, can⟩
    rw [spread_streams] at room
    rw [spread_subnet] at outward
    exact ⟨room, outward, connects.mp can⟩
  · rintro ⟨room, outward, can⟩
    refine ⟨?_, ?_, connects.mpr can⟩
    · rwa [spread_streams]
    · rwa [spread_subnet]

theorem refused_iff (world : World) (flow : Flow) :
    (world.gateway.streams.isFull = true ∨
        flow.outside.address = world.gateway.subnet.gateway) ↔
      world.gateway.streams.capacity ≤ world.gateway.streams.size ∨
        flow.outside.address = world.gateway.subnet.gateway := by
  rw [FlowTable.isFull, decide_eq_true_eq]

theorem openStream_opened (absent : world.gateway.streams.get? flow = none)
    (can : world.CanOpenStream flow) (sender : NicId) (guest : Mac) (segment : Segment) :
    ∃ socket kernel, world.kernel.openStream flow.outside = (.ok socket, kernel) ∧
      world.openStream sender guest flow segment =
        (world.withKernel kernel.drawRandom.2).withStreams
          { world.gateway.streams with
            rows := (flow, Stream.opening sender guest flow socket segment kernel.drawRandom.1) ::
              world.gateway.streams.rows } := by
  obtain ⟨room, outward, connects⟩ := can
  obtain ⟨socket, kernel, opened⟩ := (Kernel.openStream_isOk_iff _ flow.outside).mpr connects
  have granted : ¬ (world.gateway.streams.isFull = true ∨
      flow.outside.address = world.gateway.subnet.gateway) := by
    rw [refused_iff, not_or, Nat.not_le]
    exact ⟨room, outward⟩
  have free : world.gateway.streams.isFull = false :=
    Bool.eq_false_iff.mpr fun full => granted (Or.inl full)
  refine ⟨socket, kernel, opened, ?_⟩
  simp only [openStream, if_neg granted, opened, FlowTable.insert?_of_room _ absent free]
  rfl

theorem openStream_refused (cannot : ¬ world.CanOpenStream flow) (sender : NicId) (guest : Mac)
    (segment : Segment) :
    ∃ reset kernel,
      world.openStream sender guest flow segment = (world.withKernel kernel).post sender [reset] ∧
      IsReset guest flow (if segment.has .ack then segment.header.acknowledgment else 0)
        (segment.header.sequence + UInt32.ofNat segment.marks) reset ∧
      if world.gateway.streams.capacity ≤ world.gateway.streams.size ∨
          flow.outside.address = world.gateway.subnet.gateway then kernel = world.kernel
      else ∃ errno, world.kernel.openStream flow.outside = (.error errno, kernel) := by
  have refusal : ∀ kernel, ∃ reset,
      (world.withKernel kernel).refuse sender guest flow segment 0 =
        (world.withKernel kernel).post sender [reset] ∧
      IsReset guest flow (if segment.has .ack then segment.header.acknowledgment else 0)
        (segment.header.sequence + UInt32.ofNat segment.marks) reset := by
    intro kernel
    have refused := (world.withKernel kernel).refuse_posts sender guest flow segment 0
    rwa [Nat.zero_add] at refused
  by_cases refused : world.gateway.streams.isFull = true ∨
      flow.outside.address = world.gateway.subnet.gateway
  · obtain ⟨reset, posts, isReset⟩ := refusal world.kernel
    refine ⟨reset, world.kernel, ?_, isReset, ?_⟩
    · simp only [openStream, if_pos refused]
      exact posts
    · rw [if_pos ((refused_iff ..).mp refused)]
  · cases opened : world.kernel.openStream flow.outside with
    | mk result kernel =>
        cases result with
        | ok socket =>
            rw [refused_iff, not_or, Nat.not_le] at refused
            have connects := (Kernel.openStream_isOk_iff _ flow.outside).mp ⟨socket, kernel, opened⟩
            exact absurd ⟨refused.1, refused.2, connects⟩ cannot
        | error errno =>
            obtain ⟨reset, posts, isReset⟩ := refusal kernel
            refine ⟨reset, kernel, ?_, isReset, ?_⟩
            · simp only [openStream, if_neg refused, opened]
              exact posts
            · rw [refused_iff] at refused
              rw [if_neg refused]
              exact ⟨errno, rfl⟩

theorem transmit_of_request {frame : Bytes} {guest : Mac} {segment : Segment} (sender : NicId)
    (submits : Submits world.gateway.subnet frame guest flow segment)
    (opens : segment.opens = true) (absent : world.gateway.streams.get? flow = none) :
    world.transmit sender frame =
        (world.spread sender frame).openStream sender guest flow segment ∧
      PassesOn sender frame [] world.gateway.streams world (world.spread sender frame) ∧
      (world.spread sender frame).gateway.streams.get? flow = none := by
  obtain ⟨handled, passes⟩ := transmit_of_submits sender submits
  rw [← world.spread_streams sender frame] at absent
  refine ⟨?_, passes, absent⟩
  simp only [handled, onSegment, absent, opens, if_true]

/-! ## What the kernel makes of it -/

theorem relayed_opened {frame : Bytes} {target : Endpoint} {socket : SocketId} {kernel : Kernel}
    (sound : world.Sound)
    (opened : (world.relayed frame).openStream target = (.ok socket, kernel)) :
    socket = world.kernel.sockets.length ∧ kernel.randoms = world.kernel.randoms ∧
      kernel.Held (socket :: world.gateway.holders) ∧
      ∃ relayed result, Makes (relayed ++ [.socket .stream (.ok socket),
          .connect socket target result]) world.kernel kernel ∧
        world.gateway.Relays frame relayed ∧
        (result = .ok () ∨ result = .error .inProgress) := by
  obtain ⟨fresh, result, made, goesOn⟩ := Kernel.openStream_ok opened
  have randoms := (world.relayed frame).openStream_randoms target
  rw [opened] at randoms
  obtain ⟨relayed, first, relays⟩ := world.makes_relaying frame
  have given := (world.held_relayed frame sound.held).given fresh made (by simp [Call.keepsSockets])
  rw [world.length_sockets_relayed] at fresh
  exact ⟨fresh, randoms.trans (world.relayed_randoms frame), given,
    relayed, result, first.trans made, relays, goesOn⟩

theorem relayed_refused {frame : Bytes} {target : Endpoint} {kernel : Kernel}
    (sound : world.Sound)
    (refused : kernel = world.relayed frame ∨
      ∃ errno, (world.relayed frame).openStream target = (.error errno, kernel)) :
    kernel.randoms = world.kernel.randoms ∧ kernel.Held world.gateway.holders ∧
      ∃ relayed own, Makes (relayed ++ own) world.kernel kernel ∧
        world.gateway.Relays frame relayed ∧
        (own = [] ∨ Call.Fruitless world.kernel.sockets.length own) := by
  obtain ⟨relayed, first, relays⟩ := world.makes_relaying frame
  have held := world.held_relayed frame sound.held
  rcases refused with rfl | ⟨errno, failed⟩
  · refine ⟨world.relayed_randoms frame, held, relayed, [], ?_, relays, Or.inl rfl⟩
    rwa [List.append_nil]
  · have randoms := (world.relayed frame).openStream_randoms target
    rw [failed] at randoms
    obtain ⟨own, made, fruitless⟩ := Kernel.openStream_error failed
    have still := held.missed made fruitless
    rw [world.length_sockets_relayed] at fruitless
    exact ⟨randoms.trans (world.relayed_randoms frame), still,
      relayed, own, first.trans made, relays, Or.inr fruitless⟩

/-! ## All -/

/-- Besides being passed on, the frame has opened a stream: this one stands in front of all
that were there, and one new socket is open. -/
structure GrantsStream (sender : NicId) (frame : Bytes) (guest : Mac) (flow : Flow)
    (segment : Segment) (stream : Stream) (before after : World) : Prop where
  begins : stream = Stream.opening sender guest flow before.kernel.sockets.length segment
    before.kernel.drawRandom.1
  gateway : after.gateway = before.gateway.passing sender frame []
    { before.gateway.streams with rows := (flow, stream) :: before.gateway.streams.rows }
  drawn : after.kernel.randoms = before.kernel.drawRandom.2.randoms
  sockets : ∀ socket, after.kernel.IsOpen socket ↔
    socket = stream.socket ∨ before.kernel.IsOpen socket
  fresh : ¬ before.kernel.IsOpen stream.socket
  calls : ∃ relayed result, Makes (relayed ++ [.socket .stream (.ok stream.socket),
      .connect stream.socket flow.outside result]) before.kernel after.kernel ∧
    before.gateway.Relays frame relayed ∧ (result = .ok () ∨ result = .error .inProgress)

theorem transmit_grants {frame : Bytes} {guest : Mac} {segment : Segment} (sound : world.Sound)
    (sender : NicId) (submits : Submits world.gateway.subnet frame guest flow segment)
    (opens : segment.opens = true) (absent : world.gateway.streams.get? flow = none)
    (can : world.CanOpenStream flow) :
    ∃ stream, GrantsStream sender frame guest flow segment stream world
      (world.transmit sender frame) := by
  obtain ⟨run, passes, missing⟩ := transmit_of_request sender submits opens absent
  obtain ⟨socket, kernel, opened, granted⟩ := openStream_opened missing
    ((world.canOpenStream_spread_iff sender frame flow).mpr can) sender guest segment
  rw [run, granted]
  rw [passes.kernel] at opened
  obtain ⟨fresh, same, given, calls⟩ := relayed_opened sound opened
  refine ⟨Stream.opening sender guest flow socket segment kernel.drawRandom.1,
    { begins := ?_, gateway := ?_, drawn := ?_, sockets := ?_, fresh := ?_, calls := ?_ }⟩
  · rw [Kernel.drawRandom_congr same, fresh]
  · simp only [withKernel, withStreams, passes.gateway]
    rfl
  · exact Kernel.drawRandom_randoms_congr same
  · intro other
    have drawn := given.kept kernel.makes_drawRandom (by simp)
    rw [sound.held.isOpen_iff_mem, ← List.mem_cons]
    exact drawn.isOpen_iff_mem other
  · intro isOpen
    exact Nat.ne_of_lt (Kernel.isOpen_lt isOpen) fresh
  · obtain ⟨relayed, result, made, relays, goesOn⟩ := calls
    have whole := made.trans kernel.makes_drawRandom
    rw [List.append_nil] at whole
    exact ⟨relayed, result, whole, relays, goesOn⟩

/-! ## Nothing -/

/-- Besides being passed on, the frame was answered with a reset: no stream, no open socket
and no random number is gone or new. -/
structure RefusesStream (sender : NicId) (frame reset : Bytes) (before after : World) : Prop where
  gateway : after.gateway =
    before.gateway.passing sender frame [(sender, reset)] before.gateway.streams
  drawn : after.kernel.randoms = before.kernel.randoms
  sockets : ∀ socket, after.kernel.IsOpen socket ↔ before.kernel.IsOpen socket
  calls : ∃ relayed own, Makes (relayed ++ own) before.kernel after.kernel ∧
    before.gateway.Relays frame relayed ∧
    (own = [] ∨ Call.Fruitless before.kernel.sockets.length own)

theorem transmit_refuses {frame : Bytes} {guest : Mac} {segment : Segment} (sound : world.Sound)
    (sender : NicId) (submits : Submits world.gateway.subnet frame guest flow segment)
    (opens : segment.opens = true) (absent : world.gateway.streams.get? flow = none)
    (cannot : ¬ world.CanOpenStream flow) :
    ∃ reset, RefusesStream sender frame reset world (world.transmit sender frame) ∧
      IsReset guest flow 0 (segment.header.sequence + UInt32.ofNat segment.marks) reset ∧
      (world.gateway.streams.capacity ≤ world.gateway.streams.size ∨
          flow.outside.address = world.gateway.subnet.gateway →
        PassesOn sender frame [(sender, reset)] world.gateway.streams world
          (world.transmit sender frame)) := by
  obtain ⟨run, passes, -⟩ := transmit_of_request sender submits opens absent
  rw [← canOpenStream_spread_iff world sender frame] at cannot
  obtain ⟨reset, kernel, refused, isReset, ends⟩ := openStream_refused cannot sender guest segment
  rw [((Segment.opens_iff segment).mp opens).2.1] at isReset
  rw [spread_streams, spread_subnet, passes.kernel] at ends
  rw [run, refused]
  have answered := passes.post sender reset
  refine ⟨reset, ?_, isReset, fun atOnce => ?_⟩
  · have nothing : kernel = world.relayed frame ∨
        ∃ errno, (world.relayed frame).openStream flow.outside = (.error errno, kernel) := by
      split at ends
      · exact Or.inl ends
      · exact Or.inr ends
    obtain ⟨randoms, still, calls⟩ := relayed_refused sound nothing
    refine ⟨answered.gateway, randoms, fun socket => ?_, calls⟩
    rw [sound.held.isOpen_iff_mem]
    exact still.isOpen_iff_mem socket
  · rw [if_pos atOnce, ← passes.kernel] at ends
    rw [ends]
    exact answered

/-! ## The table -/

theorem Step.capacity {happenings : List Happening} {after : World}
    (step : Step world happenings after) :
    after.gateway.streams.capacity = world.gateway.streams.capacity := by
  cases step with
  | aside | looked | relayed | missed | mappingUsed | mappingNumbered | mappingTouched
  | mappingAdded | mappingReplaced | streamTurned | streamEnded => rfl
  | streamAdded _ _ _ _ put => exact FlowTable.capacity_of_insert? put
  | streamTouched flow => exact FlowTable.capacity_touch ..

theorem Step.withinCapacity {happenings : List Happening} {after : World} (sound : world.Sound)
    (step : Step world happenings after) (within : world.gateway.streams.WithinCapacity) :
    after.gateway.streams.WithinCapacity := by
  cases step with
  | aside | looked | relayed | missed | mappingUsed | mappingNumbered | mappingTouched
  | mappingAdded | mappingReplaced => exact within
  | streamAdded _ _ _ _ put => exact .insert? put
  | streamTurned => exact within.set
  | streamTouched flow => exact within.touch sound.streams.distinct
  | streamEnded => exact within.remove

theorem Steps.capacity {happenings : List Happening} {after : World}
    (steps : Steps world happenings after) :
    after.gateway.streams.capacity = world.gateway.streams.capacity := by
  induction steps with
  | refl => rfl
  | more step _ ih => exact ih.trans step.capacity

theorem Steps.withinCapacity {happenings : List Happening} {after : World}
    (sound : world.Sound) (steps : Steps world happenings after)
    (within : world.gateway.streams.WithinCapacity) :
    after.gateway.streams.WithinCapacity := by
  induction steps with
  | refl => exact within
  | more step _ ih => exact ih (sound.step step) (step.withinCapacity sound within)

/-- Writing happenings down removes a stream by a last turn only. -/
theorem exists_ends_of_foldl_write (happenings : List Happening) (stream : Stream)
    (gone : happenings.foldl (Happening.write flow) (some stream) = none) :
    ∃ happening ∈ happenings, happening.stream.flow = flow ∧ happening.ends = true := by
  induction happenings generalizing stream with
  | nil => cases gone
  | cons happening rest ih =>
      rw [List.foldl_cons] at gone
      cases written : Happening.write flow (some stream) happening with
      | none =>
          rw [Happening.write] at written
          split at written
          · rename_i own
            rw [Happening.remains] at written
            split at written
            · rename_i ends
              exact ⟨happening, List.mem_cons_self .., own, ends⟩
            · cases written
          · cases written
      | some still =>
          rw [written] at gone
          obtain ⟨other, member, own, ends⟩ := ih still gone
          exact ⟨other, List.mem_cons_of_mem _ member, own, ends⟩

/-- A stream that is gone has had its last turn; it has not made room for another. -/
theorem Steps.ends_of_gone {happenings : List Happening} {after : World} {stream : Stream}
    (sound : world.Sound) (steps : Steps world happenings after)
    (found : world.gateway.streams.get? flow = some stream)
    (gone : after.gateway.streams.get? flow = none) :
    ∃ happening ∈ happenings, happening.stream.flow = flow ∧ happening.ends = true := by
  rw [steps.get?_streams sound, found] at gone
  exact exists_ends_of_foldl_write happenings stream gone

end World

end Masquerade
