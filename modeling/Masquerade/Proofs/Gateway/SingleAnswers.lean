import Masquerade.Proofs.Gateway.Boundary
import Masquerade.Proofs.Gateway.Made
import Masquerade.Proofs.Stream.OneSegment

/-!
# No more than one answer

For a frame the gateway makes one frame at most, however many copies there are of it, and it
offers bytes once at most, however many peers the relay has.  A segment for a stream is
answered just once if anything of it was accepted, and the answer acknowledges all of that.
-/

set_option autoImplicit false

namespace Masquerade

open Kernel (Makes OffersAtMost)
open Packet (WireError segmentIn)

/-- Whether a call offers bytes of a guest, on any socket but that of the relay. -/
def Gateway.isProxiedOffer (gateway : Gateway) (call : Call) : Bool :=
  call.isOffer && decide (call.socket? ≠ gateway.relay.map Relay.socket)

/-! ## Offers -/

namespace World

section Offers

variable (world : World) (flow : Flow) (sender : NicId) (guestMac : Mac)

theorem offersAtMost_dropped {most : Nat} {kernel : Kernel} {world : World}
    (offered : OffersAtMost most kernel world.kernel) (flow : Flow) :
    OffersAtMost most kernel (world.dropStream flow).kernel := by
  unfold dropStream
  split
  · exact offered
  · exact offered.trans (.close ..)

theorem openMapping_offers :
    OffersAtMost 0 world.kernel (world.openMapping sender guestMac flow).kernel := by
  have opening := OffersAtMost.openDatagram world.kernel
  generalize leads : world.openMapping sender guestMac flow = after
  cases openMapping_outcome leads with
  | aimless => exact .refl 0 world.kernel
  | failed missed => rwa [missed] at opening
  | added _ opened => rwa [opened] at opening
  | replaced _ opened =>
      rw [opened] at opening
      exact opening.trans (.close ..)

theorem sendDatagram_offers (payload : Bytes) :
    OffersAtMost 1 world.kernel (world.sendDatagram flow payload).kernel := by
  unfold sendDatagram
  split
  · exact .refl 1 world.kernel
  · exact .sendTo ..

theorem onDatagram_offers (payload : Bytes) :
    OffersAtMost 1 world.kernel (world.onDatagram sender guestMac flow payload).kernel := by
  unfold onDatagram
  split
  · exact world.sendDatagram_offers flow payload
  · exact (world.openMapping_offers flow sender guestMac).trans (sendDatagram_offers _ flow payload)

theorem openStream_offers (segment : Segment) :
    OffersAtMost 0 world.kernel (world.openStream sender guestMac flow segment).kernel := by
  have opening := OffersAtMost.openStream world.kernel flow.outside
  generalize leads : world.openStream sender guestMac flow segment = after
  cases openStream_outcome leads with
  | declined =>
      rw [refuse, postBuilt_kernel]
      exact .refl 0 world.kernel
  | failed _ missed =>
      rw [missed] at opening
      rw [refuse, postBuilt_kernel]
      exact opening
  | @taken socket kernel _ opened =>
      rw [opened] at opening
      exact (opening.trans (.of_makes_nothing kernel.makes_drawRandom)).trans (.close _ socket)
  | @added _ kernel _ _ opened =>
      rw [opened] at opening
      exact opening.trans (.of_makes_nothing kernel.makes_drawRandom)

theorem continueStream_offers (stream : Stream) (segment : Segment) :
    OffersAtMost 1 world.kernel (world.continueStream flow stream segment).kernel := by
  obtain ⟨calls, made, move⟩ :=
    stream.onSegment_move world.gateway.clock segment world.kernel
  have turned : OffersAtMost 1 world.kernel
      (stream.onSegment world.gateway.clock segment world.kernel).kernel :=
    ⟨calls, made, move.offers_le⟩
  unfold continueStream
  dsimp only
  split
  · exact offersAtMost_dropped turned flow
  · exact turned

theorem onSegment_offers (segment : Segment) :
    OffersAtMost 1 world.kernel (world.onSegment sender guestMac flow segment).kernel := by
  generalize leads : world.onSegment sender guestMac flow segment = after
  cases onSegment_outcome leads with
  | repeated | passedOver => exact .refl 1 world.kernel
  | continued => exact world.continueStream_offers ..
  | opened => exact (world.openStream_offers flow sender guestMac segment).trans (.refl 1 _)
  | refused =>
      rw [refuse, postBuilt_kernel]
      exact .refl 1 world.kernel

theorem serve_offers (request : Request) :
    OffersAtMost 1 world.kernel (world.serve sender request).kernel := by
  cases request with
  | hardwareAddress | ownAddress => exact .refl 1 world.kernel
  | echo =>
      rw [serve, postBuilt_kernel]
      exact .refl 1 world.kernel
  | datagram guest flow payload => exact world.onDatagram_offers flow sender guest payload
  | segment guest flow segment => exact world.onSegment_offers flow sender guest segment

end Offers

variable {world : World} {sender : NicId} {frame : Bytes}

theorem countP_isProxiedOffer_of_passed {calls : List Call}
    (passed : ∀ call ∈ calls, ∃ relay, world.gateway.relay = some relay ∧
      relay.Passes frame call) : calls.countP world.gateway.isProxiedOffer = 0 := by
  refine List.countP_eq_zero.mpr fun call member => ?_
  obtain ⟨relay, here, peer, _, result, rfl⟩ := passed call member
  simp [Gateway.isProxiedOffer, Call.socket?, here]

theorem transmit_offers_once (world : World) (sender : NicId) (frame : Bytes) :
    ((world.transmit sender frame).kernel.callsSince world.kernel).countP
      world.gateway.isProxiedOffer ≤ 1 := by
  cases asked : Request.asked world.gateway.subnet frame with
  | none =>
      obtain ⟨passed, copied, passes⟩ := copies_of_not_asked sender asked
      rw [copied.makes.callsSince_eq, countP_isProxiedOffer_of_passed passes]
      exact Nat.zero_le 1
  | some request =>
      obtain ⟨passed, copied, passes⟩ := copies_of_asked sender asked
      obtain ⟨calls, made, few⟩ := (world.spread sender frame).serve_offers sender request
      rw [transmit_of_asked asked, (copied.makes.trans made).callsSince_eq, List.countP_append,
        countP_isProxiedOffer_of_passed passes, Nat.zero_add]
      have proxied : ∀ call ∈ calls, world.gateway.isProxiedOffer call = true →
          call.isOffer = true := fun _ _ offer => (Bool.and_eq_true_iff.mp offer).1
      exact Nat.le_trans (List.countP_mono_left proxied) few

end World

/-! ## Frames -/

theorem length_builtPosts_le (nic : NicId) (frame : Except WireError Bytes) :
    (builtPosts nic frame).length ≤ 1 := by
  cases frame with
  | ok frame => exact Nat.le_refl 1
  | error fault => exact Nat.zero_le 1

theorem IsAnswer.length_le {gateway : Gateway} {sender : NicId} {request : Request}
    {posts : List (NicId × Bytes)} (answer : IsAnswer gateway sender request posts) :
    posts.length ≤ 1 := by
  cases answer with
  | hardwareAddress | ownAddress => exact Nat.le_refl 1
  | datagram | segment => exact Nat.zero_le 1
  | echo | refusal => exact length_builtPosts_le ..

theorem Happening.length_posts_le {stream : Stream}
    (fits : stream.unacknowledged.length ≤ Stream.mostRead) (cause : Stream.Cause) (now : Nat)
    (start : Kernel) : (Happening.posts (.turned cause now stream start)).length ≤ 1 := by
  obtain ⟨_, _, move⟩ := stream.turn_move now start cause
  rw [World.turned_posts, List.length_map]
  exact move.length_frames_le fits

/-- What a stream makes of a segment after these calls.  The last mark is accepted if all bytes
before it were taken, and then the end is passed on.  If nothing was accepted there may be no
answer; in any case there is but one, for the owner of the stream, and it acknowledges all
that was accepted. -/
structure Stream.Answers (stream : Stream) (segment : Segment) (calls : List Call)
    (made : List (NicId × Bytes)) : Prop where
  fin : calls.countP Call.isShutdown =
    ((Cause.segment segment).acceptsFin stream (calls.flatMap Call.taken)).toNat
  answer : (made = [] ∧ acceptedIn calls = 0) ∨
    ∃ frame answer, made = [(stream.owner, frame)] ∧
      segmentIn frame = some (stream.flow.reversed, answer) ∧ answer.has .ack = true ∧
      answer.header.acknowledgment = stream.guestNext + UInt32.ofNat (acceptedIn calls)

theorem Stream.Answers.of_turn {stream : Stream}
    (fits : stream.unacknowledged.length ≤ Stream.mostRead) (segment : Segment) (now : Nat)
    {start : Kernel} {calls : List Call}
    (made : Makes calls start (stream.onSegment now segment start).kernel) :
    stream.Answers segment calls
      (Happening.posts (.turned (.segment segment) now stream start)) := by
  obtain ⟨others, madeOthers, move⟩ := stream.onSegment_move now segment start
  obtain rfl : others = calls := madeOthers.callsSince_eq.symm.trans made.callsSince_eq
  refine ⟨move.forwards.countP_shutdown, ?_⟩
  rw [World.turned_posts]
  rcases move.answers fits with ⟨frame, one, answer, read, marked, acknowledges, _⟩ | ⟨none, idle⟩
  · refine Or.inr ⟨frame, answer, ?_, ?_, marked, ?_⟩
    · exact congrArg (List.map (stream.owner, ·)) one
    · rw [read, move.parties.flow]
    · rw [acknowledges, move.forwards.guestNext]
  · exact Or.inl ⟨congrArg (List.map (stream.owner, ·)) none, idle⟩

theorem Stream.Answers.within {stream : Stream} {segment : Segment} {first calls last : List Call}
    {made : List (NicId × Bytes)} (answers : stream.Answers segment calls made)
    (before : ∀ call ∈ first, call.taken = [] ∧ call.isShutdown = false)
    (after : ∀ call ∈ last, call.taken = [] ∧ call.isShutdown = false) :
    stream.Answers segment (first ++ calls ++ last) made := by
  have idle : ∀ others : List Call, (∀ call ∈ others, call.taken = [] ∧ call.isShutdown = false) →
      others.flatMap Call.taken = [] ∧ others.countP Call.isShutdown = 0 := by
    intro others none
    refine ⟨List.flatMap_eq_nil_iff.mpr fun call member => (none call member).1, ?_⟩
    exact List.countP_eq_zero.mpr fun call member => by simp [(none call member).2]
  have taken : (first ++ calls ++ last).flatMap Call.taken = calls.flatMap Call.taken := by
    rw [List.flatMap_append, List.flatMap_append, (idle first before).1, (idle last after).1,
      List.nil_append, List.append_nil]
  have ended : (first ++ calls ++ last).countP Call.isShutdown = calls.countP Call.isShutdown := by
    rw [List.countP_append, List.countP_append, (idle first before).2, (idle last after).2,
      Nat.zero_add, Nat.add_zero]
  have accepted : acceptedIn (first ++ calls ++ last) = acceptedIn calls := by
    rw [acceptedIn, taken, ended, acceptedIn]
  constructor
  · rw [taken, ended]
    exact answers.fin
  · rw [accepted]
    exact answers.answer

namespace World

variable {world : World}

theorem length_segmentPosts_le (bounded : world.Bounded) (sender : NicId) (guestMac : Mac)
    (flow : Flow) (segment : Segment) :
    ((world.segmentHappenings sender guestMac flow segment).flatMap
      Happening.posts).length ≤ 1 := by
  cases found : world.gateway.streams.get? flow with
  | none =>
      rw [posts_segmentHappenings_of_none found]
      exact Nat.zero_le 1
  | some stream =>
      simp only [segmentHappenings, found]
      split
      · exact Nat.zero_le 1
      · rw [List.flatMap_singleton]
        exact Happening.length_posts_le (bounded flow stream found) ..

theorem transmit_makes_one (sound : world.Sound) (bounded : world.Bounded) (sender : NicId)
    (frame : Bytes) :
    ∃ made, (world.transmit sender frame).gateway.mailbox.entries =
        world.gateway.mailbox.entries ++ (world.gateway.copies sender frame ++ made) ∧
      made.length ≤ 1 := by
  obtain ⟨_, answer, leaves, answers, rfl | silent⟩ := transmit_leaves sound sender frame
  · have boundedSpread : (world.spread sender frame).Bounded := fun flow stream found =>
      bounded flow stream (world.spread_streams sender frame ▸ found)
    refine ⟨_, leaves.mailbox, ?_⟩
    rw [List.append_nil]
    cases asked : Request.asked world.gateway.subnet frame with
    | none =>
        rw [transmitHappenings_of_not_asked asked]
        exact Nat.zero_le 1
    | some request =>
        rw [transmitHappenings_of_asked asked]
        cases request with
        | hardwareAddress | ownAddress | echo | datagram => exact Nat.zero_le 1
        | segment guest flow segment => exact length_segmentPosts_le boundedSpread ..
  · refine ⟨_, leaves.mailbox, ?_⟩
    rw [silent, List.nil_append]
    rcases answers.nil_or_asked with rfl | ⟨_, _, answers⟩
    · exact Nat.zero_le 1
    · exact answers.length_le

/-- A segment for a stream is answered by one frame, or by none if nothing of it is accepted. -/
theorem transmit_answers (sound : world.Sound) (bounded : world.Bounded) (sender : NicId)
    {frame : Bytes} {guest : Mac} {flow : Flow} {segment : Segment} {stream : Stream}
    (asked : Request.asked world.gateway.subnet frame = some (.segment guest flow segment))
    (found : world.gateway.streams.get? flow = some stream) (noOpening : segment.opens = false) :
    ∃ made, (world.transmit sender frame).gateway.mailbox.entries =
        world.gateway.mailbox.entries ++ (world.gateway.copies sender frame ++ made) ∧
      stream.Answers segment ((world.transmit sender frame).kernel.callsSince world.kernel)
        made := by
  obtain ⟨_, copied, _⟩ := copies_of_asked sender asked
  have foundSpread : (world.spread sender frame).gateway.streams.get? flow = some stream := by
    rw [spread_streams]
    exact found
  have soundSpread := sound.steps (steps_spread world sender frame)
  obtain ⟨_, leaves, _⟩ := continueStream_leaves soundSpread foundSpread segment
  obtain ⟨calls, made, _⟩ := stream.onSegment_move (world.spread sender frame).gateway.clock segment
    (world.spread sender frame).kernel
  obtain ⟨passed, closing, whole, passes, closes⟩ :=
    callsSince_transmit_of_asked found sender asked noOpening made
  refine ⟨Happening.posts (.turned (.segment segment) (world.spread sender frame).gateway.clock
    stream (world.spread sender frame).kernel), ?_, ?_⟩
  · rw [transmit_continues found sender asked noOpening]
    exact (copied.trans leaves).mailbox
  · rw [whole]
    refine (Stream.Answers.of_turn (bounded flow stream found) segment _ made).within ?_ ?_
    · intro call member
      obtain ⟨relay, _, peer, _, result, rfl⟩ := passes call member
      exact ⟨rfl, rfl⟩
    · intro call member
      obtain ⟨socket, rfl⟩ := closes call member
      exact ⟨rfl, rfl⟩

/-- For a frame bytes are offered once at most, but on the socket of the relay, and one frame
is made at most behind the copies.  If the frame brings a segment for a stream that is there,
that one frame is its answer. -/
structure AnswersOnce (world : World) (sender : NicId) (frame : Bytes) : Prop where
  offers : ((world.transmit sender frame).kernel.callsSince world.kernel).countP
    world.gateway.isProxiedOffer ≤ 1
  makes : ∃ made, (world.transmit sender frame).gateway.mailbox.entries =
      world.gateway.mailbox.entries ++ (world.gateway.copies sender frame ++ made) ∧
    made.length ≤ 1
  answers : ∀ guest flow segment stream,
    Request.asked world.gateway.subnet frame = some (.segment guest flow segment) →
    world.gateway.streams.get? flow = some stream → segment.opens = false →
    ∃ made, (world.transmit sender frame).gateway.mailbox.entries =
        world.gateway.mailbox.entries ++ (world.gateway.copies sender frame ++ made) ∧
      stream.Answers segment ((world.transmit sender frame).kernel.callsSince world.kernel) made

theorem transmit_answersOnce (sound : world.Sound) (bounded : world.Bounded) (sender : NicId)
    (frame : Bytes) : world.AnswersOnce sender frame where
  offers := world.transmit_offers_once sender frame
  makes := transmit_makes_one sound bounded sender frame
  answers := fun _ _ _ _ asked found noOpening =>
    transmit_answers sound bounded sender asked found noOpening

end World

end Masquerade
