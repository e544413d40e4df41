import Masquerade.Proofs.Gateway.Answers
import Masquerade.Proofs.Gateway.Clock
import Masquerade.Proofs.Session.Ownership
import Masquerade.Proofs.Session.Phases
import Masquerade.Proofs.Stream.OneSegment

/-!
# Timestamps

The segments of all streams carry the clock of the gateway, which goes up from one to the next
as they are queued, and the clock of the guest as it was heard last on the stream.  A guest
hears nothing that seems to come from before what it heard already.
-/

set_option autoImplicit false

namespace Masquerade

open Packet (Timestamps segmentIn)

def stampIn (frame : Bytes) : Option Timestamps :=
  (segmentIn frame).bind fun read => Timestamps.find? read.2.options

theorem Stream.Move.stamped {stream : Stream} {now : Nat} {cause : Stream.Cause}
    {calls : List Call} {sent : Stream × List Bytes} {ends : Bool}
    (move : stream.Move now cause calls sent ends)
    (fits : stream.unacknowledged.length ≤ mostRead) :
    sent.2.map stampIn = sent.2.map fun _ => some ⟨UInt32.ofNat now, sent.1.guestClock⟩ := by
  rcases move.answers fits with ⟨frame, one, segment, read, _, _, stamps⟩ | ⟨none, _⟩
  · rw [one]
    simp [stampIn, read, stamps]
  · rw [none]
    rfl

namespace Happening

def hears : Happening → Option UInt32
  | .opened request _ _ _ => (Timestamps.find? request.options).map Timestamps.value
  | .turned cause _ before _ => cause.clock before

def opensAgain : Happening → Bool
  | .opened _ _ _ _ => false
  | .turned cause _ _ _ => cause.isOpening

end Happening

def lastHeard (happenings : List Happening) : UInt32 :=
  (happenings.filterMap Happening.hears).getLast?.getD 0

theorem lastHeard_concat (past : List Happening) (last : Happening) :
    lastHeard (past ++ [last]) = last.hears.getD (lastHeard past) := by
  rw [lastHeard, lastHeard, List.filterMap_append, List.getLast?_append]
  cases heard : last.hears <;> simp [heard]

namespace Life

variable {request : Segment} {first : Stream} {past : List Happening} {last : Happening}

/-- A stream knows the clock of its guest as it was heard last. -/
theorem guestClock (life : Life request first past last)
    (plain : ∀ happening ∈ past ++ [last], happening.opensAgain = false) :
    last.stream.guestClock = lastHeard (past ++ [last]) := by
  induction life with
  | opened opens opening unused made =>
      rw [lastHeard_concat]
      exact congrArg Stream.guestClock opening
  | @turned past last start life goesOn undisturbed cause now ih =>
      obtain ⟨_, _, move⟩ := last.stream.turn_move now start cause
      have known := ih fun happening member => plain happening (List.mem_append_left _ member)
      have heard := move.guestClock (plain _ (List.mem_append_right _ (List.mem_singleton_self _)))
      rw [lastHeard_concat, ← known]
      exact heard

theorem stamped (life : Life request first past last) :
    last.frames.map stampIn =
      last.stamps.map fun now => some ⟨UInt32.ofNat now, last.stream.guestClock⟩ := by
  cases life with
  | opened => rfl
  | @turned past last start life goesOn undisturbed cause now =>
      obtain ⟨_, _, move⟩ := last.stream.turn_move now start cause
      rw [Happening.stamps, List.map_map]
      exact move.stamped life.supplied.2.1.fits

end Life

namespace World

variable {world : World}

theorem transmitHappenings_plain {sender : NicId} {frame : Bytes} :
    ∀ happening ∈ world.transmitHappenings sender frame, happening.opensAgain = false := by
  intro happening member
  obtain ⟨guest, flow, segment, _, brought⟩ := asked_of_mem_transmitHappenings member
  cases broughtBy_of_mem brought with
  | turned _ carriesOn => exact carriesOn
  | opened => rfl

theorem pollHappenings_plain (sound : world.Sound) :
    ∀ happening ∈ world.pollHappenings, happening.opensAgain = false := by
  intro happening member
  obtain ⟨_, _, _, _, _, _, rfl⟩ := hasTurn_of_mem sound member
  rfl

end World

namespace Session

theorem history_plain (operations : List Operation) {world : World} (sound : world.Sound) :
    ∀ happening ∈ history world operations, happening.opensAgain = false :=
  history_forall (fun steps sound => sound.steps steps)
    (fun _ _ _ _ => World.transmitHappenings_plain)
    (fun _ sound => World.pollHappenings_plain sound) operations sound

theorem history_ticks (operations : List Operation) (world : World) :
    World.Ticks world (history world operations) (after world operations) :=
  Composes.history
    ⟨fun first second => first.trans second, fun _ same => .quiet (Nat.le_of_eq same.symm),
      World.transmit_ticks, World.poll_ticks⟩ operations world

/-- Whatever a happening sends echoes what was heard on its stream until then. -/
theorem happening_echoes {start : World} (new : start.IsNew) {operations : List Operation}
    {before future : List Happening} {happening : Happening}
    (split : history start operations = before ++ happening :: future) :
    happening.frames.map stampIn = happening.stamps.map fun now =>
      some ⟨UInt32.ofNat now, lastHeard (episode (before ++ [happening]) happening.socket)⟩ := by
  obtain ⟨request, first, life⟩ := life_of_split new split
  have all := history_plain operations new.sound
  rw [split] at all
  have plain : ∀ other ∈ episode before happening.socket ++ [happening],
      other.opensAgain = false := by
    intro other member
    refine all other ?_
    rcases List.mem_append.mp member with early | last
    · exact List.mem_append_left _ (List.mem_of_mem_filter early)
    · rw [List.mem_singleton.mp last]
      exact List.mem_append_right _ (List.mem_cons_self ..)
  rw [life.stamped, life.guestClock plain, episode_append, episode_singleton_self]

/-- The stamps of all streams go up in the order in which their frames are queued, up to the
clock, which does not go back.  Every frame carries its stamp, cut to the width of the option,
and the clock of the guest as it was last heard on its stream.  A segment for a stream that is
there is heard, unless it only asks for the stream once more; and what streams send is queued
as it happens. -/
theorem timestamps_go_up_and_echo {start : World} (new : start.IsNew)
    (operations : List Operation) :
    let world := after start operations
    let stamps := (history start operations).flatMap Happening.stamps
    stamps.Pairwise (· ≤ ·) ∧ (∀ stamp ∈ stamps, stamp ≤ world.gateway.clock) ∧
    (∀ later, world.gateway.clock ≤ (after start (operations ++ later)).gateway.clock) ∧
    (∀ before happening future, history start operations = before ++ happening :: future →
      happening.frames.map stampIn = happening.stamps.map fun now =>
        some ⟨UInt32.ofNat now,
          lastHeard (episode (before ++ [happening]) happening.socket)⟩) ∧
    (∀ sender frame guest flow segment stream,
      Request.asked world.gateway.subnet frame = some (.segment guest flow segment) →
      world.gateway.streams.get? flow = some stream → segment.opens = false →
      ∃ now start, happeningsOf flow (world.transmitHappenings sender frame) =
        [.turned (.segment segment) now stream start]) ∧
    world.QueuesAsItHappens := by
  intro world stamps
  have ticks := history_ticks operations start
  have sound : world.Sound := sound_after new operations
  refine ⟨ticks.sorted, fun stamp member => (ticks.within stamp member).2, fun later => ?_,
    fun before happening future => happening_echoes new,
    fun sender _ _ _ _ _ asked found noOpening =>
      ⟨_, _, World.happeningsOf_of_asked sound found sender asked noOpening⟩,
    sound.queuesAsItHappens⟩
  rw [after_append]
  exact (history_ticks later world).forward

/-! ## A guest with a clock -/

def stampedFrame (clock sequence acknowledgment : UInt32) (flags : List Packet.ControlBit)
    (payload : Bytes) : Bytes :=
  let flow := conversationFlow
  let header := Packet.TcpHeader.bare flow.guest.port flow.outside.port sequence acknowledgment
    (Packet.ControlBit.byteOf flags) 1000
  let segment := Packet.tcpSegment flow.guest.address flow.outside.address header
    (Timestamps.block ⟨clock, 0⟩) payload
  let frame := segment.bind <|
    Packet.ipv4Frame ⟨Settings.gatewayMac, ⟨2, 0, 0, 0, 0, 1⟩, Packet.EthernetHeader.ipv4⟩
      (.between flow.guest.address flow.outside.address Transport.tcp.protocol 0 64)
  frame.toOption.getD []

/-- The guest opens a stream and sends twice; its second segment is out of place. -/
def stampedConversation : List Operation :=
  [.register ⟨⟨1⟩, ⟨2, 0, 0, 0, 0, 1⟩⟩, .transmit ⟨1⟩ (stampedFrame 70 1000 0 [.syn] []),
    .change 0 { writable := some true }, .poll 1,
    .transmit ⟨1⟩ (stampedFrame 75 1001 305419897 [.ack] [104, 105]),
    .transmit ⟨1⟩ (stampedFrame 90 5000 305419897 [.ack] [1]),
    .change 0 { arrivals := [.data [1, 2, 3] conversationFlow.outside] }, .poll 1]

/-- The stream is accepted at the time 2, answers at 3, and passes bytes on at 5.  What came out
of place was not heard. -/
theorem stamped_conversation_goes_up_and_echoes :
    let happened := history conversed stampedConversation
    conversed.IsNew ∧ (happened.flatMap Happening.stamps).Pairwise (· ≤ ·) ∧
      happened.flatMap Happening.stamps = [2, 3, 5] ∧
      (happened.flatMap Happening.frames).map stampIn =
        [some ⟨2, 70⟩, some ⟨3, 75⟩, some ⟨5, 75⟩] := by
  intro happened
  have new : conversed.IsNew := World.plain_isNew none
  exact ⟨new, (timestamps_go_up_and_echo new stampedConversation).1, by decide +kernel,
    by decide +kernel⟩

end Session

end Masquerade
