import Masquerade.Proofs.Stream.Emission

/-!
# What a turn sends to the guest

Of everything that a turn may do, six things matter to what the guest reads: a
segment that takes no place in the sequence, the mark of the beginning, new bytes,
bytes sent again, the last mark, or nothing at all.  The place of the next byte moves
by exactly what was sent for the first time.
-/

set_option autoImplicit false

namespace Masquerade.Stream

open Packet (ControlBit)

structure IsBare (segment : Segment) : Prop where
  empty : segment.payload = []
  noStart : segment.has .syn = false
  noEnd : segment.has .fin = false

/-- The sequence stands still between the two states; kept bytes may be forgotten. -/
structure Steady (before after : Stream) : Prop where
  next : after.outsideNext = before.outsideNext
  finSent : after.finSent = before.finSent
  phase : after.phase = before.phase ∨ after.phase.isClosing = true
  kept : after.unacknowledged = [] ∨ after.unacknowledged = before.unacknowledged ∧
    after.unacknowledgedFrom = before.unacknowledgedFrom

/-- How a turn moves the sequence: the bytes received, and the segments sent. -/
inductive Supply (before : Stream) : Bytes → List Segment → Stream → Prop
  | plain {segments : List Segment} {after : Stream} (steady : Steady before after)
      (bare : ∀ segment ∈ segments, IsBare segment) : Supply before [] segments after
  | started {segment : Segment} {after : Stream} (phase : before.phase = .connecting)
      (isAt : IsAt segment (ControlBit.byteOf [.syn, .ack]) before.outsideNext [])
      (connected : after.phase = .connected) (next : after.outsideNext = before.outsideNext + 1)
      (finSent : after.finSent = before.finSent)
      (kept : after.unacknowledged = before.unacknowledged) : Supply before [] [segment] after
  | delivered {payload : Bytes} {segment : Segment} {after : Stream}
      (phase : before.phase = .connected) (nonempty : payload ≠ [])
      (fits : payload.length ≤ mostRead)
      (isAt : IsAt segment (ControlBit.byteOf [.ack, .psh]) before.outsideNext payload)
      (samePhase : after.phase = before.phase)
      (next : after.outsideNext = before.outsideNext + UInt32.ofNat payload.length)
      (finSent : after.finSent = before.finSent) (kept : after.unacknowledged = payload)
      (keptFrom : after.unacknowledgedFrom = before.outsideNext) :
      Supply before payload [segment] after
  | repeated {segment : Segment} {after : Stream} (phase : before.phase = .connected)
      (waiting : before.unacknowledged ≠ [])
      (isAt : IsAt segment (ControlBit.byteOf [.ack, .psh]) before.unacknowledgedFrom
        before.unacknowledged) (steady : Steady before after) : Supply before [] [segment] after
  | finished {segment : Segment} {after : Stream} (unsent : before.finSent = false)
      (isAt : IsAt segment (ControlBit.byteOf [.ack, .fin]) before.outsideNext [])
      (closing : after.phase.isClosing = true) (next : after.outsideNext = before.outsideNext + 1)
      (finSent : after.finSent = true)
      (kept : after.unacknowledged = [] ∨ after.unacknowledged = before.unacknowledged ∧
        after.unacknowledgedFrom = before.unacknowledgedFrom) : Supply before [] [segment] after

/-! ## Steady changes -/

namespace Steady

theorem refl (stream : Stream) : Steady stream stream := ⟨rfl, rfl, Or.inl rfl, Or.inr ⟨rfl, rfl⟩⟩

theorem trans {before between after : Stream} (first : Steady before between)
    (second : Steady between after) : Steady before after where
  next := second.next.trans first.next
  finSent := second.finSent.trans first.finSent
  phase := by
    rcases second.phase with same | closing
    · rw [same]
      exact first.phase
    · exact Or.inr closing
  kept := by
    rcases second.kept with none | ⟨same, sameFrom⟩
    · exact Or.inl none
    · rw [same, sameFrom]
      exact first.kept

theorem heard (stream : Stream) (segment : Segment) : Steady stream (stream.heard segment) where
  next := heard_outsideNext ..
  finSent := heard_finSent ..
  phase := Or.inl (heard_phase ..)
  kept := by
    unfold Stream.heard release
    split
    · exact Or.inl rfl
    · exact Or.inr ⟨rfl, rfl⟩

theorem advance (stream : Stream) (count : Nat) : Steady stream (stream.advance count) :=
  ⟨rfl, rfl, Or.inl rfl, Or.inr ⟨rfl, rfl⟩⟩

theorem close (stream : Stream) : Steady stream stream.close :=
  ⟨rfl, rfl, Or.inr rfl, Or.inr ⟨rfl, rfl⟩⟩

theorem withoutOutside (stream : Stream) : Steady stream stream.withoutOutside where
  next := rfl
  finSent := rfl
  phase := by
    unfold Stream.withoutOutside
    cases stream.phase <;> simp [Phase.isClosing, Phase.rank]
  kept := Or.inr ⟨rfl, rfl⟩

end Steady

/-! ## Every move is one of them -/

theorem emit_steady (stream : Stream) (now : Nat) (flags : UInt8) (sequence : UInt32)
    (payload : Bytes) : Steady stream (stream.emit now flags sequence payload).1 :=
  ⟨rfl, rfl, Or.inl rfl, Or.inr ⟨rfl, rfl⟩⟩

theorem IsAt.bare {segment : Segment} {flags : UInt8} {sequence : UInt32}
    (isAt : IsAt segment flags sequence [])
    (noStart : (flags.toNat / ControlBit.syn.value % 2 == 1) = false)
    (noEnd : (flags.toNat / ControlBit.fin.value % 2 == 1) = false) : IsBare segment :=
  ⟨isAt.payload, (isAt.has .syn).trans noStart, (isAt.has .fin).trans noEnd⟩

theorem emit_supply {before middle : Stream} (steady : Steady before middle) (now : Nat)
    (flags : UInt8) (sequence : UInt32)
    (acknowledges : (flags.toNat / ControlBit.ack.value % 2 == 1) = true)
    (noStart : (flags.toNat / ControlBit.syn.value % 2 == 1) = false)
    (noEnd : (flags.toNat / ControlBit.fin.value % 2 == 1) = false) :
    ∃ segments, Shows (middle.emit now flags sequence []).1 (middle.emit now flags sequence []).2
        segments ∧
      Supply before [] segments (middle.emit now flags sequence []).1 := by
  have fits : ([] : Bytes).length ≤ mostRead := Nat.zero_le _
  obtain ⟨segment, shown, isAt⟩ := emit_shows middle now flags sequence fits acknowledges
  refine ⟨[segment], shown.congr rfl rfl, .plain (steady.trans (emit_steady ..)) ?_⟩
  intro other only
  rw [List.mem_singleton.mp only]
  exact isAt.bare noStart noEnd

theorem acknowledge_supply {before middle : Stream} (steady : Steady before middle) (now : Nat) :
    ∃ segments, Shows (middle.acknowledge now).1 (middle.acknowledge now).2 segments ∧
      Supply before [] segments (middle.acknowledge now).1 := by
  unfold acknowledge
  split
  · rename_i due
    rw [Bool.and_eq_true, Bool.not_eq_true'] at due
    have fits : ([] : Bytes).length ≤ mostRead := Nat.zero_le _
    obtain ⟨segment, shown, isAt⟩ := emit_shows { middle with finSent := true } now
      (ControlBit.byteOf [.ack, .fin]) middle.outsideNext fits (by decide)
    refine ⟨[segment], shown.congr rfl rfl, .finished ?_ ?_ due.1 ?_ rfl steady.kept⟩
    · rw [← steady.finSent]
      exact due.2
    · rw [← steady.next]
      exact isAt
    · rw [← steady.next]
  · exact emit_supply steady now _ middle.outsideNext (by decide) (by decide) (by decide)

theorem Move.supply {stream : Stream} {now : Nat} {cause : Cause} {calls : List Call}
    {sent : Stream × List Bytes} {ends : Bool} (move : Move stream now cause calls sent ends)
    (fits : stream.unacknowledged.length ≤ mostRead) :
    ∃ segments, Shows sent.1 sent.2 segments ∧
      Supply stream (calls.flatMap Call.received) segments sent.1 := by
  have silent : ∀ after, Steady stream after →
      ∃ segments, Shows after [] segments ∧ Supply stream [] segments after :=
    fun after steady => ⟨[], .nothing after, .plain steady (by simp)⟩
  cases move with
  | outOfOrder | idle | nothingThere => exact silent _ (.refl stream)
  | @brokenOff segment order isReset =>
      have noted : Steady stream (stream.note segment) := ⟨rfl, rfl, Or.inl rfl, Or.inr ⟨rfl, rfl⟩⟩
      exact emit_supply noted now _ _ (by decide) (by decide) (by decide)
  | repeatedStart | waited => exact silent _ ⟨rfl, rfl, Or.inl rfl, Or.inr ⟨rfl, rfl⟩⟩
  | withheld | tooBusy | acknowledged => exact silent _ (.heard ..)
  | notTaken =>
      exact acknowledge_supply ((Steady.heard ..).trans (.withoutOutside _)) now
  | taken => exact acknowledge_supply ((Steady.heard ..).trans (.advance ..)) now
  | takenToTheEnd =>
      exact acknowledge_supply (((Steady.heard ..).trans (.advance ..)).trans (.close _)) now
  | ended => exact acknowledge_supply ((Steady.heard ..).trans (.close _)) now
  | connected phase =>
      have none : ([] : Bytes).length ≤ mostRead := Nat.zero_le _
      obtain ⟨segment, shown, isAt⟩ := emit_shows { stream with phase := .connected } now
        (ControlBit.byteOf [.syn, .ack]) stream.outsideNext none (by decide)
      exact ⟨[segment], shown.congr rfl rfl, .started phase isAt rfl rfl rfl rfl⟩
  | refused => exact emit_supply (.refl stream) now _ _ (by decide) (by decide) (by decide)
  | failed => exact acknowledge_supply (.withoutOutside stream) now
  | sentAgain phase waiting =>
      obtain ⟨segment, shown, isAt⟩ := emit_shows { stream with waitedRounds := 0 } now
        (ControlBit.byteOf [.ack, .psh]) stream.unacknowledgedFrom fits (by decide)
      exact ⟨[segment], shown.congr rfl rfl,
        .repeated phase waiting isAt ⟨rfl, rfl, Or.inl rfl, Or.inr ⟨rfl, rfl⟩⟩⟩
  | @delivered rounds ready payload phase nothingWaits nonempty small =>
      obtain ⟨segment, shown, isAt⟩ := emit_shows stream now (ControlBit.byteOf [.ack, .psh])
        stream.outsideNext small (by decide)
      refine ⟨[segment], shown.congr rfl rfl, ?_⟩
      rw [List.flatMap_singleton]
      exact .delivered phase nonempty small isAt rfl rfl rfl rfl rfl
  | @outsideEnded rounds ready result phase nothing =>
      have empty : [Call.receive stream.socket mostRead result].flatMap Call.received = [] := by
        rw [List.flatMap_singleton]
        cases result with
        | error errno => rfl
        | ok payload => exact nothing payload rfl
      rw [empty]
      exact acknowledge_supply (.withoutOutside stream) now

end Masquerade.Stream
