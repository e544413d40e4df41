import Masquerade.Proofs.Stream.Move

/-!
# What a turn takes from the guest

A turn passes on nothing, or the first bytes of a segment that starts in the expected
place, or all of them with the last mark behind.  The expected place moves by exactly
what the kernel took, and by one for the mark.
-/

set_option autoImplicit false

namespace Masquerade.Stream

open Packet (ControlBit)

/-- Whether a turn in which the kernel took these bytes also accepts the last mark of the
guest: one in the expected place, with no byte before it left behind. -/
def Cause.acceptsFin (before : Stream) (taken : Bytes) : Cause → Bool
  | .segment arrived =>
    arrived.has .fin && !arrived.has .rst && !arrived.has .syn &&
      arrived.header.sequence == before.guestNext && taken == arrived.payload
  | .ready _ _ => false

/-- How a turn moves the place that is expected of the guest. -/
inductive Forwards (before : Stream) : Cause → List Call → Stream → Prop
  | nothing {cause : Cause} {calls : List Call} {after : Stream}
      (untaken : calls.flatMap Call.taken = [])
      (noShutdown : ∀ call ∈ calls, call.isShutdown = false)
      (sending : ∀ call ∈ calls, call.isSend = true → before.IsSending)
      (next : after.guestNext = before.guestNext)
      (connected : after.IsSending → before.IsSending ∨ after.phase = .connected)
      (closed : after.phase ≠ .bothClosed → before.phase ≠ .bothClosed)
      (noFin : cause.acceptsFin before [] = false) : Forwards before cause calls after
  | took {segment : Segment} {count : Nat} {after : Stream}
      (place : segment.header.sequence = before.guestNext) (sending : before.IsSending)
      (fits : count ≤ segment.payload.length)
      (next : after.guestNext = before.guestNext + UInt32.ofNat count)
      (phase : after.phase = before.phase)
      (noFin : (Cause.segment segment).acceptsFin before (segment.payload.take count) = false) :
      Forwards before (.segment segment)
        [.send before.socket segment.payload (.ok count)] after
  | tookAll {segment : Segment} {result : Except Errno Unit} {after : Stream}
      (place : segment.header.sequence = before.guestNext) (sending : before.IsSending)
      (next : after.guestNext = before.guestNext + UInt32.ofNat segment.payload.length + 1)
      (phase : after.phase = .bothClosed)
      (fin : (Cause.segment segment).acceptsFin before segment.payload = true) :
      Forwards before (.segment segment)
        [.send before.socket segment.payload (.ok segment.payload.length),
          .shutdown before.socket result] after
  | ended {segment : Segment} {result : Except Errno Unit} {after : Stream}
      (next : after.guestNext = before.guestNext + 1) (phase : after.phase = .bothClosed)
      (fin : (Cause.segment segment).acceptsFin before [] = true) :
      Forwards before (.segment segment) [.shutdown before.socket result] after

/-! ## What leaves the expected place as it is -/

@[simp] theorem acknowledge_guestNext (stream : Stream) (now : Nat) :
    (stream.acknowledge now).1.guestNext = stream.guestNext := by
  unfold acknowledge
  split <;> rfl

@[simp] theorem acknowledge_phase (stream : Stream) (now : Nat) :
    (stream.acknowledge now).1.phase = stream.phase := by
  unfold acknowledge
  split <;> rfl

/-! ## Every move is one of them -/

section Carried

variable {stream : Stream} {segment : Segment}

theorem Carries.place (carries : stream.Carries segment)
    (weighs : segment.payload ≠ [] ∨ segment.has .fin = true) :
    segment.header.sequence = stream.guestNext := by
  have order := carries.inOrder
  unfold isInOrder at order
  rcases weighs with payload | fin
  · simpa [payload] using order
  · simpa [fin] using order

/-- Whether the last mark is accepted depends only on whether all bytes were taken. -/
theorem Carries.acceptsFin (carries : stream.Carries segment)
    (weighs : segment.payload ≠ [] ∨ segment.has .fin = true) (taken : Bytes) :
    (Cause.segment segment).acceptsFin stream taken =
      (segment.has .fin && taken == segment.payload) := by
  simp [Cause.acceptsFin, carries.noReset, carries.noStart, carries.place weighs]

end Carried

theorem Move.forwards {stream : Stream} {now : Nat} {cause : Cause} {calls : List Call}
    {sent : Stream × List Bytes} {ends : Bool} (move : Move stream now cause calls sent ends) :
    Forwards stream cause calls sent.1 := by
  -- All but the three kinds of turn that take bytes or the last mark leave the place alone.
  cases move with
  | @outOfOrder segment order =>
      have noFin : (Cause.segment segment).acceptsFin stream [] = false := by
        unfold isInOrder at order
        cases fin : segment.has .fin <;> simp_all [Cause.acceptsFin]
      exact .nothing rfl (by simp) (by simp) rfl Or.inl id noFin
  | @brokenOff segment order isReset =>
      have noFin : (Cause.segment segment).acceptsFin stream [] = false := by
        simp [Cause.acceptsFin, isReset]
      exact .nothing rfl (by simp) (by simp) rfl Or.inl id noFin
  | @repeatedStart segment order noReset isStart =>
      have noFin : (Cause.segment segment).acceptsFin stream [] = false := by
        simp [Cause.acceptsFin, isStart]
      exact .nothing rfl (by simp) (by simp) rfl Or.inl id noFin
  | @withheld segment carries payload =>
      refine .nothing rfl (by simp) (by simp) (heard_guestNext ..) ?_ ?_ ?_
      · exact fun sending => Or.inl (by simpa [IsSending] using sending)
      · simp
      · simpa [carries.acceptsFin (Or.inl payload)] using fun _ => payload
  | @tooBusy segment carries payload sending =>
      refine .nothing rfl (by simp [Call.isShutdown]) (fun _ _ _ => sending) (heard_guestNext ..)
        (fun _ => Or.inl sending) ?_ ?_
      · simp
      · simpa [carries.acceptsFin (Or.inl payload)] using fun _ => payload
  | @notTaken segment errno carries payload sending =>
      refine .nothing rfl (by simp [Call.isShutdown]) (fun _ _ _ => sending) ?_
        (fun _ => Or.inl sending) ?_ ?_
      · exact (acknowledge_guestNext ..).trans (heard_guestNext ..)
      · rcases sending with phase | phase <;> simp [phase]
      · simpa [carries.acceptsFin (Or.inl payload)] using fun _ => payload
  | @taken segment count carries payload sending fits notLast =>
      refine .took (carries.place (Or.inl payload)) sending fits ?_ ?_ ?_
      · rw [acknowledge_guestNext, advance, heard_guestNext]
      · rw [acknowledge_phase, advance, heard_phase]
      · rw [carries.acceptsFin (Or.inl payload)]
        rcases notLast with noFin | fewer
        · simp [noFin]
        · have short : segment.payload.take count ≠ segment.payload := by
            intro same
            have length := congrArg List.length same
            rw [List.length_take] at length
            omega
          simp [short]
  | @takenToTheEnd segment result carries payload sending isLast =>
      refine .tookAll (carries.place (Or.inl payload)) sending ?_ ?_ ?_
      · rw [acknowledge_guestNext, close, advance, heard_guestNext]
      · rw [acknowledge_phase, close]
      · simp [carries.acceptsFin (Or.inl payload), isLast]
  | @ended segment result carries empty isLast =>
      refine .ended ?_ ?_ ?_
      · rw [acknowledge_guestNext, close, heard_guestNext]
      · rw [acknowledge_phase, close]
      · simp [carries.acceptsFin (Or.inr isLast), isLast, empty]
  | @acknowledged segment ends carries empty notLast =>
      refine .nothing rfl (by simp) (by simp) (heard_guestNext ..) ?_ ?_ ?_
      · exact fun sending => Or.inl (by simpa [IsSending] using sending)
      · simp
      · simp [Cause.acceptsFin, notLast]
  | idle | nothingThere =>
      exact .nothing rfl (by simp [Call.isShutdown]) (by simp [Call.isSend]) rfl Or.inl id rfl
  | connected phase =>
      exact .nothing rfl (by simp) (by simp) rfl (fun _ => Or.inr rfl) (by simp [phase]) rfl
  | refused phase => exact .nothing rfl (by simp) (by simp) rfl Or.inl id rfl
  | failed phase =>
      exact .nothing rfl (by simp) (by simp) (acknowledge_guestNext ..)
        (fun _ => Or.inl (Or.inl phase)) (by simp [phase]) rfl
  | sentAgain phase waiting | waited phase waiting =>
      exact .nothing rfl (by simp) (by simp) rfl Or.inl id rfl
  | delivered phase nothingWaits nonempty small =>
      exact .nothing rfl (by simp [Call.isShutdown]) (by simp [Call.isSend]) rfl Or.inl id rfl
  | outsideEnded phase nothing =>
      exact .nothing rfl (by simp [Call.isShutdown]) (by simp [Call.isSend])
        (acknowledge_guestNext ..) (fun _ => Or.inl (Or.inl phase)) (by simp [phase]) rfl

/-! ## What the calls tell -/

section Told

variable {before after : Stream} {cause : Cause} {calls : List Call}

theorem Forwards.sending (forwards : Forwards before cause calls after) :
    ∀ call ∈ calls, call.isSend = true → before.IsSending := by
  cases forwards with
  | nothing _ _ sending => exact sending
  | took _ sending | tookAll _ sending => exact fun _ _ _ => sending
  | ended => simp [Call.isSend]

theorem Forwards.countP_shutdown (forwards : Forwards before cause calls after) :
    calls.countP Call.isShutdown =
      (cause.acceptsFin before (calls.flatMap Call.taken)).toNat := by
  cases forwards with
  | nothing untaken noShutdown _ _ _ _ noFin =>
      rw [untaken, noFin]
      exact List.countP_eq_zero.mpr fun call member => by simp [noShutdown call member]
  | @took segment count _ _ _ _ _ _ noFin =>
      rw [List.flatMap_singleton, Call.taken, noFin]
      rfl
  | @tookAll segment result _ _ _ _ _ fin =>
      have whole : [Call.send before.socket segment.payload (.ok segment.payload.length),
          .shutdown before.socket result].flatMap Call.taken = segment.payload := by
        simp [Call.taken]
      rw [whole, fin]
      rfl
  | ended _ _ fin => exact (congrArg Bool.toNat fin).symm

/-- How far the calls of a turn carry the stream of the guest: each byte that was taken counts,
and so does the end that was passed on. -/
def acceptedIn (calls : List Call) : Nat :=
  (calls.flatMap Call.taken).length + calls.countP Call.isShutdown

theorem acceptedIn_eq_zero (untaken : calls.flatMap Call.taken = [])
    (noShutdown : ∀ call ∈ calls, call.isShutdown = false) : acceptedIn calls = 0 := by
  have unshut : calls.countP Call.isShutdown = 0 :=
    List.countP_eq_zero.mpr fun call member => by simp [noShutdown call member]
  rw [acceptedIn, untaken, unshut]
  rfl

theorem Forwards.guestNext (forwards : Forwards before cause calls after) :
    after.guestNext = before.guestNext + UInt32.ofNat (acceptedIn calls) := by
  cases forwards with
  | nothing untaken noShutdown _ next =>
      rw [acceptedIn_eq_zero untaken noShutdown, next]
      exact (UInt32.add_zero _).symm
  | @took segment count _ _ _ fits next =>
      have accepted : acceptedIn [.send before.socket segment.payload (.ok count)] = count := by
        simp [acceptedIn, Call.taken, Call.isShutdown, fits]
      rw [accepted, next]
  | @tookAll segment result _ _ _ next =>
      have accepted : acceptedIn [.send before.socket segment.payload (.ok segment.payload.length),
          .shutdown before.socket result] = segment.payload.length + 1 := by
        simp [acceptedIn, Call.taken, Call.isShutdown]
      rw [accepted, next, UInt32.ofNat_add, ← UInt32.add_assoc]
      rfl
  | ended next => exact next

end Told

end Masquerade.Stream
