import Masquerade.Gateway.Stream.Turn
import Masquerade.Proofs.Kernel.Sockets

/-!
# Moves of a stream

Each turn of a stream is one of the moves listed here, with the calls that it
makes, the stream and frames that come of it and whether the stream is over.  All
calls of a turn are about the socket of the stream.  What holds of streams in the
course of a session is proved move by move.
-/

set_option autoImplicit false

namespace Masquerade.Stream

open Kernel (Makes)

inductive Cause
  | segment (segment : Segment)
  /-- The readiness of the socket, with the number of rounds that bytes wait. -/
  | ready (rounds : Nat) (ready : Kernel.Readiness)

def turn (stream : Stream) (now : Nat) (kernel : Kernel) : Cause → Turn
  | .segment segment => stream.onSegment now segment kernel
  | .ready rounds ready => stream.onReady now rounds ready kernel

structure Carries (stream : Stream) (segment : Segment) : Prop where
  inOrder : stream.isInOrder segment = true
  noReset : segment.has .rst = false
  noStart : segment.has .syn = false

def heard (stream : Stream) (segment : Segment) : Stream :=
  (stream.note segment).release segment.header

def IsSending (stream : Stream) : Prop :=
  stream.phase = .connected ∨ stream.phase = .outsideClosed

def advance (stream : Stream) (count : Nat) : Stream :=
  { stream with guestNext := stream.guestNext + UInt32.ofNat count }

def close (stream : Stream) : Stream :=
  { stream with guestNext := stream.guestNext + 1, phase := .bothClosed }

def withoutOutside (stream : Stream) : Stream :=
  { stream with phase := if stream.phase.isClosing then stream.phase else .outsideClosed }

theorem disconnect_eq (stream : Stream) (now : Nat) :
    stream.disconnect now = stream.withoutOutside.acknowledge now := rfl

inductive Move (stream : Stream) (now : Nat) :
    Cause → List Call → Stream × List Bytes → Bool → Prop
  -- What a segment of the guest does.
  | outOfOrder {segment : Segment} (order : stream.isInOrder segment = false) :
      Move stream now (.segment segment) [] (stream, []) false
  | brokenOff {segment : Segment} (order : stream.isInOrder segment = true)
      (isReset : segment.has .rst = true) :
      Move stream now (.segment segment) [] ((stream.note segment).reset now) true
  | repeatedStart {segment : Segment} (order : stream.isInOrder segment = true)
      (noReset : segment.has .rst = false) (isStart : segment.has .syn = true) :
      Move stream now (.segment segment) [] (stream.note segment, []) false
  | withheld {segment : Segment} (carries : stream.Carries segment)
      (payload : segment.payload ≠ []) :
      Move stream now (.segment segment) [] (stream.heard segment, []) false
  | tooBusy {segment : Segment} (carries : stream.Carries segment)
      (payload : segment.payload ≠ []) (sending : stream.IsSending) :
      Move stream now (.segment segment)
        [.send stream.socket segment.payload (.error .again)] (stream.heard segment, []) false
  | notTaken {segment : Segment} {errno : Errno} (carries : stream.Carries segment)
      (payload : segment.payload ≠ []) (sending : stream.IsSending) :
      Move stream now (.segment segment)
        [.send stream.socket segment.payload (.error errno)]
        ((stream.heard segment).disconnect now) false
  | taken {segment : Segment} {count : Nat} (carries : stream.Carries segment)
      (payload : segment.payload ≠ []) (sending : stream.IsSending)
      (fits : count ≤ segment.payload.length)
      (notLast : segment.has .fin = false ∨ count < segment.payload.length) :
      Move stream now (.segment segment)
        [.send stream.socket segment.payload (.ok count)]
        (((stream.heard segment).advance count).acknowledge now) false
  | takenToTheEnd {segment : Segment} {result : Except Errno Unit}
      (carries : stream.Carries segment) (payload : segment.payload ≠ [])
      (sending : stream.IsSending) (isLast : segment.has .fin = true) :
      Move stream now (.segment segment)
        [.send stream.socket segment.payload (.ok segment.payload.length),
          .shutdown stream.socket result]
        (((stream.heard segment).advance segment.payload.length).close.acknowledge now)
        ((stream.heard segment).isFinAcknowledged segment.header)
  | ended {segment : Segment} {result : Except Errno Unit} (carries : stream.Carries segment)
      (empty : segment.payload = []) (isLast : segment.has .fin = true) :
      Move stream now (.segment segment) [.shutdown stream.socket result]
        ((stream.heard segment).close.acknowledge now)
        ((stream.heard segment).isFinAcknowledged segment.header)
  | acknowledged {segment : Segment} {ends : Bool} (carries : stream.Carries segment)
      (empty : segment.payload = []) (notLast : segment.has .fin = false) :
      Move stream now (.segment segment) [] (stream.heard segment, []) ends
  -- What the readiness of the socket does.
  | idle {rounds : Nat} {ready : Kernel.Readiness} :
      Move stream now (.ready rounds ready) [] (stream, []) false
  | connected {rounds : Nat} {ready : Kernel.Readiness} (phase : stream.phase = .connecting) :
      Move stream now (.ready rounds ready) []
        ({ stream with phase := .connected }.accept now) false
  | refused {rounds : Nat} {ready : Kernel.Readiness} (phase : stream.phase = .connecting) :
      Move stream now (.ready rounds ready) [] (stream.reset now) true
  | failed {rounds : Nat} {ready : Kernel.Readiness} (phase : stream.phase = .connected) :
      Move stream now (.ready rounds ready) [] (stream.disconnect now) false
  | sentAgain {rounds : Nat} {ready : Kernel.Readiness} (phase : stream.phase = .connected)
      (waiting : stream.unacknowledged ≠ []) :
      Move stream now (.ready rounds ready) []
        ({ stream with waitedRounds := 0 }.retransmit now) false
  | waited {rounds : Nat} {ready : Kernel.Readiness} (phase : stream.phase = .connected)
      (waiting : stream.unacknowledged ≠ []) :
      Move stream now (.ready rounds ready) []
        ({ stream with waitedRounds := stream.waitedRounds + 1 }, []) false
  | delivered {rounds : Nat} {ready : Kernel.Readiness} {payload : Bytes}
      (phase : stream.phase = .connected) (nothingWaits : stream.unacknowledged = [])
      (nonempty : payload ≠ []) (fits : payload.length ≤ mostRead) :
      Move stream now (.ready rounds ready) [.receive stream.socket mostRead (.ok payload)]
        (stream.deliver now payload) false
  | nothingThere {rounds : Nat} {ready : Kernel.Readiness} (phase : stream.phase = .connected) :
      Move stream now (.ready rounds ready) [.receive stream.socket mostRead (.error .again)]
        (stream, []) false
  | outsideEnded {rounds : Nat} {ready : Kernel.Readiness} {result : Except Errno Bytes}
      (phase : stream.phase = .connected) (nothing : ∀ payload, result = .ok payload → payload = []) :
      Move stream now (.ready rounds ready) [.receive stream.socket mostRead result]
        (stream.disconnect now) false

/-! ## Fields that taking note leaves as they are -/

section Heard

variable (stream : Stream) (segment : Segment)

@[simp] theorem heard_socket : (stream.heard segment).socket = stream.socket := by
  unfold heard release
  split <;> rfl

@[simp] theorem heard_phase : (stream.heard segment).phase = stream.phase := by
  unfold heard release
  split <;> rfl

@[simp] theorem heard_guestNext : (stream.heard segment).guestNext = stream.guestNext := by
  unfold heard release
  split <;> rfl

@[simp] theorem heard_outsideNext : (stream.heard segment).outsideNext = stream.outsideNext := by
  unfold heard release
  split <;> rfl

@[simp] theorem heard_finSent : (stream.heard segment).finSent = stream.finSent := by
  unfold heard release
  split <;> rfl

end Heard

/-! ## Every turn is a move -/

theorem offer_calls {stream : Stream} {payload : Bytes} {kernel after : Kernel} {offered : Offer}
    (run : stream.offer payload kernel = (offered, after)) :
    (offered = .withheld ∧ Makes [] kernel after) ∨
    (stream.IsSending ∧ ∃ result, Makes [.send stream.socket payload result] kernel after ∧
      ((offered = .withheld ∧ result = .error .again) ∨
        (offered = .failed ∧ ∃ errno, result = .error errno) ∨
        ∃ count, offered = .taken count ∧ result = .ok count ∧ count ≤ payload.length)) := by
  unfold offer at run
  split at run
  · cases run
    exact Or.inl ⟨rfl, Makes.refl kernel⟩
  · rename_i sending
    have looked := kernel.makes_isWritable stream.socket
    split at run
    · rename_i found
      rw [found] at looked
      cases run
      exact Or.inl ⟨rfl, looked⟩
    · rename_i between found
      rw [found] at looked
      right
      refine ⟨?_, ?_⟩
      · by_cases connected : stream.phase = .connected
        · exact Or.inl connected
        · exact Or.inr (by simpa [connected] using sending)
      split at run
      · rename_i sent
        cases run
        exact ⟨_, looked.after_nothing (Kernel.makes_send sent),
          Or.inr (Or.inr ⟨_, rfl, rfl, Kernel.send_le sent⟩)⟩
      · rename_i sent
        have made := looked.after_nothing (Kernel.makes_send sent)
        split at run
        · rename_i isAgain
          cases run
          exact ⟨_, made, Or.inl ⟨rfl, by rw [isAgain]⟩⟩
        · cases run
          exact ⟨_, made, Or.inr (Or.inl ⟨rfl, _, rfl⟩)⟩

theorem onFin_eq (stream : Stream) (now : Nat) (header : Packet.TcpHeader) (kernel : Kernel) :
    ∃ result after, Makes [.shutdown stream.socket result] kernel after ∧
      stream.onFin now header kernel =
        ⟨(stream.close.acknowledge now).1, after, (stream.close.acknowledge now).2,
          stream.isFinAcknowledged header⟩ := by
  cases run : kernel.shutdownWrite stream.socket with
  | mk result after =>
      refine ⟨result, after, Kernel.makes_shutdownWrite run, ?_⟩
      unfold onFin
      rw [run]
      cases stream.isFinAcknowledged header <;> rfl

theorem onPayload_move {stream : Stream} {segment : Segment} (now : Nat) (kernel : Kernel)
    (carries : stream.Carries segment) (payload : segment.payload ≠ []) :
    ∃ calls, Makes calls kernel ((stream.heard segment).onPayload now segment kernel).kernel ∧
      Move stream now (.segment segment) calls
        (((stream.heard segment).onPayload now segment kernel).stream,
          ((stream.heard segment).onPayload now segment kernel).frames)
        ((stream.heard segment).onPayload now segment kernel).ends := by
  unfold onPayload
  cases run : (stream.heard segment).offer segment.payload kernel with
  | mk offered between =>
      have calls := offer_calls run
      rw [IsSending, heard_phase, heard_socket] at calls
      rcases calls with ⟨rfl, made⟩ | ⟨sending, result, made, outcome⟩
      · exact ⟨[], made, .withheld carries payload⟩
      · rcases outcome with ⟨rfl, rfl⟩ | ⟨rfl, errno, rfl⟩ | ⟨count, rfl, rfl, fits⟩
        · exact ⟨_, made, .tooBusy carries payload sending⟩
        · exact ⟨_, made, .notTaken carries payload sending⟩
        · dsimp only
          by_cases whole : segment.has .fin = true ∧ count = segment.payload.length
          · obtain ⟨isLast, rfl⟩ := whole
            rw [if_pos (by simp [isLast])]
            obtain ⟨result, after, passed, turn⟩ :=
              onFin_eq ((stream.heard segment).advance segment.payload.length) now
                segment.header between
            rw [advance, heard_socket] at passed
            rw [advance] at turn
            rw [turn]
            exact ⟨_, made.trans passed, .takenToTheEnd carries payload sending isLast⟩
          · rw [if_neg (by simpa using whole)]
            refine ⟨_, made, .taken carries payload sending fits ?_⟩
            cases isLast : segment.has .fin with
            | false => exact Or.inl rfl
            | true => exact Or.inr (Nat.lt_of_le_of_ne fits fun same => whole ⟨isLast, same⟩)

/-- Every turn that the guest gives is a move. -/
theorem onSegment_move (stream : Stream) (now : Nat) (segment : Segment) (kernel : Kernel) :
    ∃ calls, Makes calls kernel (stream.onSegment now segment kernel).kernel ∧
      Move stream now (.segment segment) calls
        ((stream.onSegment now segment kernel).stream, (stream.onSegment now segment kernel).frames)
        (stream.onSegment now segment kernel).ends := by
  unfold onSegment
  cases order : stream.isInOrder segment with
  | false => exact ⟨[], Makes.refl kernel, .outOfOrder order⟩
  | true =>
      simp only [Bool.not_true, Bool.false_eq_true, if_false]
      cases isReset : segment.has .rst with
      | true => exact ⟨[], Makes.refl kernel, .brokenOff order isReset⟩
      | false =>
          cases isStart : segment.has .syn with
          | true => exact ⟨[], Makes.refl kernel, .repeatedStart order isReset isStart⟩
          | false =>
              simp only [Bool.false_eq_true, if_false]
              have carries : stream.Carries segment := ⟨order, isReset, isStart⟩
              by_cases payload : segment.payload = []
              · simp only [payload, List.isEmpty_nil, Bool.not_true, Bool.false_eq_true, if_false]
                cases isLast : segment.has .fin with
                | true =>
                    obtain ⟨result, after, passed, turn⟩ :=
                      onFin_eq (stream.heard segment) now segment.header kernel
                    rw [heard] at turn
                    rw [if_pos rfl, turn]
                    rw [heard_socket] at passed
                    exact ⟨_, passed, .ended carries payload isLast⟩
                | false =>
                    rw [if_neg Bool.false_ne_true]
                    unfold onAcknowledgment
                    split
                    · exact ⟨[], Makes.refl kernel, .acknowledged carries payload isLast⟩
                    · exact ⟨[], Makes.refl kernel, .acknowledged carries payload isLast⟩
              · have nonempty : (!segment.payload.isEmpty) = true := by simpa using payload
                rw [if_pos nonempty]
                exact onPayload_move now kernel carries payload

theorem onConnecting_move {stream : Stream} (now rounds : Nat) (ready : Kernel.Readiness)
    (kernel : Kernel) (phase : stream.phase = .connecting) :
    ∃ calls, Makes calls kernel (stream.onConnecting now ready kernel).kernel ∧
      Move stream now (.ready rounds ready) calls
        ((stream.onConnecting now ready kernel).stream, (stream.onConnecting now ready kernel).frames)
        (stream.onConnecting now ready kernel).ends := by
  unfold onConnecting
  split
  · exact ⟨[], Makes.refl kernel, .idle⟩
  · have looked := kernel.makes_takeError stream.socket
    split
    · rename_i found
      rw [found] at looked
      exact ⟨[], looked, .connected phase⟩
    · rename_i found
      rw [found] at looked
      exact ⟨[], looked, .refused phase⟩

theorem makes_findError (stream : Stream) (ready : Kernel.Readiness) (kernel : Kernel) :
    Makes [] kernel (stream.findError ready kernel).2 := by
  unfold findError
  split
  · have looked := kernel.makes_takeError stream.socket
    split <;> rename_i found <;> rwa [found] at looked
  · exact Makes.refl kernel

theorem onReadable_move {stream : Stream} (now rounds : Nat) (ready : Kernel.Readiness)
    {before kernel : Kernel} (looked : Makes [] before kernel)
    (phase : stream.phase = .connected) (nothingWaits : stream.unacknowledged = []) :
    ∃ calls, Makes calls before (stream.onReadable now kernel).kernel ∧
      Move stream now (.ready rounds ready) calls
        ((stream.onReadable now kernel).stream, (stream.onReadable now kernel).frames)
        (stream.onReadable now kernel).ends := by
  unfold onReadable
  split
  · rename_i received
    refine ⟨_, looked.after_nothing (Kernel.makes_receive received), .outsideEnded phase ?_⟩
    intro payload same
    cases same
    rfl
  · rename_i nonempty received
    exact ⟨_, looked.after_nothing (Kernel.makes_receive received),
      .delivered phase nothingWaits (fun empty => nonempty empty) (Kernel.receive_le received)⟩
  · rename_i received
    have made := looked.after_nothing (Kernel.makes_receive received)
    split
    · rename_i isAgain
      rw [isAgain] at made
      exact ⟨_, made, .nothingThere phase⟩
    · refine ⟨_, made, .outsideEnded phase ?_⟩
      intro payload same
      cases same

theorem onConnected_move {stream : Stream} (now rounds : Nat) (ready : Kernel.Readiness)
    (kernel : Kernel) (phase : stream.phase = .connected) :
    ∃ calls, Makes calls kernel (stream.onConnected now rounds ready kernel).kernel ∧
      Move stream now (.ready rounds ready) calls
        ((stream.onConnected now rounds ready kernel).stream,
          (stream.onConnected now rounds ready kernel).frames)
        (stream.onConnected now rounds ready kernel).ends := by
  have looked := makes_findError stream ready kernel
  unfold onConnected
  split
  · rename_i found
    rw [found] at looked
    exact ⟨[], looked, .failed phase⟩
  · rename_i found
    rw [found] at looked
    by_cases waiting : stream.unacknowledged = []
    · rw [if_neg (by simp [waiting])]
      split
      · exact onReadable_move now rounds ready looked phase waiting
      · exact ⟨[], looked, .idle⟩
    · rw [if_pos (by simpa using waiting)]
      unfold onWaiting
      split
      · exact ⟨[], looked, .sentAgain phase waiting⟩
      · exact ⟨[], looked, .waited phase waiting⟩

/-- Every turn is a move, whatever gives it. -/
theorem turn_move (stream : Stream) (now : Nat) (kernel : Kernel) (cause : Cause) :
    ∃ calls, Makes calls kernel (stream.turn now kernel cause).kernel ∧
      Move stream now cause calls
        ((stream.turn now kernel cause).stream, (stream.turn now kernel cause).frames)
        (stream.turn now kernel cause).ends := by
  cases cause with
  | segment segment => exact onSegment_move stream now segment kernel
  | ready rounds ready =>
      simp only [turn]
      unfold onReady
      split
      · rename_i phase
        exact onConnecting_move now rounds ready kernel phase
      · rename_i phase
        exact onConnected_move now rounds ready kernel phase
      · exact ⟨[], Makes.refl kernel, .idle⟩
      · exact ⟨[], Makes.refl kernel, .idle⟩

/-! ## What no move changes -/

structure SameParties (before after : Stream) : Prop where
  owner : after.owner = before.owner
  guestMac : after.guestMac = before.guestMac
  flow : after.flow = before.flow
  socket : after.socket = before.socket

theorem SameParties.trans {before between after : Stream} (first : SameParties before between)
    (second : SameParties between after) : SameParties before after :=
  ⟨second.owner.trans first.owner, second.guestMac.trans first.guestMac,
    second.flow.trans first.flow, second.socket.trans first.socket⟩

theorem heard_parties (stream : Stream) (segment : Segment) :
    SameParties stream (stream.heard segment) := by
  unfold heard release
  split <;> exact ⟨rfl, rfl, rfl, rfl⟩

theorem acknowledge_parties (stream : Stream) (now : Nat) :
    SameParties stream (stream.acknowledge now).1 := by
  unfold acknowledge
  split <;> exact ⟨rfl, rfl, rfl, rfl⟩

theorem disconnect_parties (stream : Stream) (now : Nat) :
    SameParties stream (stream.disconnect now).1 := by
  have parted : SameParties stream stream.withoutOutside := ⟨rfl, rfl, rfl, rfl⟩
  rw [disconnect_eq]
  exact parted.trans (acknowledge_parties ..)

theorem advance_parties (stream : Stream) (count : Nat) : SameParties stream (stream.advance count) :=
  ⟨rfl, rfl, rfl, rfl⟩

theorem close_parties (stream : Stream) : SameParties stream stream.close := ⟨rfl, rfl, rfl, rfl⟩

namespace Move

variable {stream : Stream} {now : Nat} {cause : Cause} {calls : List Call}
  {sent : Stream × List Bytes} {ends : Bool}

theorem parties (move : Move stream now cause calls sent ends) : SameParties stream sent.1 := by
  cases move with
  | outOfOrder | idle | nothingThere => exact ⟨rfl, rfl, rfl, rfl⟩
  | brokenOff | repeatedStart | connected | refused | sentAgain | waited | delivered =>
      exact ⟨rfl, rfl, rfl, rfl⟩
  | withheld | tooBusy | acknowledged => exact heard_parties ..
  | notTaken => exact (heard_parties ..).trans (disconnect_parties ..)
  | taken =>
      exact ((heard_parties ..).trans (advance_parties ..)).trans (acknowledge_parties ..)
  | takenToTheEnd =>
      exact (((heard_parties ..).trans (advance_parties ..)).trans (close_parties _)).trans
        (acknowledge_parties ..)
  | ended => exact ((heard_parties ..).trans (close_parties _)).trans (acknowledge_parties ..)
  | failed | outsideEnded => exact disconnect_parties ..

theorem about_socket (move : Move stream now cause calls sent ends) :
    ∀ call ∈ calls, call.socket? = some stream.socket ∧ call.keepsSockets = true := by
  cases move <;> simp [Call.socket?, Call.keepsSockets]

end Move

theorem turn_socket (stream : Stream) (now : Nat) (kernel : Kernel) (cause : Cause) :
    (stream.turn now kernel cause).stream.socket = stream.socket := by
  obtain ⟨calls, _, move⟩ := turn_move stream now kernel cause
  exact move.parties.socket

end Masquerade.Stream
