import Masquerade.Proofs.Stream.Phases

/-!
# How streams end

A segment ends a stream if it is admitted and breaks the stream off, if it brings the
last mark of the guest when ours is acknowledged, or if it acknowledges ours when that
of the guest has come before.  A round ends a stream only while that is being
connected, and only for an error.
-/

set_option autoImplicit false

namespace Masquerade.Stream

open Kernel (Makes)

def Admits (stream : Stream) (segment : Segment) : Prop :=
  (segment.payload = [] ∧ segment.has .fin = false) ∨ segment.header.sequence = stream.guestNext

structure IsAcknowledgedBy (stream : Stream) (segment : Segment) : Prop where
  marked : segment.has .ack = true
  next : segment.header.acknowledgment = stream.outsideNext

/-- Why a segment that is admitted ends a stream, given the calls of the turn. -/
inductive EndedBy (stream : Stream) (segment : Segment) (calls : List Call) : Prop
  | brokenOff (reset : segment.has .rst = true)
  /-- The last mark is accepted, and ours is acknowledged at once. -/
  | bothClosed (noStart : segment.has .syn = false) (isLast : segment.has .fin = true)
      (taken : segment.payload = [] ∨ stream.IsSending ∧
        .send stream.socket segment.payload (.ok segment.payload.length) ∈ calls)
      (sent : stream.finSent = true) (acknowledged : stream.IsAcknowledgedBy segment)
  | lastAcknowledged (noStart : segment.has .syn = false) (notLast : segment.has .fin = false)
      (empty : segment.payload = []) (phase : stream.phase = .bothClosed)
      (acknowledged : stream.IsAcknowledgedBy segment)

theorem EndedBy.of_sends {stream : Stream} {segment : Segment}
    {calls others : List Call} (ended : stream.EndedBy segment calls)
    (sends : ∀ call, call.isSend = true → call ∈ calls → call ∈ others) :
    stream.EndedBy segment others := by
  cases ended with
  | brokenOff reset => exact .brokenOff reset
  | bothClosed noStart isLast taken sent acknowledged =>
      have takenToo := taken.imp_right (And.imp_right (sends _ rfl))
      exact .bothClosed noStart isLast takenToo sent acknowledged
  | lastAcknowledged noStart notLast empty phase acknowledged =>
      exact .lastAcknowledged noStart notLast empty phase acknowledged

theorem isInOrder_iff (stream : Stream) (segment : Segment) :
    stream.isInOrder segment = true ↔ stream.Admits segment := by
  simp only [isInOrder, Admits, Bool.or_eq_true, Bool.and_eq_true, Bool.not_eq_true',
    List.isEmpty_iff, beq_iff_eq]
  constructor
  · rintro (⟨notLast, empty⟩ | place)
    · exact Or.inl ⟨empty, notLast⟩
    · exact Or.inr place
  · rintro (⟨empty, notLast⟩ | place)
    · exact Or.inl ⟨notLast, empty⟩
    · exact Or.inr place

theorem isFinAcknowledged_iff (stream : Stream) (segment : Segment) :
    stream.isFinAcknowledged segment.header = true ↔
      stream.finSent = true ∧ stream.IsAcknowledgedBy segment := by
  simp only [isFinAcknowledged, Bool.and_eq_true, beq_iff_eq]
  constructor
  · rintro ⟨⟨sent, marked⟩, next⟩
    exact ⟨sent, marked, next⟩
  · rintro ⟨sent, marked, next⟩
    exact ⟨⟨sent, marked⟩, next⟩

theorem heard_isFinAcknowledged (stream : Stream) (segment : Segment) :
    (stream.heard segment).isFinAcknowledged segment.header =
      stream.isFinAcknowledged segment.header := by
  rw [isFinAcknowledged, isFinAcknowledged, heard_finSent, heard_outsideNext]

/-! ## Segments -/

section Segments

variable {stream : Stream} {segment : Segment}

theorem onSegment_of_bare (now : Nat) (kernel : Kernel) (carries : stream.Carries segment)
    (empty : segment.payload = []) (notLast : segment.has .fin = false) :
    stream.onSegment now segment kernel =
      (stream.heard segment).onAcknowledgment segment.header kernel := by
  simp only [onSegment, carries.inOrder, carries.noReset, carries.noStart, empty, notLast,
    Bool.not_true, Bool.false_eq_true, if_false, List.isEmpty_nil]
  rfl

theorem onAcknowledgment_ends_iff (stream : Stream) (header : Packet.TcpHeader)
    (kernel : Kernel) :
    (stream.onAcknowledgment header kernel).ends = true ↔
      stream.phase = .bothClosed ∧ stream.isFinAcknowledged header = true := by
  simp only [onAcknowledgment]
  split
  · rename_i ended
    exact ⟨fun _ => ended, fun _ => rfl⟩
  · rename_i goesOn
    refine ⟨fun ends => ?_, fun ended => absurd ended goesOn⟩
    cases ends

theorem not_endedBy {calls : List Call} (noReset : segment.has .rst = false)
    (unended : segment.has .syn = false → segment.payload = [] ∨
      Call.send stream.socket segment.payload (.ok segment.payload.length) ∈ calls →
      segment.has .fin = false ∧ segment.payload ≠ []) :
    ¬ stream.EndedBy segment calls := by
  intro ended
  cases ended with
  | brokenOff reset =>
      rw [noReset] at reset
      cases reset
  | bothClosed noStart isLast taken =>
      rw [(unended noStart (taken.imp_right And.right)).1] at isLast
      cases isLast
  | lastAcknowledged noStart notLast empty => exact (unended noStart (Or.inl empty)).2 empty

theorem endedBy_iff_of_last {calls : List Call} (carries : stream.Carries segment)
    (isLast : segment.has .fin = true)
    (taken : segment.payload = [] ∨ stream.IsSending ∧
      .send stream.socket segment.payload (.ok segment.payload.length) ∈ calls) :
    stream.EndedBy segment calls ↔ stream.isFinAcknowledged segment.header = true := by
  rw [isFinAcknowledged_iff]
  constructor
  · intro ended
    cases ended with
    | brokenOff reset =>
        rw [carries.noReset] at reset
        cases reset
    | bothClosed _ _ _ sent acknowledged => exact ⟨sent, acknowledged⟩
    | lastAcknowledged _ notLast =>
        rw [isLast] at notLast
        cases notLast
  · rintro ⟨sent, acknowledged⟩
    exact .bothClosed carries.noStart isLast taken sent acknowledged

theorem endedBy_iff_of_bare {calls : List Call} (settled : stream.IsSettled)
    (carries : stream.Carries segment) (empty : segment.payload = [])
    (notLast : segment.has .fin = false) :
    stream.EndedBy segment calls ↔
      stream.phase = .bothClosed ∧ stream.isFinAcknowledged segment.header = true := by
  rw [isFinAcknowledged_iff]
  constructor
  · intro ended
    cases ended with
    | brokenOff reset =>
        rw [carries.noReset] at reset
        cases reset
    | bothClosed _ isLast =>
        rw [notLast] at isLast
        cases isLast
    | lastAcknowledged _ _ _ phase acknowledged =>
        have sent : stream.finSent = true := by
          rw [settled, phase]
          rfl
        exact ⟨phase, sent, acknowledged⟩
  · rintro ⟨phase, _, acknowledged⟩
    exact .lastAcknowledged carries.noStart notLast empty phase acknowledged

/-- What a move does with a stream is settled by the move alone, but for a segment without
bytes and marks. -/
theorem Move.ends_iff {now : Nat} {calls : List Call} {sent : Stream × List Bytes} {ends : Bool}
    (move : Move stream now (.segment segment) calls sent ends) (settled : stream.IsSettled)
    (bare : stream.Carries segment → segment.payload = [] → segment.has .fin = false →
      (ends = true ↔ stream.phase = .bothClosed ∧
        stream.isFinAcknowledged segment.header = true)) :
    ends = true ↔ stream.Admits segment ∧ stream.EndedBy segment calls := by
  have never {stays : ¬ (stream.Admits segment ∧ stream.EndedBy segment calls)} :
      false = true ↔ stream.Admits segment ∧ stream.EndedBy segment calls := by
    simpa using stays
  cases move with
  | outOfOrder order =>
      apply never
      rintro ⟨admitted, _⟩
      rw [(isInOrder_iff ..).mpr admitted] at order
      cases order
  | brokenOff order isReset =>
      exact ⟨fun _ => ⟨(isInOrder_iff ..).mp order, .brokenOff isReset⟩, fun _ => rfl⟩
  | repeatedStart order noReset isStart =>
      apply never
      rintro ⟨_, ended⟩
      refine not_endedBy noReset (fun noStart => ?_) ended
      rw [isStart] at noStart
      cases noStart
  -- A last mark counts only together with bytes that the socket has taken.
  | withheld carries payload =>
      apply never
      rintro ⟨_, ended⟩
      refine not_endedBy carries.noReset (fun _ taken => ?_) ended
      rcases taken with empty | member
      · exact absurd empty payload
      · cases member
  | tooBusy carries payload | notTaken carries payload =>
      apply never
      rintro ⟨_, ended⟩
      refine not_endedBy carries.noReset (fun _ taken => ?_) ended
      rcases taken with empty | member
      · exact absurd empty payload
      · cases List.mem_singleton.mp member
  | taken carries payload sending fits notLast =>
      apply never
      rintro ⟨_, ended⟩
      refine not_endedBy carries.noReset (fun _ taken => ⟨?_, payload⟩) ended
      rcases taken with empty | member
      · exact absurd empty payload
      · cases List.mem_singleton.mp member
        exact notLast.resolve_right (Nat.lt_irrefl _)
  | takenToTheEnd carries payload sending isLast =>
      have admitted := (isInOrder_iff ..).mp carries.inOrder
      rw [heard_isFinAcknowledged, and_iff_right admitted]
      exact (endedBy_iff_of_last carries isLast (Or.inr ⟨sending, List.mem_cons_self ..⟩)).symm
  | ended carries empty isLast =>
      have admitted := (isInOrder_iff ..).mp carries.inOrder
      rw [heard_isFinAcknowledged, and_iff_right admitted]
      exact (endedBy_iff_of_last carries isLast (Or.inl empty)).symm
  | acknowledged carries empty notLast =>
      have admitted := (isInOrder_iff ..).mp carries.inOrder
      rw [bare carries empty notLast, and_iff_right admitted]
      exact (endedBy_iff_of_bare settled carries empty notLast).symm

end Segments

/-- A segment ends a stream just if it is admitted and has reason to. -/
theorem onSegment_ends_iff {stream : Stream} (settled : stream.IsSettled) (now : Nat)
    (segment : Segment) {kernel : Kernel} {calls : List Call}
    (made : Makes calls kernel (stream.onSegment now segment kernel).kernel) :
    (stream.onSegment now segment kernel).ends = true ↔
      stream.Admits segment ∧ stream.EndedBy segment calls := by
  obtain ⟨others, same, move⟩ := onSegment_move stream now segment kernel
  rw [← made.callsSince_eq, same.callsSince_eq]
  refine move.ends_iff settled fun carries empty notLast => ?_
  rw [onSegment_of_bare now kernel carries empty notLast, onAcknowledgment_ends_iff, heard_phase,
    heard_isFinAcknowledged]

/-! ## Rounds -/

theorem Move.connecting_of_ends {stream : Stream} {now rounds : Nat} {ready : Kernel.Readiness}
    {calls : List Call} {sent : Stream × List Bytes} {ends : Bool}
    (move : Move stream now (.ready rounds ready) calls sent ends) (ended : ends = true) :
    stream.phase = .connecting := by
  cases move with
  | refused phase => exact phase
  | idle | connected | failed | sentAgain | waited | delivered | nothingThere | outsideEnded =>
      cases ended

theorem onConnecting_ends_iff (stream : Stream) (now : Nat) (ready : Kernel.Readiness)
    (kernel : Kernel) :
    (stream.onConnecting now ready kernel).ends = true ↔
      (ready.writable = true ∨ ready.error = true) ∧
        (kernel.takeError stream.socket).1 ≠ .ok none := by
  simp only [onConnecting]
  split
  · rename_i silent
    rw [Bool.not_eq_true', Bool.or_eq_false_iff] at silent
    constructor
    · intro ends
      cases ends
    · rintro ⟨reported, _⟩
      rw [silent.1, silent.2] at reported
      simp at reported
  · rename_i reported
    rw [Bool.not_eq_true', Bool.not_eq_false, Bool.or_eq_true] at reported
    rw [and_iff_right reported]
    split
    · rename_i connected
      constructor
      · intro ends
        cases ends
      · intro failed
        exact absurd (congrArg Prod.fst connected) failed
    · rename_i result after failed looked
      refine ⟨fun _ found => ?_, fun _ => rfl⟩
      rw [looked] at found
      exact failed found

/-- A round ends a stream just if that is being connected, its socket tells of
something, and the look at its error finds one or fails. -/
theorem onReady_ends_iff (stream : Stream) (now rounds : Nat) (ready : Kernel.Readiness)
    (kernel : Kernel) :
    (stream.onReady now rounds ready kernel).ends = true ↔
      stream.phase = .connecting ∧ (ready.writable = true ∨ ready.error = true) ∧
        (kernel.takeError stream.socket).1 ≠ .ok none := by
  by_cases phase : stream.phase = .connecting
  · have turn : stream.onReady now rounds ready kernel = stream.onConnecting now ready kernel := by
      simp only [onReady, phase]
    rw [turn, and_iff_right phase, onConnecting_ends_iff]
  · obtain ⟨calls, _, move⟩ := stream.turn_move now kernel (.ready rounds ready)
    exact ⟨fun ends => absurd (move.connecting_of_ends ends) phase,
      fun ended => absurd ended.1 phase⟩

end Masquerade.Stream
