import Masquerade.Proofs.Stream.Reassembly

/-!
# What the guest has been supplied with

Three things stay true of all that a stream has sent and received so far, turn after
turn: the place of its next byte is counted out by marks and bytes, the kept bytes are
those sent last, and every byte was sent in its place.
-/

set_option autoImplicit false

namespace Masquerade.Stream

open Packet (ControlBit)

theorem isClosing_ne {stream : Stream} (closing : stream.phase.isClosing = true) :
    stream.phase ≠ .connecting ∧ stream.phase ≠ .connected := by
  constructor <;> intro phase <;> rw [phase] at closing <;> cases closing

/-! ## Counting -/

/-- Where the next byte goes, when these segments were sent and these bytes received. -/
structure Counted (initial : UInt32) (segments : List Segment) (received : Bytes)
    (stream : Stream) : Prop where
  next : stream.outsideNext = initial + UInt32.ofNat (markCount .syn segments) +
    UInt32.ofNat received.length + UInt32.ofNat (markCount .fin segments)
  startOnce : markCount .syn segments ≤ 1
  endOnce : markCount .fin segments = stream.finSent.toNat
  closing : stream.finSent = true → stream.phase.isClosing = true
  connecting : stream.phase = .connecting → markCount .syn segments = 0 ∧ received = []
  connected : stream.phase = .connected → markCount .syn segments = 1
  begun : received ≠ [] → markCount .syn segments = 1

namespace Counted

variable {initial : UInt32} {segments sent : List Segment} {received new : Bytes}
  {before after : Stream}

theorem plain (counted : Counted initial segments received before) (steady : Steady before after)
    (noStart : markCount .syn sent = 0) (noEnd : markCount .fin sent = 0) :
    Counted initial (segments ++ sent) (received ++ []) after := by
  rw [List.append_nil]
  constructor
  · rw [markCount_append, markCount_append, noStart, noEnd, steady.next]
    exact counted.next
  · rw [markCount_append, noStart]
    exact counted.startOnce
  · rw [markCount_append, noEnd, steady.finSent]
    exact counted.endOnce
  · intro finSent
    rcases steady.phase with same | closing
    · rw [same]
      exact counted.closing (steady.finSent ▸ finSent)
    · exact closing
  · intro phase
    rcases steady.phase with same | closing
    · rw [markCount_append, noStart]
      exact counted.connecting (same ▸ phase)
    · exact absurd phase (isClosing_ne closing).1
  · intro phase
    rcases steady.phase with same | closing
    · rw [markCount_append, noStart]
      exact counted.connected (same ▸ phase)
    · exact absurd phase (isClosing_ne closing).2
  · intro nonempty
    rw [markCount_append, noStart]
    exact counted.begun nonempty

theorem noFin (counted : Counted initial segments received before)
    (phase : before.phase.isClosing = false) : before.finSent = false := by
  cases finSent : before.finSent with
  | false => rfl
  | true =>
      have closing := counted.closing finSent
      rw [phase] at closing
      cases closing

theorem turn (counted : Counted initial segments received before)
    (supply : Supply before new sent after) :
    Counted initial (segments ++ sent) (received ++ new) after := by
  -- The next place moves by what the counts of the two marks and the bytes received do.
  cases supply with
  | plain steady bare =>
      exact counted.plain steady (markCount_eq_zero fun segment member => (bare segment member).noStart)
        (markCount_eq_zero fun segment member => (bare segment member).noEnd)
  | repeated phase waiting isAt steady =>
      exact counted.plain steady (isAt.markCount .syn) (isAt.markCount .fin)
  | @started segment after phase isAt connected next finSent kept =>
      have start : markCount .syn [segment] = 1 := isAt.markCount .syn
      have noEnd : markCount .fin [segment] = 0 := isAt.markCount .fin
      obtain ⟨none, empty⟩ := counted.connecting phase
      have unsent := counted.noFin (by rw [phase]; rfl)
      have unended := counted.endOnce
      rw [unsent] at unended
      subst empty
      constructor
      · rw [markCount_append, markCount_append, start, noEnd, next, counted.next, none, unended]
        simp
      · simp [markCount_append, start, none]
      · rw [markCount_append, noEnd, finSent]
        exact counted.endOnce
      · intro sentEnd
        rw [finSent, unsent] at sentEnd
        cases sentEnd
      · intro connecting
        rw [connected] at connecting
        cases connecting
      · intro _
        rw [markCount_append, start, none]
      · intro nonempty
        exact absurd rfl nonempty
  | @delivered payload segment after phase nonempty fits isAt samePhase next finSent kept keptFrom =>
      have noStart : markCount .syn [segment] = 0 := isAt.markCount .syn
      have noEnd : markCount .fin [segment] = 0 := isAt.markCount .fin
      have unended := counted.endOnce
      rw [counted.noFin (by rw [phase]; rfl)] at unended
      constructor
      · rw [markCount_append, markCount_append, noStart, noEnd, next, counted.next, unended,
          List.length_append]
        simp [UInt32.ofNat_add, UInt32.add_assoc]
      · rw [markCount_append, noStart]
        exact counted.startOnce
      · rw [markCount_append, noEnd, finSent]
        exact counted.endOnce
      · intro sentEnd
        rw [samePhase]
        exact counted.closing (finSent ▸ sentEnd)
      · intro connecting
        rw [samePhase, phase] at connecting
        cases connecting
      · intro _
        rw [markCount_append, noStart]
        exact counted.connected phase
      · intro _
        rw [markCount_append, noStart]
        exact counted.connected phase
  | @finished segment after unsent isAt closing next finSent kept =>
      have noStart : markCount .syn [segment] = 0 := isAt.markCount .syn
      have fin : markCount .fin [segment] = 1 := isAt.markCount .fin
      have unended := counted.endOnce
      rw [unsent] at unended
      rw [List.append_nil]
      constructor
      · rw [markCount_append, markCount_append, noStart, fin, next, counted.next, unended]
        simp
      · rw [markCount_append, noStart]
        exact counted.startOnce
      · rw [markCount_append, fin, unended, finSent]
        rfl
      · intro _
        exact closing
      · intro connecting
        exact absurd connecting (isClosing_ne closing).1
      · intro connected
        exact absurd connected (isClosing_ne closing).2
      · intro nonempty
        rw [markCount_append, noStart]
        exact counted.begun nonempty

/-- Before the last mark, the next place is behind all that was received. -/
theorem next_of_unsent (counted : Counted initial segments received before)
    (unsent : before.finSent = false) :
    before.outsideNext = initial + UInt32.ofNat (markCount .syn segments) +
      UInt32.ofNat received.length := by
  have none := counted.endOnce
  rw [unsent] at none
  rw [counted.next, none]
  simp

theorem no_end_of_unsent (counted : Counted initial segments received before)
    (unsent : before.finSent = false) : ∀ segment ∈ segments, segment.has .fin = false := by
  apply has_eq_false_of_markCount
  rw [counted.endOnce, unsent]
  rfl

end Counted

/-! ## The kept bytes -/

/-- The bytes that may have to be sent again were sent last, and end in the next place. -/
structure Buffered (segments : List Segment) (stream : Stream) : Prop where
  fits : stream.unacknowledged.length ≤ mostRead
  connecting : stream.phase = .connecting → stream.unacknowledged = []
  waiting : stream.phase = .connected → stream.unacknowledged ≠ [] →
    stream.unacknowledgedFrom + UInt32.ofNat stream.unacknowledged.length = stream.outsideNext ∧
      ∃ segment ∈ segments, segment.payload = stream.unacknowledged ∧
        segment.header.sequence = stream.unacknowledgedFrom

namespace Buffered

variable {segments sent : List Segment} {new : Bytes} {before after : Stream}

theorem steady (buffered : Buffered segments before) (steady : Steady before after) :
    Buffered (segments ++ sent) after := by
  rcases steady.kept with none | ⟨same, sameFrom⟩
  · refine ⟨?_, fun _ => none, fun _ some => absurd none some⟩
    rw [none]
    exact Nat.zero_le _
  · refine ⟨?_, fun connecting => ?_, fun connected nonempty => ?_⟩
    · rw [same]
      exact buffered.fits
    · rcases steady.phase with phase | closing
      · rw [same]
        exact buffered.connecting (phase ▸ connecting)
      · exact absurd connecting (isClosing_ne closing).1
    · rcases steady.phase with phase | closing
      · rw [same] at nonempty ⊢
        rw [sameFrom, steady.next]
        obtain ⟨ending, segment, member, payload, place⟩ :=
          buffered.waiting (phase ▸ connected) nonempty
        exact ⟨ending, segment, List.mem_append_left _ member, payload, place⟩
      · exact absurd connected (isClosing_ne closing).2

theorem turn (buffered : Buffered segments before) (supply : Supply before new sent after) :
    Buffered (segments ++ sent) after := by
  cases supply with
  | plain steady bare => exact buffered.steady steady
  | repeated phase waiting isAt steady => exact buffered.steady steady
  | started phase isAt connected next finSent kept =>
      have none := kept.trans (buffered.connecting phase)
      refine ⟨?_, fun _ => none, fun _ some => absurd none some⟩
      rw [none]
      exact Nat.zero_le _
  | @delivered payload segment after phase nonempty fits isAt samePhase next finSent kept keptFrom =>
      refine ⟨?_, fun connecting => ?_, fun _ _ => ?_⟩
      · rw [kept]
        exact fits
      · rw [samePhase, phase] at connecting
        cases connecting
      · rw [kept, keptFrom, next]
        exact ⟨rfl, segment, List.mem_append_right _ (List.mem_singleton_self _), isAt.payload,
          isAt.sequence⟩
  | finished unsent isAt closing next finSent kept =>
      refine ⟨?_, fun connecting => absurd connecting (isClosing_ne closing).1,
        fun connected => absurd connected (isClosing_ne closing).2⟩
      rcases kept with none | ⟨same, _⟩
      · rw [none]
        exact Nat.zero_le _
      · rw [same]
        exact buffered.fits

end Buffered

/-! ## Places -/

/-- Every byte was sent in its place, and nothing but the last mark lies behind them. -/
structure Placed (initial : UInt32) (segments : List Segment) (received : Bytes) : Prop where
  inPlace : ∀ place byte, received[place]? = some byte →
    ∃ segment ∈ segments, ∃ index, segment.payload[index]? = some byte ∧
      segment.header.sequence + UInt32.ofNat index =
        initial + UInt32.ofNat (markCount .syn segments) + UInt32.ofNat place
  ending : ∀ segment ∈ segments, segment.has .fin = true →
    segment.header.sequence =
      initial + UInt32.ofNat (markCount .syn segments) + UInt32.ofNat received.length
  endLast : segments.Pairwise fun earlier later => earlier.has .fin = true → later.payload = []
  unbegun : markCount .syn segments = 0 → ∀ segment ∈ segments, segment.payload = []
  reassembled :
    reassemble (initial + UInt32.ofNat (markCount .syn segments)) segments = received

namespace Placed

variable {initial : UInt32} {segments sent : List Segment} {received new : Bytes}
  {before after : Stream}

theorem bare (placed : Placed initial segments received)
    (bare : ∀ segment ∈ sent, IsBare segment) :
    Placed initial (segments ++ sent) (received ++ []) := by
  have noStart : markCount .syn sent = 0 :=
    markCount_eq_zero fun segment member => (bare segment member).noStart
  have same : markCount .syn (segments ++ sent) = markCount .syn segments := by
    rw [markCount_append, noStart, Nat.add_zero]
  have empty : ∀ segment ∈ sent, segment.payload = [] :=
    fun segment member => (bare segment member).empty
  rw [List.append_nil]
  constructor
  · intro place byte found
    rw [same]
    obtain ⟨segment, member, index, there⟩ := placed.inPlace place byte found
    exact ⟨segment, List.mem_append_left _ member, index, there⟩
  · intro segment member ends
    rw [same]
    rcases List.mem_append.mp member with old | fresh
    · exact placed.ending segment old ends
    · rw [(bare segment fresh).noEnd] at ends
      cases ends
  · refine List.pairwise_append.mpr ⟨placed.endLast, ?_, fun _ _ later member _ => empty later member⟩
    exact List.pairwise_of_forall_mem_list fun _ _ later member _ => empty later member
  · intro none segment member
    rw [same] at none
    rcases List.mem_append.mp member with old | fresh
    · exact placed.unbegun none segment old
    · exact empty segment fresh
  · rw [same, reassemble_append, placed.reassembled, reassemble_empty empty, List.append_nil]

/-- One more segment, with `new` for all that it adds to what was received. -/
theorem extend {segment : Segment} (placed : Placed initial segments received)
    (noStart : markCount .syn [segment] = 0)
    (begun : markCount .syn segments = 0 → segment.payload = [])
    (noEnd : segment.payload ≠ [] → ∀ earlier ∈ segments, earlier.has .fin = false)
    (onlyBytes : new ≠ [] → segment.payload ≠ [])
    (ending : segment.has .fin = true → segment.header.sequence =
      initial + UInt32.ofNat (markCount .syn segments) + UInt32.ofNat (received ++ new).length)
    (inPlace : ∀ place byte, new[place]? = some byte → ∃ index, segment.payload[index]? = some byte ∧
      segment.header.sequence + UInt32.ofNat index =
        initial + UInt32.ofNat (markCount .syn segments) + UInt32.ofNat (received.length + place))
    (adds : reassemble (initial + UInt32.ofNat (markCount .syn segments) +
      UInt32.ofNat received.length) [segment] = new) :
    Placed initial (segments ++ [segment]) (received ++ new) := by
  have same : markCount .syn (segments ++ [segment]) = markCount .syn segments := by
    rw [markCount_append, noStart, Nat.add_zero]
  constructor
  · intro place byte found
    rw [same]
    rw [List.getElem?_append] at found
    split at found
    · obtain ⟨other, member, index, there⟩ := placed.inPlace place byte found
      exact ⟨other, List.mem_append_left _ member, index, there⟩
    · rename_i beyond
      obtain ⟨index, there, position⟩ := inPlace (place - received.length) byte found
      have sum : received.length + (place - received.length) = place := by omega
      rw [sum] at position
      exact ⟨segment, List.mem_append_right _ (List.mem_singleton_self _), index, there, position⟩
  · intro other member ends
    rw [same]
    rcases List.mem_append.mp member with old | fresh
    · by_cases nothing : new = []
      · rw [nothing, List.append_nil]
        exact placed.ending other old ends
      · rw [noEnd (onlyBytes nothing) other old] at ends
        cases ends
    · rw [List.mem_singleton.mp fresh] at ends ⊢
      exact ending ends
  · refine List.pairwise_append.mpr ⟨placed.endLast, List.pairwise_singleton .., ?_⟩
    intro earlier old later fresh ends
    rw [List.mem_singleton.mp fresh]
    by_cases empty : segment.payload = []
    · exact empty
    · rw [noEnd empty earlier old] at ends
      cases ends
  · intro none other member
    rw [same] at none
    rcases List.mem_append.mp member with old | fresh
    · exact placed.unbegun none other old
    · rw [List.mem_singleton.mp fresh]
      exact begun none
  · rw [same, reassemble_append, placed.reassembled, adds]

theorem turn (placed : Placed initial segments received)
    (counted : Counted initial segments received before) (buffered : Buffered segments before)
    (supply : Supply before new sent after) :
    Placed initial (segments ++ sent) (received ++ new) := by
  -- Bytes that are sent again end where the next ones begin; all others begin there.
  cases supply with
  | plain steady bare => exact placed.bare bare
  | @started segment after phase isAt connected next finSent kept =>
      obtain ⟨none, rfl⟩ := counted.connecting phase
      have unsent := counted.noFin (by rw [phase]; rfl)
      have empty : ∀ other ∈ segments ++ [segment], other.payload = [] := by
        intro other member
        rcases List.mem_append.mp member with old | fresh
        · exact placed.unbegun none other old
        · rw [List.mem_singleton.mp fresh]
          exact isAt.payload
      constructor
      · simp
      · intro other member ends
        rcases List.mem_append.mp member with old | fresh
        · rw [counted.no_end_of_unsent unsent other old] at ends
          cases ends
        · have noEnd : segment.has .fin = false := isAt.has .fin
          rw [List.mem_singleton.mp fresh, noEnd] at ends
          cases ends
      · exact List.pairwise_of_forall_mem_list fun _ _ later member _ => empty later member
      · intro _
        exact empty
      · rw [reassemble_empty empty]
        rfl
  | @delivered payload segment after phase nonempty fits isAt samePhase next finSent kept keptFrom =>
      have unsent := counted.noFin (by rw [phase]; rfl)
      have place := isAt.sequence.trans (counted.next_of_unsent unsent)
      refine placed.extend (isAt.markCount .syn) ?_ (fun _ => counted.no_end_of_unsent unsent) ?_ ?_
        ?_ ?_
      · intro none
        rw [counted.connected phase] at none
        cases none
      · intro _
        rw [isAt.payload]
        exact nonempty
      · intro ends
        have noEnd : segment.has .fin = false := isAt.has .fin
        rw [noEnd] at ends
        cases ends
      · intro index byte found
        refine ⟨index, by rw [isAt.payload]; exact found, ?_⟩
        rw [place, UInt32.ofNat_add, UInt32.add_assoc]
      · rw [reassemble_next place, isAt.payload]
  | @repeated segment after phase waiting isAt steady =>
      have unsent := counted.noFin (by rw [phase]; rfl)
      obtain ⟨ending, _⟩ := buffered.waiting phase waiting
      refine placed.extend (isAt.markCount .syn) ?_ (fun _ => counted.no_end_of_unsent unsent)
        (fun some => absurd rfl some) ?_ (by simp) ?_
      · intro none
        rw [counted.connected phase] at none
        cases none
      · intro ends
        have noEnd : segment.has .fin = false := isAt.has .fin
        rw [noEnd] at ends
        cases ends
      · apply reassemble_known
        · rw [isAt.sequence, isAt.payload, ending]
          exact counted.next_of_unsent unsent
        · rw [isAt.payload]
          exact Nat.lt_of_le_of_lt buffered.fits (by decide)
  | @finished segment after unsent isAt closing next finSent kept =>
      have place := isAt.sequence.trans (counted.next_of_unsent unsent)
      refine placed.extend (isAt.markCount .syn) (fun _ => isAt.payload)
        (fun _ => counted.no_end_of_unsent unsent) (fun some => absurd rfl some) (fun _ => ?_)
        (by simp) ?_
      · rw [List.append_nil]
        exact place
      · rw [reassemble_next place, isAt.payload]

end Placed

/-- Bytes go where the next byte belongs, or where they were sent before. -/
theorem Supply.places {initial : UInt32} {segments sent : List Segment} {received new : Bytes}
    {before after : Stream} (supply : Supply before new sent after)
    (counted : Counted initial segments received before) (buffered : Buffered segments before) :
    ∀ segment ∈ sent, segment.payload ≠ [] →
      (new = segment.payload ∧ segment.header.sequence =
        initial + UInt32.ofNat (markCount .syn segments) + UInt32.ofNat received.length) ∨
      (new = [] ∧ ∃ earlier ∈ segments,
        earlier.header.sequence = segment.header.sequence ∧ earlier.payload = segment.payload) := by
  intro segment member nonempty
  cases supply with
  | plain steady bare => exact absurd (bare segment member).empty nonempty
  | started phase isAt | finished unsent isAt =>
      rw [List.mem_singleton.mp member] at nonempty
      exact absurd isAt.payload nonempty
  | delivered phase some fits isAt =>
      left
      rw [List.mem_singleton.mp member]
      have unsent := counted.noFin (by rw [phase]; rfl)
      exact ⟨isAt.payload.symm, isAt.sequence.trans (counted.next_of_unsent unsent)⟩
  | repeated phase waiting isAt =>
      right
      rw [List.mem_singleton.mp member]
      obtain ⟨_, earlier, there, payload, place⟩ := buffered.waiting phase waiting
      exact ⟨rfl, earlier, there, place.trans isAt.sequence.symm, payload.trans isAt.payload.symm⟩

theorem nothing_supplied {stream : Stream} (phase : stream.phase = .connecting)
    (unsent : stream.finSent = false) (unkept : stream.unacknowledged = []) :
    Counted stream.outsideNext [] [] stream ∧ Buffered [] stream ∧
      Placed stream.outsideNext [] [] := by
  refine ⟨⟨by simp [markCount], by simp [markCount], by simp [markCount, unsent], by simp [unsent],
    by simp [markCount], by simp [phase], by simp⟩, ⟨by simp [unkept], fun _ => unkept,
    fun _ some => absurd unkept some⟩, ⟨by simp, by simp, .nil, by simp, rfl⟩⟩

end Masquerade.Stream
