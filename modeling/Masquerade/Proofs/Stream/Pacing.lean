import Masquerade.Proofs.Stream.Emission
import Masquerade.Proofs.Stream.Waiting

/-!
# How often waiting bytes are sent again

The rounds that bytes have waited are counted below the number of rounds after which they
are sent again.  Of any row of rounds that find no error, one in so many sends them again,
and the rest of them is what the stream counts afterwards.
-/

set_option autoImplicit false

namespace Masquerade.Stream

open Kernel (Makes Readiness)
open Packet (ControlBit segmentIn)

/-- The rounds that bytes have waited are fewer than those after which they are sent again;
bytes that may wait for no round are sent again in each. -/
def IsPaced (rounds : Nat) (stream : Stream) : Prop := stream.waitedRounds < max 1 rounds

def waitFor (stream : Stream) (rounds count : Nat) : Stream :=
  { stream with
    waitedRounds := (stream.waitedRounds + count) % max 1 rounds
    identification :=
      stream.identification + UInt16.ofNat ((stream.waitedRounds + count) / max 1 rounds) }

def IsRepeat (stream : Stream) (frame : Bytes) : Prop :=
  ∃ segment, segmentIn frame = some (stream.flow.reversed, segment) ∧
    segment.header.acknowledgment = stream.guestNext ∧
    IsAt segment (ControlBit.byteOf [.ack, .psh]) stream.unacknowledgedFrom stream.unacknowledged

structure Repeats (stream : Stream) (rounds count : Nat) (frames : List Bytes) : Prop where
  often : frames.length = (stream.waitedRounds + count) / max 1 rounds
  each : ∀ frame ∈ frames, stream.IsRepeat frame

/-! ## Rows of rounds -/

section Rows

variable {stream : Stream} {rounds : Nat}

theorem waitFor_zero (paced : stream.IsPaced rounds) : stream.waitFor rounds 0 = stream := by
  rw [waitFor, Nat.add_zero, Nat.mod_eq_of_lt paced, Nat.div_eq_of_lt paced]
  simp

theorem isPaced_waitFor (count : Nat) : (stream.waitFor rounds count).IsPaced rounds :=
  Nat.mod_lt _ (Nat.le_max_left 1 rounds)

theorem repeats_add (stream : Stream) (rounds first second : Nat) :
    (stream.waitedRounds + first) / max 1 rounds +
      ((stream.waitedRounds + first) % max 1 rounds + second) / max 1 rounds =
    (stream.waitedRounds + (first + second)) / max 1 rounds := by
  have positive : 0 < max 1 rounds := Nat.le_max_left 1 rounds
  have parts := Nat.div_add_mod (stream.waitedRounds + first) (max 1 rounds)
  calc (stream.waitedRounds + first) / max 1 rounds +
        ((stream.waitedRounds + first) % max 1 rounds + second) / max 1 rounds
      = (max 1 rounds * ((stream.waitedRounds + first) / max 1 rounds) +
          ((stream.waitedRounds + first) % max 1 rounds + second)) / max 1 rounds :=
        (Nat.mul_add_div positive ..).symm
    _ = (stream.waitedRounds + (first + second)) / max 1 rounds := by
        rw [← Nat.add_assoc, parts, Nat.add_assoc]

theorem waitFor_waitFor (first second : Nat) :
    (stream.waitFor rounds first).waitFor rounds second = stream.waitFor rounds (first + second) := by
  simp only [waitFor, ← repeats_add stream rounds first second, UInt16.ofNat_add, Nat.mod_add_mod,
    Nat.add_assoc, UInt16.add_assoc]

theorem Repeats.nothing (paced : stream.IsPaced rounds) : stream.Repeats rounds 0 [] :=
  ⟨(Nat.div_eq_of_lt paced).symm, fun _ none => absurd none List.not_mem_nil⟩

theorem Repeats.append {first second : Nat} {early late : List Bytes}
    (start : stream.Repeats rounds first early)
    (rest : (stream.waitFor rounds first).Repeats rounds second late) :
    stream.Repeats rounds (first + second) (early ++ late) where
  often := by
    rw [List.length_append, start.often, rest.often]
    exact repeats_add stream rounds first second
  each := List.forall_mem_append.mpr ⟨start.each, rest.each⟩

end Rows

/-! ## Turns -/

@[simp] theorem acknowledge_waitedRounds (stream : Stream) (now : Nat) :
    (stream.acknowledge now).1.waitedRounds = stream.waitedRounds := by
  unfold acknowledge
  split <;> rfl

theorem heard_waitedRounds (stream : Stream) (segment : Segment) :
    (stream.heard segment).waitedRounds = stream.waitedRounds ∨
      (stream.heard segment).waitedRounds = 0 := by
  unfold heard release
  split
  · exact Or.inr rfl
  · exact Or.inl rfl

/-- Only a round in which bytes go on waiting counts on. -/
theorem Move.waitedRounds {stream : Stream} {now : Nat} {cause : Cause} {calls : List Call}
    {sent : Stream × List Bytes} {ends : Bool} (move : Move stream now cause calls sent ends) :
    sent.1.waitedRounds = stream.waitedRounds ∨ sent.1.waitedRounds = 0 ∨
      ∃ rounds ready, cause = .ready rounds ready ∧ stream.phase = .connected ∧
        stream.unacknowledged ≠ [] := by
  cases move with
  | outOfOrder | brokenOff | repeatedStart | idle | connected | refused | nothingThere =>
      exact Or.inl rfl
  | @withheld segment | @tooBusy segment | @acknowledged segment =>
      rcases stream.heard_waitedRounds segment with kept | none
      · exact Or.inl kept
      · exact Or.inr (Or.inl none)
  | @notTaken segment | @taken segment | @takenToTheEnd segment | @ended segment =>
      rcases stream.heard_waitedRounds segment with kept | none
      · exact Or.inl ((acknowledge_waitedRounds ..).trans kept)
      · exact Or.inr (Or.inl ((acknowledge_waitedRounds ..).trans none))
  | failed | outsideEnded => exact Or.inl (acknowledge_waitedRounds ..)
  | sentAgain | delivered => exact Or.inr (Or.inl rfl)
  | waited phase waiting => exact Or.inr (Or.inr ⟨_, _, rfl, phase, waiting⟩)

section Ready

variable {stream : Stream} {rounds : Nat} {ready : Readiness} {kernel : Kernel}

/-- A round in which bytes wait, and that finds no error, counts on and sends them again if
it is the last one that they wait. -/
theorem onReady_waits (now : Nat) (phase : stream.phase = .connected)
    (waiting : stream.unacknowledged ≠ [])
    (fits : stream.unacknowledged.length ≤ mostRead) (paced : stream.IsPaced rounds)
    (none : ¬ stream.FindsError ready kernel) :
    let turn := stream.onReady now rounds ready kernel
    Makes [] kernel turn.kernel ∧ turn.ends = false ∧ turn.stream = stream.waitFor rounds 1 ∧
      stream.Repeats rounds 1 turn.frames := by
  obtain ⟨looked, made, run⟩ := onReady_of_noError now rounds phase none
  rw [if_pos waiting, onWaiting] at run
  unfold IsPaced at paced
  by_cases due : rounds ≤ stream.waitedRounds + 1
  · have whole : stream.waitedRounds + 1 = max 1 rounds := by omega
    have positive : 0 < max 1 rounds := by omega
    rw [if_pos due] at run
    rw [run]
    obtain ⟨frame, segment, built, read, acknowledged, isAt⟩ :=
      frame_read { stream with waitedRounds := 0 } now (ControlBit.byteOf [.ack, .psh])
        stream.unacknowledgedFrom fits
    refine ⟨made, rfl, ?_, ?_, ?_⟩
    · rw [waitFor, whole, Nat.mod_self, Nat.div_self positive]
      rfl
    · rw [whole, Nat.div_self positive]
      simp only [goOn, retransmit, emit, built, List.length_singleton]
    · intro other sent
      simp only [goOn, retransmit, emit, built, List.mem_singleton] at sent
      exact ⟨segment, sent ▸ read, acknowledged, isAt⟩
  · have less : stream.waitedRounds + 1 < max 1 rounds := by omega
    rw [if_neg due] at run
    rw [run]
    refine ⟨made, rfl, ?_, ?_, fun _ sent => absurd sent List.not_mem_nil⟩
    · rw [waitFor, Nat.mod_eq_of_lt less, Nat.div_eq_of_lt less]
      simp [rest]
    · rw [Nat.div_eq_of_lt less]
      rfl

theorem isPaced_turn (now : Nat) (kernel : Kernel) {cause : Cause}
    (fits : stream.unacknowledged.length ≤ mostRead) (paced : stream.IsPaced rounds)
    (same : ∀ others ready, cause = .ready others ready → others = rounds) :
    (stream.turn now kernel cause).stream.IsPaced rounds := by
  obtain ⟨calls, _, move⟩ := stream.turn_move now kernel cause
  rcases move.waitedRounds with kept | none | ⟨others, ready, rfl, phase, waiting⟩
  · exact Nat.lt_of_le_of_lt (Nat.le_of_eq kept) paced
  · exact Nat.lt_of_le_of_lt (Nat.le_of_eq none) (Nat.le_max_left 1 rounds)
  · rw [same others ready rfl, turn]
    by_cases finds : stream.FindsError ready kernel
    · obtain ⟨looked, _, run⟩ := onReady_of_error now rounds phase finds
      rw [run]
      exact Nat.lt_of_le_of_lt (Nat.le_of_eq (acknowledge_waitedRounds ..)) paced
    · obtain ⟨_, _, counted, _⟩ := onReady_waits now phase waiting fits paced finds
      rw [counted]
      exact isPaced_waitFor 1

end Ready

end Masquerade.Stream
