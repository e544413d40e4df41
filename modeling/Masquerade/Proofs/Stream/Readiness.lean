import Masquerade.Proofs.Stream.Move

/-!
# What the readiness of a socket leads to

A connected stream looks for an error first.  Then it sees to the bytes that wait to be
acknowledged, and it reads only if there are none and the guest has acknowledged all.
-/

set_option autoImplicit false

namespace Masquerade.Stream

open Kernel (Makes Readiness)

structure FindsError (stream : Stream) (ready : Readiness) (kernel : Kernel) : Prop where
  reported : ready.error = true
  found : ∃ errno, (kernel.takeError stream.socket).1 = .ok (some errno)

/-- When a stream reads from its socket. -/
structure Reads (stream : Stream) (ready : Readiness) (kernel : Kernel) : Prop where
  connected : stream.phase = .connected
  noError : ¬ stream.FindsError ready kernel
  nothingWaits : stream.unacknowledged = []
  caughtUp : stream.guestAcknowledged = stream.outsideNext
  reported : ready.readable = true ∨ ready.error = true

variable (stream : Stream) (now rounds : Nat) (ready : Readiness) (kernel : Kernel)

theorem findError_iff :
    (stream.findError ready kernel).1 = true ↔ stream.FindsError ready kernel := by
  unfold findError
  constructor
  · intro found
    split at found
    · rename_i reported
      split at found
      · rename_i errno _ taken
        exact ⟨reported, errno, congrArg Prod.fst taken⟩
      · cases found
    · cases found
  · rintro ⟨reported, errno, found⟩
    rw [if_pos reported]
    cases taken : kernel.takeError stream.socket with
    | mk result after =>
        rw [taken] at found
        cases found
        rfl

section Connected

variable {stream} {ready} {kernel}

theorem onReady_of_error (phase : stream.phase = .connected)
    (finds : stream.FindsError ready kernel) :
    ∃ looked, Makes [] kernel looked ∧
      stream.onReady now rounds ready kernel = goOn (stream.disconnect now) looked := by
  have looked := makes_findError stream ready kernel
  refine ⟨_, looked, ?_⟩
  have found := (findError_iff stream ready kernel).mpr finds
  simp only [onReady, phase, onConnected]
  split <;> rename_i look <;> rw [look] at found
  · rw [look]
  · cases found

theorem onReady_of_noError (phase : stream.phase = .connected)
    (none : ¬ stream.FindsError ready kernel) :
    ∃ looked, Makes [] kernel looked ∧ stream.onReady now rounds ready kernel =
      if stream.unacknowledged ≠ [] then stream.onWaiting now rounds looked
      else if stream.guestAcknowledged = stream.outsideNext ∧ (ready.readable || ready.error) then
        stream.onReadable now looked
      else stream.rest looked := by
  have looked := makes_findError stream ready kernel
  refine ⟨_, looked, ?_⟩
  rw [← findError_iff] at none
  simp only [onReady, phase, onConnected]
  split <;> rename_i look <;> rw [look] at none
  · exact absurd rfl none
  · rw [look]
    by_cases empty : stream.unacknowledged = [] <;> simp [empty]

theorem onReady_of_due (phase : stream.phase = .connected) (waiting : stream.unacknowledged ≠ [])
    (none : ¬ stream.FindsError ready kernel) (due : rounds ≤ stream.waitedRounds + 1) :
    ∃ looked, stream.onReady now rounds ready kernel =
      goOn ({ stream with waitedRounds := 0 }.retransmit now) looked := by
  obtain ⟨looked, _, run⟩ := onReady_of_noError now rounds phase none
  rw [if_pos waiting, onWaiting, if_pos due] at run
  exact ⟨looked, run⟩

theorem onReady_of_undue (phase : stream.phase = .connected)
    (waiting : stream.unacknowledged ≠ []) (none : ¬ stream.FindsError ready kernel)
    (undue : stream.waitedRounds + 1 < rounds) :
    ∃ looked, stream.onReady now rounds ready kernel =
      { stream with waitedRounds := stream.waitedRounds + 1 }.rest looked := by
  obtain ⟨looked, _, run⟩ := onReady_of_noError now rounds phase none
  rw [if_pos waiting, onWaiting, if_neg (Nat.not_le_of_lt undue)] at run
  exact ⟨looked, run⟩

end Connected

/-! ## Reading -/

theorem onReadable_makes (before : Kernel) (looked : Makes [] before kernel) :
    ∃ result, Makes [.receive stream.socket mostRead result] before
      (stream.onReadable now kernel).kernel := by
  unfold onReadable
  split
  · rename_i received
    exact ⟨_, looked.after_nothing (Kernel.makes_receive received)⟩
  · rename_i received
    exact ⟨_, looked.after_nothing (Kernel.makes_receive received)⟩
  · rename_i received
    have made := looked.after_nothing (Kernel.makes_receive received)
    split <;> exact ⟨_, made⟩

theorem onConnecting_makes :
    Makes [] kernel (stream.onConnecting now ready kernel).kernel := by
  have looked := kernel.makes_takeError stream.socket
  unfold onConnecting
  split
  · exact Makes.refl kernel
  · split <;> rename_i found <;> rwa [found] at looked

/-- A round makes no call for a stream, but for the one that reads. -/
theorem onReady_calls :
    (Makes [] kernel (stream.onReady now rounds ready kernel).kernel ∧
      ¬ stream.Reads ready kernel) ∨
    (stream.Reads ready kernel ∧ ∃ result,
      Makes [.receive stream.socket mostRead result] kernel
        (stream.onReady now rounds ready kernel).kernel) := by
  by_cases phase : stream.phase = .connected
  · by_cases finds : stream.FindsError ready kernel
    · obtain ⟨looked, made, run⟩ := onReady_of_error now rounds phase finds
      rw [run]
      exact Or.inl ⟨made, fun reads => reads.noError finds⟩
    · obtain ⟨looked, made, run⟩ := onReady_of_noError now rounds phase finds
      rw [run]
      by_cases nothingWaits : stream.unacknowledged = []
      · rw [if_neg (not_not_intro nothingWaits)]
        by_cases may : stream.guestAcknowledged = stream.outsideNext ∧ (ready.readable || ready.error)
        · rw [if_pos may]
          have reported : ready.readable = true ∨ ready.error = true := Bool.or_eq_true .. ▸ may.2
          exact Or.inr ⟨⟨phase, finds, nothingWaits, may.1, reported⟩,
            onReadable_makes stream now looked kernel made⟩
        · rw [if_neg may]
          refine Or.inl ⟨made, fun reads => may ⟨reads.caughtUp, ?_⟩⟩
          exact Bool.or_eq_true .. ▸ reads.reported
      · rw [if_pos nothingWaits, onWaiting]
        refine Or.inl ⟨?_, fun reads => nothingWaits reads.nothingWaits⟩
        split <;> exact made
  · refine Or.inl ⟨?_, fun reads => phase reads.connected⟩
    unfold onReady
    split
    · exact onConnecting_makes stream now ready kernel
    · rename_i connected
      exact absurd connected phase
    · exact Makes.refl kernel
    · exact Makes.refl kernel

end Masquerade.Stream
