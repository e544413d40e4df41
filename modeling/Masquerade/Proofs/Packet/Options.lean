import Mathlib.Data.Nat.Init
import Masquerade.Proofs.Packet.Stretches

/-!
# The options of a block

A block is made up of options in one way only, up to the place where this stops: at an end
mark, at an option that does not end within the block or is shorter than its own front, or at
the end of the block.  The timestamps of a block are those of the first such option of their
kind and length.  What stands in the content of another option, and what stands behind, makes
no difference.
-/

set_option autoImplicit false

namespace Masquerade.Packet

/-- A filler is a byte of its own.  Any other option gives its kind and its length, which
counts both of these bytes. -/
inductive TcpOption
  | filler
  | full (kind : UInt8) (content : Bytes) (noEnd : kind ≠ 0) (noFiller : kind ≠ 1)
      (short : content.length + 2 < 256)

namespace TcpOption

def bytes : TcpOption → Bytes
  | .filler => [1]
  | .full kind content _ _ _ => kind :: UInt8.ofNat (content.length + 2) :: content

def timestamps? : TcpOption → Option Timestamps
  | .full 8 [a, b, c, d, e, f, g, h] _ _ _ => some ⟨Bytes.word32 a b c d, Bytes.word32 e f g h⟩
  | _ => none

inductive Stops : Bytes → Prop
  | nothing : Stops []
  | endMark (rest : Bytes) : Stops (0 :: rest)
  | alone {kind : UInt8} (noEnd : kind ≠ 0) (noFiller : kind ≠ 1) : Stops [kind]
  | cut {kind length : UInt8} {body : Bytes} (noEnd : kind ≠ 0) (noFiller : kind ≠ 1)
      (cut : length.toNat < 2 ∨ body.length + 2 < length.toNat) : Stops (kind :: length :: body)

/-- The block is these options, one behind the other, and a rest with which no option begins. -/
structure MakeUp (options : List TcpOption) (rest block : Bytes) : Prop where
  joined : options.flatMap bytes ++ rest = block
  stops : Stops rest

/-! ## One way -/

section OneWay

variable {first second : TcpOption} {rest left block : Bytes}

theorem toNat_length {count : Nat} (short : count + 2 < 256) :
    (UInt8.ofNat (count + 2)).toNat = count + 2 := by
  rw [UInt8.toNat_ofNat', Nat.mod_eq_of_lt short]

theorem length_bytes_pos (option : TcpOption) : 0 < option.bytes.length := by
  cases option <;> exact Nat.succ_pos _

theorem begins_or_stops (block : Bytes) :
    Stops block ∨ ∃ (option : TcpOption) (rest : Bytes), block = option.bytes ++ rest := by
  cases block with
  | nil => exact Or.inl .nothing
  | cons kind behind =>
      by_cases isEnd : kind = 0
      · subst isEnd
        exact Or.inl (.endMark behind)
      by_cases isFiller : kind = 1
      · subst isFiller
        exact Or.inr ⟨.filler, behind, rfl⟩
      cases behind with
      | nil => exact Or.inl (.alone isEnd isFiller)
      | cons length body =>
          by_cases cut : length.toNat < 2 ∨ body.length + 2 < length.toNat
          · exact Or.inl (.cut isEnd isFiller cut)
          have count : (body.take (length.toNat - 2)).length + 2 = length.toNat := by
            rw [List.length_take]
            omega
          have short : (body.take (length.toNat - 2)).length + 2 < 256 := by
            rw [count]
            exact length.toNat_lt
          refine Or.inr ⟨.full kind (body.take (length.toNat - 2)) isEnd isFiller short,
            body.drop (length.toNat - 2), ?_⟩
          simp only [bytes, count, UInt8.ofNat_toNat, List.cons_append, List.take_append_drop]

theorem not_stops (option : TcpOption) (rest : Bytes) : ¬ Stops (option.bytes ++ rest) := by
  cases option with
  | filler =>
      rintro (_ | _ | ⟨_, noFiller⟩ | ⟨_, noFiller, _⟩) <;> exact noFiller rfl
  | full kind content noEnd noFiller short =>
      rintro (_ | _ | _ | ⟨_, _, cut⟩)
      · exact noEnd rfl
      · have longer : (content ++ rest).length = content.length + rest.length :=
          List.length_append
        rw [toNat_length short] at cut
        change content.length + 2 < 2 ∨ (content ++ rest).length + 2 < content.length + 2 at cut
        omega

/-- The first option of a row, and what is behind it, can be told from the bytes. -/
theorem bytes_append_inj (same : first.bytes ++ rest = second.bytes ++ left) :
    first = second ∧ rest = left := by
  cases first with
  | filler =>
      cases second with
      | filler => exact ⟨rfl, (List.cons.inj same).2⟩
      | full kind content noEnd noFiller short =>
          exact absurd (List.cons.inj same).1.symm noFiller
  | full kind content noEnd noFiller short =>
      cases second with
      | filler => exact absurd (List.cons.inj same).1 noFiller
      | full other others noEndToo noFillerToo shortToo =>
          obtain ⟨rfl, behind⟩ := List.cons.inj same
          obtain ⟨lengths, bodies⟩ := List.cons.inj behind
          have counts := congrArg UInt8.toNat lengths
          rw [toNat_length short, toNat_length shortToo] at counts
          obtain ⟨rfl, rfl⟩ := List.append_inj bodies (Nat.add_right_cancel counts)
          exact ⟨rfl, rfl⟩

theorem exists_makeUp (block : Bytes) : ∃ options rest, MakeUp options rest block := by
  -- On the length of the block, of which an option takes one byte at least.
  generalize left : block.length = count
  induction count using Nat.strongRecOn generalizing block with
  | ind count ih =>
      rcases begins_or_stops block with stops | ⟨option, behind, rfl⟩
      · exact ⟨[], block, rfl, stops⟩
      · have less : behind.length < count := by
          rw [← left, List.length_append]
          exact Nat.lt_add_of_pos_left option.length_bytes_pos
        obtain ⟨options, rest, rfl, stops⟩ := ih behind.length less behind rfl
        exact ⟨option :: options, rest, by rw [List.flatMap_cons, List.append_assoc], stops⟩

theorem MakeUp.unique {options others : List TcpOption} (one : MakeUp options rest block)
    (other : MakeUp others left block) : others = options ∧ left = rest := by
  obtain ⟨rfl, stops⟩ := one
  obtain ⟨same, stopsToo⟩ := other
  induction options generalizing others with
  | nil =>
      cases others with
      | nil => exact ⟨rfl, same⟩
      | cons option behind =>
          have begins : option.bytes ++ (behind.flatMap bytes ++ left) = rest := by
            rw [← List.append_assoc, ← List.flatMap_cons, same]
            rfl
          exact absurd (begins ▸ stops) (not_stops option _)
  | cons option options ih =>
      rw [List.flatMap_cons, List.append_assoc] at same
      cases others with
      | nil =>
          have begins : left = option.bytes ++ (options.flatMap bytes ++ rest) := same
          exact absurd (begins ▸ stopsToo) (not_stops option _)
      | cons other behind =>
          rw [List.flatMap_cons, List.append_assoc] at same
          obtain ⟨rfl, later⟩ := bytes_append_inj same
          obtain ⟨rfl, rfl⟩ := ih later
          exact ⟨rfl, rfl⟩

end OneWay

/-! ## What is found -/

theorem timestamps?_eq_some_iff {option : TcpOption} {timestamps : Timestamps} :
    option.timestamps? = some timestamps ↔ option.bytes =
      8 :: 10 :: (Bytes.ofWord32 timestamps.value ++ Bytes.ofWord32 timestamps.echo) := by
  constructor
  · intro found
    unfold timestamps? at found
    split at found
    · cases found
      rw [Bytes.ofWord32_word32, Bytes.ofWord32_word32]
      rfl
    · cases found
  · intro same
    cases option with
    | filler => cases same
    | full kind content noEnd noFiller short =>
        obtain ⟨rfl, behind⟩ := List.cons.inj same
        obtain ⟨_, rfl⟩ := List.cons.inj behind
        have value := Bytes.word32_bytes timestamps.value
        have echo := Bytes.word32_bytes timestamps.echo
        exact congrArg some (congr (congrArg Timestamps.mk value) echo)

theorem timestamps?_eq_none {kind : UInt8} {content : Bytes} {noEnd : kind ≠ 0}
    {noFiller : kind ≠ 1} {short : content.length + 2 < 256}
    (other : ¬ (kind = 8 ∧ content.length = 8)) :
    (full kind content noEnd noFiller short).timestamps? = none := by
  rw [Option.eq_none_iff_forall_ne_some]
  intro timestamps found
  obtain ⟨isClock, behind⟩ := List.cons.inj (timestamps?_eq_some_iff.mp found)
  obtain ⟨_, content⟩ := List.cons.inj behind
  exact other ⟨isClock, congrArg List.length content⟩

/-- An option that holds timestamps ends the walk, and any other is passed over. -/
theorem find?_append (option : TcpOption) (rest : Bytes) :
    Timestamps.find? (option.bytes ++ rest) = option.timestamps?.or (Timestamps.find? rest) := by
  cases option with
  | filler => exact Timestamps.find?_of_filler rest
  | full kind content noEnd noFiller short =>
      by_cases isClock : kind = 8 ∧ content.length = 8
      · obtain ⟨rfl, eight⟩ := isClock
        obtain ⟨a, b, c, d, e, f, g, h, rfl⟩ := Checked.exists_of_length_eq_eight eight
        exact Timestamps.find?_of_clock rfl
      · have length := toNat_length short
        have whole : (UInt8.ofNat (content.length + 2)).toNat ≤ (content ++ rest).length + 2 := by
          rw [length, List.length_append]
          omega
        have others : ¬ (kind = 8 ∧ UInt8.ofNat (content.length + 2) = 10) := by
          rintro ⟨eight, ten⟩
          rw [ten] at length
          have count : 8 + 2 = content.length + 2 := length
          exact isClock ⟨eight, (Nat.add_right_cancel count).symm⟩
        have passed := Timestamps.find?_of_other noEnd noFiller (by omega) whole others
        rw [length, Nat.add_sub_cancel, List.drop_left] at passed
        rw [timestamps?_eq_none isClock, Option.none_or]
        exact passed

theorem find?_of_stops {rest : Bytes} (stops : Stops rest) : Timestamps.find? rest = none := by
  cases stops with
  | nothing => rw [Timestamps.find?.eq_def]
  | endMark rest => rw [Timestamps.find?.eq_def]; rfl
  | alone noEnd noFiller =>
      rw [Timestamps.find?.eq_def]
      dsimp only
      rw [if_neg noEnd, if_neg noFiller]
  | cut noEnd noFiller cut => exact Timestamps.find?_of_cut noEnd noFiller cut

theorem find?_flatMap (options : List TcpOption) (rest : Bytes) :
    Timestamps.find? (options.flatMap bytes ++ rest) =
      (options.findSome? timestamps?).or (Timestamps.find? rest) := by
  induction options with
  | nil => rfl
  | cons option options ih =>
      rw [List.flatMap_cons, List.append_assoc, find?_append, ih, List.findSome?_cons]
      cases option.timestamps? <;> rfl

theorem MakeUp.find?_eq {options : List TcpOption} {rest block : Bytes}
    (makeUp : MakeUp options rest block) :
    Timestamps.find? block = options.findSome? timestamps? := by
  obtain ⟨rfl, stops⟩ := makeUp
  rw [find?_flatMap, find?_of_stops stops, Option.or_none]

end TcpOption

namespace Timestamps

open TcpOption (MakeUp)

theorem find?_block_append (timestamps : Timestamps) (rest : Bytes) :
    find? (timestamps.block ++ rest) = some timestamps := by
  let clock : TcpOption := .full 8
    (Bytes.ofWord32 timestamps.value ++ Bytes.ofWord32 timestamps.echo)
    (by decide) (by decide) (by simp)
  let front : List TcpOption :=
    [.full 2 [5, 0xb4] (by decide) (by decide) (by decide), .filler,
      .full 3 [0] (by decide) (by decide) (by decide), .filler, .filler]
  have made : timestamps.block = (front ++ [clock]).flatMap TcpOption.bytes := rfl
  have nothing : front.findSome? TcpOption.timestamps? = none := rfl
  have found : clock.timestamps? = some timestamps := TcpOption.timestamps?_eq_some_iff.mpr rfl
  rw [made, TcpOption.find?_flatMap, List.findSome?_append, nothing, Option.none_or,
    List.findSome?_cons, found]
  rfl

/-- The walk over a block never leaves it.  A block is made up of options in one way, and what is
found are the timestamps of the first of them that has the kind and the length of timestamps.
Any options without timestamps may stand in front.  What is sent is found. -/
theorem timestamps_are_those_of_first_option (block : Bytes) :
    Checked.timestamps block = .ok (find? block) ∧
    (∃ options rest, MakeUp options rest block ∧
      (∀ others left, MakeUp others left block → others = options ∧ left = rest) ∧
      find? block = options.findSome? TcpOption.timestamps?) ∧
    (∀ (option : TcpOption) timestamps, option.timestamps? = some timestamps ↔ option.bytes =
      8 :: 10 :: (Bytes.ofWord32 timestamps.value ++ Bytes.ofWord32 timestamps.echo)) ∧
    (∀ options : List TcpOption, (∀ option ∈ options, option.timestamps? = none) →
      find? (options.flatMap TcpOption.bytes ++ block) = find? block) ∧
    ∀ timestamps : Timestamps, find? (timestamps.block ++ block) = some timestamps := by
  obtain ⟨options, rest, makeUp⟩ := TcpOption.exists_makeUp block
  refine ⟨Checked.timestamps_eq block, ⟨options, rest, makeUp, fun _ _ other =>
    makeUp.unique other, makeUp.find?_eq⟩, fun _ _ => TcpOption.timestamps?_eq_some_iff,
    fun others none => ?_, fun timestamps => timestamps.find?_block_append block⟩
  rw [TcpOption.find?_flatMap, List.findSome?_eq_none_iff.mpr none, Option.none_or]

def disguised : TcpOption :=
  .full 5 [8, 10, 0, 0, 0, 1, 0, 0, 0, 2] (by decide) (by decide) (by decide)

/-- The timestamps behind it are found, not those in it. -/
theorem content_is_passed_over :
    disguised.timestamps? = none ∧ disguised.bytes = [5, 12, 8, 10, 0, 0, 0, 1, 0, 0, 0, 2] ∧
      find? (disguised.bytes ++ [1, 8, 10, 0, 0, 0, 9, 0, 0, 0, 3, 0]) = some ⟨9, 3⟩ := by
  obtain ⟨_, _, _, skips, _⟩ :=
    timestamps_are_those_of_first_option [1, 8, 10, 0, 0, 0, 9, 0, 0, 0, 3, 0]
  have passed := skips [disguised] (List.forall_mem_singleton.mpr rfl)
  rw [List.flatMap_singleton, find?_of_filler, find?_of_clock rfl] at passed
  exact ⟨rfl, rfl, passed⟩

end Timestamps

end Masquerade.Packet
