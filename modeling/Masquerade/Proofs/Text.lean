import Masquerade.Text.Blank
import Masquerade.Text.Numeral

/-!
# Numerals and outer blanks

What a reader takes for a decimal number is told by its characters alone: digits, and the
number that they denote.  A number has one numeral without needless zeros, which is the one
that is written for it.  The text without the blanks around it is the stretch between them
that neither starts nor ends in a blank.
-/

set_option autoImplicit false

namespace Masquerade.Text

/-! ## Decimal numerals -/

structure IsNumeral (chars : List Char) (value : Nat) : Prop where
  nonempty : chars ≠ []
  digits : ∀ char ∈ chars, char.isDigit = true
  denoted : Nat.ofDigitChars 10 chars 0 = value

def IsSignedNumeral (chars : List Char) (value : Nat) : Prop :=
  ∃ digits, (chars = digits ∨ chars = '+' :: digits) ∧ IsNumeral digits value

def StartsSignificant (digits : List Char) : Prop := digits.length = 1 ∨ digits.head? ≠ some '0'

theorem isDigit_iff (char : Char) : char.isDigit = true ↔ 48 ≤ char.toNat ∧ char.toNat ≤ 57 :=
  Char.isDigit_iff_toNat

/-! ## Runs of digits -/

theorem digitValue_ten (char : Char) :
    digitValue 10 char = if char.isDigit then some (char.toNat - 48) else none := by
  have digit := isDigit_iff char
  unfold digitValue
  dsimp only
  by_cases here : 48 ≤ char.toNat ∧ char.toNat ≤ 57
  · rw [if_pos here, if_pos (digit.mpr here), if_pos (by omega)]
  · rw [if_neg here, if_neg (mt digit.mp here), if_neg]
    split
    · omega
    · split <;> omega

theorem digitRun_ten (chars : List Char) :
    digitRun 10 chars =
      ((chars.takeWhile Char.isDigit).map (·.toNat - 48), chars.dropWhile Char.isDigit) := by
  induction chars with
  | nil => rfl
  | cons char rest ih =>
      rw [digitRun, digitValue_ten]
      by_cases digit : char.isDigit = true
      · simp [digit, ih]
      · simp [digit]

theorem digitsValue_ten (chars : List Char) :
    digitsValue 10 (chars.map (·.toNat - 48)) = Nat.ofDigitChars 10 chars 0 := by
  rw [digitsValue, Nat.ofDigitChars, List.foldl_map]
  simp only [Nat.mul_comm 10]
  rfl

theorem digits_split_iff {chars digits rest : List Char} :
    chars.takeWhile Char.isDigit = digits ∧ chars.dropWhile Char.isDigit = rest ↔
      chars = digits ++ rest ∧ (∀ char ∈ digits, char.isDigit = true) ∧
        ∀ char ∈ rest.head?, char.isDigit = false := by
  constructor
  · rintro ⟨rfl, rfl⟩
    refine ⟨List.takeWhile_append_dropWhile.symm, fun char member => ?_, fun char first => ?_⟩
    · exact List.all_eq_true.mp List.all_takeWhile char member
    · have stopped := List.head?_dropWhile_not Char.isDigit chars
      rw [Option.mem_def.mp first] at stopped
      simpa using stopped
  · rintro ⟨rfl, all, stops⟩
    rw [List.takeWhile_append_of_pos all, List.dropWhile_append_of_pos all]
    cases rest with
    | nil => simp
    | cons char rest =>
        have stop := stops char rfl
        simp [stop]

namespace NumeralForm

variable {form : NumeralForm}

/-- What a form asks of digits besides the bound on their value. -/
structure Allows (form : NumeralForm) (digits : List Char) : Prop where
  short : ∀ most ∈ form.mostDigits, digits.length ≤ most
  significant : form.leadingZeros = true ∨ StartsSignificant digits

theorem admits_ten_iff (radix : form.radix = 10) {digits : List Char}
    (all : ∀ char ∈ digits, char.isDigit = true) :
    form.admits (digits.map (·.toNat - 48)) = true ↔
      digits ≠ [] ∧ form.Allows digits ∧ Nat.ofDigitChars 10 digits 0 < form.bound := by
  have zero : (digits.map (·.toNat - 48)).head? ≠ some 0 ↔ digits.head? ≠ some '0' := by
    cases digits with
    | nil => simp
    | cons char rest =>
        have digit := (isDigit_iff char).mp (all char List.mem_cons_self)
        have same : char.toNat - 48 = 0 ↔ char = '0' := by
          rw [← Char.toNat_inj]
          change char.toNat - 48 = 0 ↔ char.toNat = 48
          omega
        simp [same]
  have short : form.mostDigits.all (digits.length ≤ ·) = true ↔
      ∀ most ∈ form.mostDigits, digits.length ≤ most := by
    cases form.mostDigits <;> simp
  simp only [admits, radix, digitsValue_ten, Bool.and_eq_true, Bool.or_eq_true, decide_eq_true_eq,
    List.length_map, bne_iff_ne, beq_iff_eq, zero, short, Bool.not_eq_true',
    List.isEmpty_eq_false_iff, ne_eq, List.map_eq_nil_iff]
  constructor
  · rintro ⟨⟨⟨nonempty, short⟩, significant⟩, less⟩
    exact ⟨nonempty, ⟨short, or_assoc.mp significant⟩, less⟩
  · rintro ⟨nonempty, ⟨short, significant⟩, less⟩
    exact ⟨⟨⟨nonempty, short⟩, or_assoc.mpr significant⟩, less⟩

/-- What a reader of decimal numbers takes from the front of a text: all the digits there
are, if they fit. -/
theorem read_eq_some_iff (radix : form.radix = 10) {chars rest : List Char} {value : Nat} :
    form.read chars = some (value, rest) ↔
      ∃ digits, chars = digits ++ rest ∧ (∀ char ∈ rest.head?, char.isDigit = false) ∧
        IsNumeral digits value ∧ form.Allows digits ∧ value < form.bound := by
  have parts := digits_split_iff.mp
    (show chars.takeWhile Char.isDigit = _ ∧ chars.dropWhile Char.isDigit = _ from ⟨rfl, rfl⟩)
  have admits := admits_ten_iff radix parts.2.1
  simp only [read, radix, digitRun_ten, digitsValue_ten]
  constructor
  · intro taken
    split at taken
    · rename_i fits
      obtain ⟨nonempty, allows, less⟩ := admits.mp fits
      obtain ⟨rfl, rfl⟩ := Prod.mk.inj (Option.some.inj taken)
      exact ⟨_, parts.1, parts.2.2, ⟨nonempty, parts.2.1, rfl⟩, allows, less⟩
    · cases taken
  · rintro ⟨digits, split, stops, numeral, allows, less⟩
    obtain ⟨front, back⟩ := digits_split_iff.mpr ⟨split, numeral.digits, stops⟩
    rw [front] at admits ⊢
    rw [back, if_pos (admits.mpr ⟨numeral.nonempty, allows, numeral.denoted.symm ▸ less⟩),
      numeral.denoted]

theorem readWhole_eq_some_iff (radix : form.radix = 10) {chars : List Char} {value : Nat} :
    form.readWhole chars = some value ↔
      IsNumeral chars value ∧ form.Allows chars ∧ value < form.bound := by
  have whole : form.readWhole chars = some value ↔ form.read chars = some (value, []) := by
    unfold readWhole
    split
    · rename_i found taken
      rw [taken]
      simp
    · rename_i other
      exact iff_of_false (by simp) (other value)
  rw [whole, read_eq_some_iff radix]
  constructor
  · rintro ⟨digits, rfl, _, fits⟩
    rwa [List.append_nil]
  · intro fits
    exact ⟨chars, (List.append_nil chars).symm, by simp, fits⟩

/-- Where zeros in front and any number of digits are free, only the value counts. -/
theorem readSigned_eq_some_iff (radix : form.radix = 10) (free : ∀ digits, form.Allows digits)
    {chars : List Char} {value : Nat} :
    form.readSigned chars = some value ↔ IsSignedNumeral chars value ∧ value < form.bound := by
  unfold readSigned
  split
  · rename_i rest
    rw [readWhole_eq_some_iff radix]
    constructor
    · rintro ⟨numeral, _, less⟩
      exact ⟨⟨rest, Or.inr rfl, numeral⟩, less⟩
    · rintro ⟨⟨digits, same | same, numeral⟩, less⟩
      · have plus := numeral.digits '+' (same ▸ List.mem_cons_self)
        exact absurd plus (by decide)
      · obtain rfl := List.tail_eq_of_cons_eq same
        exact ⟨numeral, free _, less⟩
  · rename_i unsigned
    rw [readWhole_eq_some_iff radix]
    constructor
    · rintro ⟨numeral, _, less⟩
      exact ⟨⟨chars, Or.inl rfl, numeral⟩, less⟩
    · rintro ⟨⟨digits, rfl | rfl, numeral⟩, less⟩
      · exact ⟨numeral, free _, less⟩
      · exact absurd rfl (unsigned digits)

end NumeralForm

/-! ## The numeral of a number -/

theorem digitChar_toNat {char : Char} (digit : char.isDigit = true) :
    Nat.digitChar (char.toNat - 48) = char := by
  have bounds := (isDigit_iff char).mp digit
  apply Char.toNat_inj.mp
  rw [Nat.toNat_digitChar_of_lt_ten (by omega)]
  omega

theorem decimal_append {digits : List Char} (all : ∀ char ∈ digits, char.isDigit = true)
    {value : Nat} (positive : 0 < value) :
    decimal value ++ digits = decimal (Nat.ofDigitChars 10 digits value) := by
  induction digits generalizing value with
  | nil => exact List.append_nil _
  | cons char rest ih =>
      have digit := all char List.mem_cons_self
      have bounds := (isDigit_iff char).mp digit
      have less : char.toNat - 48 < 10 := by omega
      have next : decimal value ++ [char] = decimal (10 * value + (char.toNat - 48)) := by
        have joined := Nat.toDigits_append_toDigits (show 1 < 10 by decide) positive less
        rwa [Nat.toDigits_of_lt_base less, digitChar_toNat digit] at joined
      have behind := ih (fun other member => all other (List.mem_cons_of_mem _ member))
        (show 0 < 10 * value + (char.toNat - 48) by omega)
      calc decimal value ++ char :: rest
          = decimal value ++ [char] ++ rest := by rw [List.append_assoc, List.singleton_append]
        _ = decimal (Nat.ofDigitChars 10 (char :: rest) value) := by
            rw [next, behind, Nat.ofDigitChars_cons]
            rfl

theorem isNumeral_decimal (value : Nat) : IsNumeral (decimal value) value where
  nonempty := Nat.toDigits_ne_nil
  digits _ member := Nat.isDigit_of_mem_toDigits (by decide) (by decide) member
  denoted := Nat.ofDigitChars_ten_toDigits

theorem head?_decimal {value : Nat} (positive : 0 < value) :
    (decimal value).head? ≠ some '0' := by
  induction value using Nat.strongRecOn with
  | ind value ih =>
      rw [decimal]
      rcases Nat.lt_or_ge value 10 with small | large
      · rw [Nat.toDigits_of_lt_base small]
        intro zero
        have same := congrArg Char.toNat (Option.some.inj zero)
        rw [Nat.toNat_digitChar_of_lt_ten small] at same
        change 48 + value = 48 at same
        omega
      · have earlier := ih (value / 10) (by omega) (by omega)
        obtain ⟨first, rest, digits⟩ := List.exists_cons_of_ne_nil
          (show Nat.toDigits 10 (value / 10) ≠ [] from Nat.toDigits_ne_nil)
        rw [decimal, digits] at earlier
        rwa [Nat.toDigits_of_base_le (by decide) large, digits]

theorem startsSignificant_decimal (value : Nat) : StartsSignificant (decimal value) := by
  rcases Nat.eq_zero_or_pos value with rfl | positive
  · exact Or.inl rfl
  · exact Or.inr (head?_decimal positive)

/-- Without needless zeros a number has one numeral. -/
theorem eq_decimal_iff {digits : List Char} {value : Nat} :
    IsNumeral digits value ∧ StartsSignificant digits ↔ digits = decimal value := by
  constructor
  · rintro ⟨⟨nonempty, all, rfl⟩, significant⟩
    cases digits with
    | nil => exact absurd rfl nonempty
    | cons char rest =>
        have digit := all char List.mem_cons_self
        have bounds := (isDigit_iff char).mp digit
        have single : decimal (char.toNat - 48) = [char] := by
          rw [decimal, Nat.toDigits_of_lt_base (by omega), digitChar_toNat digit]
        rw [Nat.ofDigitChars_cons, Nat.mul_zero, Nat.zero_add]
        rcases significant with alone | notZero
        · obtain rfl := List.length_eq_zero_iff.mp (Nat.succ.inj alone)
          exact single.symm
        · have positive : 0 < char.toNat - 48 := by
            have differs : char.toNat ≠ '0'.toNat := fun same =>
              notZero (congrArg some (Char.toNat_inj.mp same))
            change char.toNat ≠ 48 at differs
            omega
          have joined := decimal_append
            (fun other member => all other (List.mem_cons_of_mem _ member)) positive
          rwa [single] at joined
  · rintro rfl
    exact ⟨isNumeral_decimal value, startsSignificant_decimal value⟩

theorem NumeralForm.read_octet_eq_some_iff {chars rest : List Char} {value : Nat} :
    octet.read chars = some (value, rest) ↔
      chars = decimal value ++ rest ∧ (∀ char ∈ rest.head?, char.isDigit = false) ∧
        value < 256 := by
  rw [read_eq_some_iff rfl]
  constructor
  · rintro ⟨digits, split, stops, numeral, allows, less⟩
    have significant := allows.significant.resolve_left (by decide)
    rw [eq_decimal_iff.mp ⟨numeral, significant⟩] at split
    exact ⟨split, stops, less⟩
  · rintro ⟨split, stops, less⟩
    refine ⟨decimal value, split, stops, isNumeral_decimal value, ⟨fun most three => ?_,
      Or.inr (startsSignificant_decimal value)⟩, less⟩
    obtain rfl : 3 = most := Option.some.inj three
    have fewer : value < 10 ^ 3 := Nat.lt_trans less (by decide)
    exact (Nat.length_toDigits_le_iff (by decide) (by decide)).mpr fewer

theorem NumeralForm.subnetLength_allows (digits : List Char) :
    subnetLength.Allows digits where
  short _ none := nomatch none
  significant := Or.inl rfl

/-! ## Outer blanks -/

structure IsTrimmed (text core : List Char) : Prop where
  between : ∃ lead trail, text = lead ++ core ++ trail ∧
    (∀ char ∈ lead, isBlank char = true) ∧ ∀ char ∈ trail, isBlank char = true
  first : ∀ char ∈ core.head?, isBlank char = false
  last : ∀ char ∈ core.getLast?, isBlank char = false

theorem IsTrimmed.of_noBlank {chars : List Char} (solid : ∀ char ∈ chars, isBlank char = false) :
    IsTrimmed chars chars where
  between := ⟨[], [], (List.append_nil chars).symm, by simp, by simp⟩
  first char starts := solid char (List.mem_of_head? starts)
  last char ends := solid char (List.mem_of_getLast? ends)

theorem isBlank_of_isDigit {char : Char} (digit : char.isDigit = true) : isBlank char = false := by
  have bounds := (isDigit_iff char).mp digit
  simp only [isBlank, Bool.or_eq_false_iff, Bool.and_eq_false_iff, decide_eq_false_iff_not,
    beq_eq_false_iff_ne]
  omega

theorem trimStart_append {lead rest : List Char} (blank : ∀ char ∈ lead, isBlank char = true) :
    trimStart (lead ++ rest) = trimStart rest :=
  List.dropWhile_append_of_pos blank

theorem trimStart_of_head? {chars : List Char}
    (first : ∀ char ∈ chars.head?, isBlank char = false) : trimStart chars = chars := by
  cases chars with
  | nil => rfl
  | cons char rest => exact List.dropWhile_cons_of_neg (by simpa using first char rfl)

theorem exists_trimStart (chars : List Char) :
    ∃ lead, chars = lead ++ trimStart chars ∧ (∀ char ∈ lead, isBlank char = true) ∧
      ∀ char ∈ (trimStart chars).head?, isBlank char = false := by
  refine ⟨chars.takeWhile isBlank, List.takeWhile_append_dropWhile.symm,
    fun char member => List.all_eq_true.mp List.all_takeWhile char member, fun char first => ?_⟩
  have stopped := List.head?_dropWhile_not isBlank chars
  rw [trimStart, Option.mem_def] at first
  rw [first] at stopped
  simpa using stopped

theorem isTrimmed_trim (text : List Char) : IsTrimmed text (trim text) := by
  obtain ⟨lead, front, blankLead, first⟩ := exists_trimStart text
  obtain ⟨trail, back, blankTrail, last⟩ := exists_trimStart (trimStart text).reverse
  have split : trimStart text = trim text ++ trail.reverse := by
    rw [trim, ← List.reverse_append, ← back, List.reverse_reverse]
  refine ⟨⟨lead, trail.reverse, ?_, blankLead, fun char member =>
    blankTrail char (List.mem_reverse.mp member)⟩, fun char starts => ?_, fun char ends => ?_⟩
  · rw [List.append_assoc, ← split]
    exact front
  · apply first char
    rw [split, List.head?_append, Option.mem_def.mp starts]
    rfl
  · apply last char
    rwa [trim, List.getLast?_reverse] at ends

/-- There is one stretch between the blanks at the ends of a text. -/
theorem trim_eq_iff {text core : List Char} : trim text = core ↔ IsTrimmed text core := by
  constructor
  · rintro rfl
    exact isTrimmed_trim text
  · rintro ⟨⟨lead, trail, rfl, blankLead, blankTrail⟩, first, last⟩
    have blankBack : ∀ char ∈ trail.reverse, isBlank char = true := fun char member =>
      blankTrail char (List.mem_reverse.mp member)
    have ends : ∀ char ∈ core.reverse.head?, isBlank char = false := by
      rw [List.head?_reverse]
      exact last
    rw [trim, List.append_assoc, trimStart_append blankLead]
    cases core with
    | nil =>
        have nothing : trimStart (trail ++ []) = [] := trimStart_append blankTrail
        rw [List.append_nil] at nothing
        rw [List.nil_append, nothing]
        rfl
    | cons char rest =>
        have front : trimStart (char :: rest ++ trail) = char :: rest ++ trail :=
          trimStart_of_head? first
        rw [front, List.reverse_append, trimStart_append blankBack, trimStart_of_head? ends,
          List.reverse_reverse]

end Masquerade.Text
