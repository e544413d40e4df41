import Masquerade.Proofs.Address
import Masquerade.Subnet

/-!
# Subnets in text and in numbers

A text names a subnet by an address and a length; which of the two is wrong decides what
becomes of any other text.  What is written for a subnet names it.  The addresses of a
subnet are its hosts: they have the bits of its network above and any bits below, and two
hosts are one just if these lower bits are the same.
-/

set_option autoImplicit false

namespace Masquerade.Subnet

open Text (NumeralForm IsTrimmed IsNumeral IsSignedNumeral decimal)
open Address (IsDotted)

/-! ## Reading -/

/-- Without its outer blanks the text has an address before its first slash, and behind it a
number of one byte, before which a plus sign may stand. -/
inductive Names (text : String) (address : Ipv4Address) (length : Nat) : Prop
  | parts (before after : List Char) (trimmed : IsTrimmed text.toList (before ++ '/' :: after))
      (noSlash : '/' ∉ before) (dotted : IsDotted before address)
      (numeral : IsSignedNumeral after length) (isByte : length < 256)

theorem readSigned_subnetLength {chars : List Char} {length : Nat} :
    NumeralForm.subnetLength.readSigned chars = some length ↔
      IsSignedNumeral chars length ∧ length < 256 :=
  NumeralForm.readSigned_eq_some_iff rfl NumeralForm.subnetLength_allows

theorem parse_of_names {text : String} {address : Ipv4Address} {length : Nat}
    (names : Names text address length) : parse text = around address length := by
  obtain ⟨before, after, trimmed, noSlash, dotted, numeral, isByte⟩ := names
  have cut := (Text.cutFirst_eq_some_iff '/' _ before after).mpr ⟨rfl, noSlash⟩
  rw [parse, Text.trim_eq_iff.mpr trimmed, cut]
  dsimp only
  rw [Address.ipv4?_eq_some_iff.mpr dotted, readSigned_subnetLength.mpr ⟨numeral, isByte⟩]

theorem parse_of_not_names {text : String}
    (none : ¬ ∃ address length, Names text address length) :
    parse text = .error (.malformedSubnet text) := by
  unfold parse
  split
  · rfl
  · rename_i before after cut
    obtain ⟨core, noSlash⟩ := (Text.cutFirst_eq_some_iff ..).mp cut
    split
    · rename_i address length dotted numeral
      obtain ⟨numeral, isByte⟩ := readSigned_subnetLength.mp numeral
      exact absurd ⟨address, length, before, after, Text.trim_eq_iff.mp core, noSlash,
        Address.ipv4?_eq_some_iff.mp dotted, numeral, isByte⟩ none
    · rfl

/-! ## Writing -/

theorem isBlank_chars {subnet : Subnet} {char : Char} (member : char ∈ subnet.chars) :
    Text.isBlank char = false := by
  rcases List.mem_append.mp member with address | slashed
  · rcases Ipv4Address.mem_chars address with digit | rfl
    · exact Text.isBlank_of_isDigit digit
    · rfl
  · rcases List.mem_cons.mp slashed with rfl | length
    · rfl
    · exact Text.isBlank_of_isDigit ((Text.isNumeral_decimal subnet.length).digits char length)

theorem names_text (subnet : Subnet) : Names subnet.text subnet.network subnet.length := by
  refine .parts subnet.network.chars (decimal subnet.length) ?_ ?_ (Address.isDotted_iff.mpr rfl)
    ⟨_, Or.inl rfl, Text.isNumeral_decimal _⟩ (Nat.lt_of_le_of_lt subnet.length_le (by decide))
  · rw [text, String.toList_ofList]
    exact .of_noBlank fun char => isBlank_chars
  · intro slash
    rcases Ipv4Address.mem_chars slash with digit | dot
    · exact absurd digit (by decide)
    · exact absurd dot (by decide)

theorem around_network (subnet : Subnet) : around subnet.network subnet.length = .ok subnet := by
  obtain ⟨network, length, positive, atMost, aligned⟩ := subnet
  have whole : network.toNat / spanOf length * spanOf length = network.toNat :=
    Nat.div_mul_cancel (Nat.dvd_of_mod_eq_zero aligned)
  simp only [around, dif_pos (And.intro positive atMost), whole, Ipv4Address.ofNat_toNat]

theorem parse_text (subnet : Subnet) : parse subnet.text = .ok subnet := by
  rw [parse_of_names subnet.names_text, around_network]

/-! ## Hosts -/

theorem mod_spanOf_eq_iff {length first second : Nat} :
    first % spanOf length = second % spanOf length ↔
      ∀ bit < 32 - length, first.testBit bit = second.testBit bit := by
  simp only [spanOf, Nat.pow_eq]
  constructor
  · intro same bit below
    have bits := congrArg (Nat.testBit · bit) same
    simpa only [Nat.testBit_mod_two_pow, below, decide_true, Bool.true_and] using bits
  · intro agree
    apply Nat.eq_of_testBit_eq
    intro bit
    rw [Nat.testBit_mod_two_pow, Nat.testBit_mod_two_pow]
    by_cases below : bit < 32 - length
    · rw [agree bit below]
    · rw [decide_eq_false below, Bool.false_and, Bool.false_and]

theorem host_eq_host_iff (subnet : Subnet) {first second : Nat} :
    subnet.host first = subnet.host second ↔
      ∀ bit < 32 - subnet.length, first.testBit bit = second.testBit bit := by
  rw [← Ipv4Address.toNat_inj, toNat_host, toNat_host, ← mod_spanOf_eq_iff]
  exact Nat.add_left_cancel_iff

theorem host_of_contains {subnet : Subnet} {address : Ipv4Address}
    (inside : subnet.contains address = true) : subnet.host address.toNat = address := by
  have aligned : subnet.network.toNat % subnet.span = 0 := subnet.aligned
  have above : address.toNat / subnet.span = subnet.network.toNat / subnet.span :=
    beq_iff_eq.mp inside
  rw [← Ipv4Address.toNat_inj, toNat_host,
    ← Nat.div_mul_cancel (Nat.dvd_of_mod_eq_zero aligned), ← above, Nat.div_add_mod']

theorem contains_iff_exists_host {subnet : Subnet} {address : Ipv4Address} :
    subnet.contains address = true ↔ ∃ number : UInt32, address = subnet.host number.toNat := by
  constructor
  · intro inside
    exact ⟨address.value, (host_of_contains inside).symm⟩
  · rintro ⟨number, rfl⟩
    exact subnet.contains_host number.toNat

theorem testBit_network (subnet : Subnet) {bit : Nat} (below : bit < 32 - subnet.length) :
    subnet.network.toNat.testBit bit = false := by
  have none : subnet.network.toNat % spanOf subnet.length = 0 % spanOf subnet.length := by
    rw [subnet.aligned, Nat.zero_mod]
  rw [mod_spanOf_eq_iff.mp none bit below, Nat.zero_testBit]

/-! ## Making -/

theorem around_eq_error_iff {address : Ipv4Address} {length : Nat} {error : SetupError} :
    around address length = .error error ↔
      ¬ (1 ≤ length ∧ length ≤ 24) ∧ error = .subnetLength length := by
  unfold around
  split
  · rename_i inRange
    exact iff_of_false (by simp) fun outside => outside.1 inRange
  · rename_i outside
    rw [Except.error.injEq, eq_comm]
    exact (and_iff_right outside).symm

theorem exists_around (address : Ipv4Address) {length : Nat}
    (inRange : 1 ≤ length ∧ length ≤ 24) :
    ∃ subnet, around address length = .ok subnet ∧ subnet.length = length ∧
      subnet.contains address = true := by
  refine ⟨_, dif_pos inRange, rfl, beq_iff_eq.mpr ?_⟩
  have bound := address.toNat_lt
  have smaller := Nat.div_mul_le_self address.toNat (spanOf length)
  dsimp only [span]
  rw [Ipv4Address.toNat_ofNat, Nat.mod_eq_of_lt (by omega),
    Nat.mul_div_cancel _ (show 0 < spanOf length from Nat.two_pow_pos _)]

/-- Subnets of one length that share an address are the same. -/
theorem eq_of_contains {first second : Subnet} {address : Ipv4Address}
    (same : first.length = second.length) (inFirst : first.contains address = true)
    (inSecond : second.contains address = true) : first = second := by
  have network : ∀ {subnet : Subnet}, subnet.contains address = true →
      subnet.network.toNat = address.toNat / spanOf subnet.length * spanOf subnet.length := by
    intro subnet inside
    have above : address.toNat / subnet.span = subnet.network.toNat / subnet.span :=
      beq_iff_eq.mp inside
    exact ((congrArg (· * subnet.span) above).trans
      (Nat.div_mul_cancel (Nat.dvd_of_mod_eq_zero subnet.aligned))).symm
  have networks : first.network = second.network := by
    rw [← Ipv4Address.toNat_inj, network inFirst, network inSecond, same]
  cases first
  cases second
  cases same
  cases networks
  rfl

theorem around_eq_ok_iff {address : Ipv4Address} {length : Nat} {subnet : Subnet} :
    around address length = .ok subnet ↔
      (1 ≤ length ∧ length ≤ 24) ∧ subnet.length = length ∧ subnet.contains address = true := by
  constructor
  · intro made
    have inRange : 1 ≤ length ∧ length ≤ 24 := Classical.byContradiction fun outside => by
      rw [around_eq_error_iff.mpr ⟨outside, rfl⟩] at made
      cases made
    obtain ⟨other, madeToo, its⟩ := exists_around address inRange
    rw [made, Except.ok.injEq] at madeToo
    exact ⟨inRange, madeToo ▸ its⟩
  · rintro ⟨inRange, length, inside⟩
    obtain ⟨other, made, otherLength, insideToo⟩ := exists_around address inRange
    rw [made, eq_of_contains (otherLength.trans length.symm) insideToo inside]

/-! ## Masks -/

theorem testBit_mask (subnet : Subnet) (bit : Nat) :
    subnet.mask.toNat.testBit bit = (decide (32 - subnet.length ≤ bit) && decide (bit < 32)) := by
  have whole : subnet.span * 2 ^ subnet.length = 4294967296 :=
    spanOf_mul (Nat.le_trans subnet.length_le (by decide))
  have positive := subnet.span_pos
  have number : subnet.mask.toNat = 2 ^ (32 - subnet.length) * (2 ^ subnet.length - 1) := by
    rw [mask, UInt32.toNat_ofNat', Nat.mod_eq_of_lt (by omega), Nat.mul_sub, Nat.mul_one]
    exact congrArg (· - subnet.span) whole.symm
  have short := subnet.length_le
  rw [number, Nat.testBit_two_pow_mul, Nat.testBit_two_pow_sub_one]
  by_cases above : 32 - subnet.length ≤ bit
  · simp only [above, decide_true, Bool.true_and, decide_eq_decide]
    omega
  · simp [above]

theorem and_mask (subnet : Subnet) (address : Ipv4Address) :
    (address.value &&& subnet.mask).toNat = address.toNat / subnet.span * subnet.span := by
  apply Nat.eq_of_testBit_eq
  intro bit
  have bound : address.toNat < 2 ^ 32 := address.toNat_lt
  rw [UInt32.toNat_and, Nat.testBit_and, testBit_mask, span, spanOf, Nat.pow_eq,
    Nat.testBit_mul_two_pow, Nat.testBit_div_two_pow]
  change (address.toNat.testBit bit && _) = _
  by_cases above : 32 - subnet.length ≤ bit
  · rw [Nat.sub_add_cancel above]
    by_cases low : bit < 32
    · simp [above, low]
    · have zero : address.toNat.testBit bit = false :=
        Nat.testBit_lt_two_pow
          (Nat.lt_of_lt_of_le bound (Nat.pow_le_pow_right (by decide) (by omega)))
      rw [zero, Bool.false_and, Bool.and_false]
  · simp [above]

/-- An address is inside where the mask leaves the network of it. -/
theorem contains_eq_masked (subnet : Subnet) (address : Ipv4Address) :
    subnet.contains address = (address.value &&& subnet.mask == subnet.network.value) := by
  have aligned : subnet.network.toNat % subnet.span = 0 := subnet.aligned
  have positive := subnet.span_pos
  have network := Nat.div_mul_cancel (Nat.dvd_of_mod_eq_zero aligned)
  rw [Bool.eq_iff_iff, contains, beq_iff_eq, beq_iff_eq, ← UInt32.toNat_inj, and_mask]
  change _ ↔ _ = subnet.network.toNat
  constructor
  · intro same
    rw [same, network]
  · intro same
    rw [← same, Nat.mul_div_cancel _ positive]

theorem and_not_mask (subnet : Subnet) (number : UInt32) :
    (number &&& ~~~subnet.mask).toNat = number.toNat % subnet.span := by
  apply Nat.eq_of_testBit_eq
  intro bit
  -- As a number the complement is 2 ^ 32 less a successor, and the bits of that are known.
  have complement : (~~~subnet.mask).toNat = 2 ^ 32 - (subnet.mask.toNat + 1) := by
    rw [UInt32.toNat_not]
    change 4294967296 - 1 - _ = 4294967296 - (_ + 1)
    omega
  rw [UInt32.toNat_and, Nat.testBit_and, complement,
    Nat.testBit_two_pow_sub_succ subnet.mask.toNat_lt, testBit_mask, span, spanOf, Nat.pow_eq,
    Nat.testBit_mod_two_pow]
  by_cases below : bit < 32 - subnet.length
  · have low : bit < 32 := by omega
    simp [below, low, Nat.not_le.mpr below]
  · have above : 32 - subnet.length ≤ bit := Nat.le_of_not_lt below
    simp [below, above]

theorem host_value (subnet : Subnet) (number : UInt32) :
    (subnet.host number.toNat).value =
      subnet.network.value ||| (number &&& ~~~subnet.mask) := by
  have aligned : subnet.network.toNat % subnet.span = 0 := subnet.aligned
  obtain ⟨count, network⟩ := Nat.dvd_of_mod_eq_zero aligned
  rw [← UInt32.toNat_inj, UInt32.toNat_or, and_not_mask]
  change (subnet.host number.toNat).toNat = subnet.network.toNat ||| _
  rw [toNat_host, network]
  exact Nat.two_pow_add_eq_or_of_lt (Nat.mod_lt _ subnet.span_pos) count

/-! ## Texts and blocks -/

/-- A text becomes what it names: a subnet around the address, or else the error that its
length alone is out of range, or that nothing is named. -/
structure IsReadAsNamed (text : String) : Prop where
  accepted : ∀ subnet, parse text = .ok subnet ↔ ∃ address length, Names text address length ∧
    (1 ≤ length ∧ length ≤ 24) ∧ subnet.length = length ∧ subnet.contains address = true
  outOfRange : ∀ length, parse text = .error (.subnetLength length) ↔
    ∃ address, Names text address length ∧ ¬ (1 ≤ length ∧ length ≤ 24)
  malformed : parse text = .error (.malformedSubnet text) ↔
    ¬ ∃ address length, Names text address length

/-- The addresses of a subnet are its hosts, told apart by the bits that the mask leaves. -/
structure IsBlock (subnet : Subnet) : Prop where
  hosts : ∀ address, subnet.contains address = true ↔
    ∃ number : UInt32, address = subnet.host number.toNat
  noHostBits : ∀ bit < 32 - subnet.length, subnet.network.toNat.testBit bit = false
  apart : ∀ first second, subnet.host first = subnet.host second ↔
    ∀ bit < 32 - subnet.length, first.testBit bit = second.testBit bit
  masked : ∀ address,
    subnet.contains address = (address.value &&& subnet.mask == subnet.network.value)
  hostMasked : ∀ number : UInt32, (subnet.host number.toNat).value =
    subnet.network.value ||| (number &&& ~~~subnet.mask)

theorem exists_names {text : String} (read : parse text ≠ .error (.malformedSubnet text)) :
    ∃ address length, Names text address length :=
  Classical.byContradiction fun none => read (parse_of_not_names none)

theorem isReadAsNamed (text : String) : IsReadAsNamed text where
  accepted subnet := by
    constructor
    · intro accepted
      have read : parse text ≠ .error (.malformedSubnet text) := by simp [accepted]
      obtain ⟨address, length, names⟩ := exists_names read
      rw [parse_of_names names, around_eq_ok_iff] at accepted
      exact ⟨address, length, names, accepted⟩
    · rintro ⟨address, length, names, its⟩
      rw [parse_of_names names, around_eq_ok_iff]
      exact its
  outOfRange length := by
    constructor
    · intro refused
      have read : parse text ≠ .error (.malformedSubnet text) := by simp [refused]
      obtain ⟨address, found, names⟩ := exists_names read
      rw [parse_of_names names, around_eq_error_iff] at refused
      obtain ⟨outside, same⟩ := refused
      cases same
      exact ⟨address, names, outside⟩
    · rintro ⟨address, names, outside⟩
      rw [parse_of_names names, around_eq_error_iff]
      exact ⟨outside, rfl⟩
  malformed := by
    constructor
    · rintro refused ⟨address, length, names⟩
      rw [parse_of_names names, around_eq_error_iff] at refused
      cases refused.2
    · exact parse_of_not_names

theorem isBlock (subnet : Subnet) : IsBlock subnet where
  hosts _ := contains_iff_exists_host
  noHostBits _ := subnet.testBit_network
  apart _ _ := subnet.host_eq_host_iff
  masked := subnet.contains_eq_masked
  hostMasked := subnet.host_value

/-- A text is read as the subnet that it names, and what is written for a subnet is read as
that subnet again.  Around an address there is one subnet of each length from 1 to 24.  The
addresses of a subnet are its hosts, and the gateway is one of them. -/
theorem subnets_are_read_and_made_as_named :
    (∀ text, IsReadAsNamed text) ∧ (∀ subnet : Subnet, parse subnet.text = .ok subnet) ∧
      (∀ address length subnet, around address length = .ok subnet ↔
        (1 ≤ length ∧ length ≤ 24) ∧ subnet.length = length ∧ subnet.contains address = true) ∧
      ∀ subnet : Subnet, IsBlock subnet ∧ subnet.gateway = subnet.host 254 ∧
        subnet.contains subnet.gateway = true :=
  ⟨isReadAsNamed, parse_text, fun _ _ _ => around_eq_ok_iff, fun subnet =>
    ⟨subnet.isBlock, rfl, subnet.contains_host 254⟩⟩

example : (parse " 192.168.7.99/+024\n").toOption.map text = some "192.168.7.0/24" := by cbv

end Masquerade.Subnet
