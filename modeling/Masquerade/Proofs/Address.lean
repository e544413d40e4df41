import Masquerade.Address.Reader
import Masquerade.Proofs.Text

/-!
# Addresses in text

An address is read from four octets between full stops, none of which has a needless zero.
So there is one text for each address: the one that is written for it.
-/

set_option autoImplicit false

namespace Masquerade

open Text (NumeralForm decimal)

/-! ## The grammar of an address -/

structure Address.IsOctet (chars : List Char) (octet : UInt8) : Prop where
  numeral : Text.IsNumeral chars octet.toNat
  significant : Text.StartsSignificant chars

/-- Four octets between full stops. -/
inductive Address.IsDotted : List Char → Ipv4Address → Prop
  | octets {first second third fourth : List Char} {a b c d : UInt8} (isFirst : IsOctet first a)
      (isSecond : IsOctet second b) (isThird : IsOctet third c) (isFourth : IsOctet fourth d) :
      IsDotted (first ++ '.' :: (second ++ '.' :: (third ++ '.' :: fourth))) (.ofOctets a b c d)

namespace Ipv4Address

theorem bytes_ofOctets (first second third fourth : UInt8) :
    (ofOctets first second third fourth).bytes = [first, second, third, fourth] :=
  Bytes.ofWord32_word32 first second third fourth

theorem exists_ofOctets (address : Ipv4Address) :
    ∃ first second third fourth, address = ofOctets first second third fourth :=
  ⟨_, _, _, _, congrArg mk (Bytes.word32_bytes address.value).symm⟩

theorem chars_ofOctets (first second third fourth : UInt8) :
    (ofOctets first second third fourth).chars =
      decimal first.toNat ++ '.' :: (decimal second.toNat ++ '.' ::
        (decimal third.toNat ++ '.' :: decimal fourth.toNat)) := by
  simp [chars, bytes_ofOctets, List.intercalate, List.intersperse]

theorem toNat_inj {first second : Ipv4Address} : first.toNat = second.toNat ↔ first = second := by
  constructor
  · intro same
    rw [← ofNat_toNat first, same, ofNat_toNat]
  · exact congrArg toNat

theorem mem_chars {address : Ipv4Address} {char : Char} (member : char ∈ address.chars) :
    char.isDigit = true ∨ char = '.' := by
  obtain ⟨first, second, third, fourth, rfl⟩ := address.exists_ofOctets
  have digit : ∀ octet : UInt8, char ∈ decimal octet.toNat → char.isDigit = true := fun octet =>
    (Text.isNumeral_decimal octet.toNat).digits char
  simp only [chars_ofOctets, List.mem_append, List.mem_cons] at member
  rcases member with inside | dot | inside | dot | inside | dot | inside
  · exact Or.inl (digit first inside)
  · exact Or.inr dot
  · exact Or.inl (digit second inside)
  · exact Or.inr dot
  · exact Or.inl (digit third inside)
  · exact Or.inr dot
  · exact Or.inl (digit fourth inside)

end Ipv4Address

namespace Address

theorem isOctet_iff {chars : List Char} {octet : UInt8} :
    IsOctet chars octet ↔ chars = decimal octet.toNat := by
  rw [← Text.eq_decimal_iff]
  exact ⟨fun isOctet => ⟨isOctet.numeral, isOctet.significant⟩, fun ⟨numeral, significant⟩ =>
    ⟨numeral, significant⟩⟩

/-- An address has one text, which is the one that is written for it. -/
theorem isDotted_iff {chars : List Char} {address : Ipv4Address} :
    IsDotted chars address ↔ chars = address.chars := by
  constructor
  · rintro ⟨first, second, third, fourth⟩
    rw [Ipv4Address.chars_ofOctets, ← isOctet_iff.mp first, ← isOctet_iff.mp second,
      ← isOctet_iff.mp third, ← isOctet_iff.mp fourth]
  · rintro rfl
    obtain ⟨first, second, third, fourth, rfl⟩ := address.exists_ofOctets
    rw [Ipv4Address.chars_ofOctets]
    exact .octets (isOctet_iff.mpr rfl) (isOctet_iff.mpr rfl) (isOctet_iff.mpr rfl)
      (isOctet_iff.mpr rfl)

/-! ## Readers -/

theorem skip_eq_some_iff {expected : Char} {chars rest : List Char} :
    skip expected chars = some rest ↔ chars = expected :: rest := by
  cases chars with
  | nil => simp [skip]
  | cons char behind =>
      by_cases same : char = expected <;> simp [skip, same]

theorem readIpv4_eq_some_iff {chars rest : List Char} {address : Ipv4Address} :
    readIpv4 chars = some (address, rest) ↔
      chars = address.chars ++ rest ∧ ∀ char ∈ rest.head?, char.isDigit = false := by
  simp only [readIpv4, bind, Option.bind_eq_some_iff, Prod.exists, skip_eq_some_iff,
    NumeralForm.read_octet_eq_some_iff, pure, Option.some.injEq, Prod.mk.injEq]
  constructor
  · rintro ⟨first, _, ⟨rfl, _, firstLess⟩, _, rfl, second, _, ⟨rfl, _, secondLess⟩, _, rfl,
      third, _, ⟨rfl, _, thirdLess⟩, _, rfl, fourth, _, ⟨rfl, stops, fourthLess⟩, rfl, rfl⟩
    have octet : ∀ value, value < 256 → (UInt8.ofNat value).toNat = value := fun value less => by
      rw [UInt8.toNat_ofNat', Nat.mod_eq_of_lt less]
    refine ⟨?_, stops⟩
    rw [Ipv4Address.chars_ofOctets, octet first firstLess, octet second secondLess,
      octet third thirdLess, octet fourth fourthLess]
    simp only [List.append_assoc, List.cons_append]
  · rintro ⟨rfl, stops⟩
    obtain ⟨first, second, third, fourth, rfl⟩ := address.exists_ofOctets
    have stop : ∀ behind : List Char, ∀ char ∈ ('.' :: behind).head?, char.isDigit = false := by
      intro behind char starts
      cases starts
      rfl
    refine ⟨first.toNat, _, ⟨?_, stop _, first.toNat_lt⟩, _, rfl, second.toNat, _,
      ⟨rfl, stop _, second.toNat_lt⟩, _, rfl, third.toNat, _, ⟨rfl, stop _, third.toNat_lt⟩, _, rfl,
      fourth.toNat, rest, ⟨rfl, stops, fourth.toNat_lt⟩, ?_, rfl⟩
    · rw [Ipv4Address.chars_ofOctets]
      simp only [List.append_assoc, List.cons_append]
    · simp only [UInt8.ofNat_toNat]

theorem whole_eq_some_iff {α : Type} {reader : List Char → Option (α × List Char)}
    {chars : List Char} {value : α} :
    whole reader chars = some value ↔ reader chars = some (value, []) := by
  unfold whole
  split
  · rename_i found taken
    rw [taken]
    simp
  · rename_i other
    exact iff_of_false (by simp) (other value)

theorem ipv4?_eq_some_iff {chars : List Char} {address : Ipv4Address} :
    ipv4? chars = some address ↔ IsDotted chars address := by
  rw [ipv4?, whole_eq_some_iff, readIpv4_eq_some_iff, isDotted_iff, List.append_nil]
  exact and_iff_left (by simp)

end Address

end Masquerade
