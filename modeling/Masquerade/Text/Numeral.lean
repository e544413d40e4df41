/-!
# Numerals

Reading a number from the front of a text.  What a place accepts (radix, most
digits, leading zeros, bound) is a `NumeralForm`, so that the octet of an
address, a port and the group of an address are three values and one reader.
-/

set_option autoImplicit false

namespace Masquerade.Text

def digitValue (radix : Nat) (char : Char) : Option Nat :=
  let code := char.toNat
  let value :=
    if 48 ≤ code ∧ code ≤ 57 then code - 48
    else if 97 ≤ code ∧ code ≤ 102 then code - 87
    else if 65 ≤ code ∧ code ≤ 70 then code - 55
    else 16
  if value < radix then some value else none

def digitRun (radix : Nat) : List Char → List Nat × List Char
  | [] => ([], [])
  | char :: rest =>
    match digitValue radix char with
    | none => ([], char :: rest)
    | some value => (value :: (digitRun radix rest).1, (digitRun radix rest).2)

def digitsValue (radix : Nat) (digits : List Nat) : Nat :=
  digits.foldl (fun value digit => value * radix + digit) 0

structure NumeralForm where
  radix : Nat
  /-- The longest run of digits, where there is a limit. -/
  mostDigits : Option Nat
  /-- Whether a numeral of several digits may start with a zero. -/
  leadingZeros : Bool
  /-- Values from here on are refused. -/
  bound : Nat

namespace NumeralForm

def octet : NumeralForm := ⟨10, some 3, false, 256⟩

def group : NumeralForm := ⟨16, some 4, true, 65536⟩

def port : NumeralForm := ⟨10, none, true, 65536⟩

def zone : NumeralForm := ⟨10, none, true, 4294967296⟩

/-- The length of a subnet, before its range is looked at. -/
def subnetLength : NumeralForm := ⟨10, none, true, 256⟩

def admits (form : NumeralForm) (digits : List Nat) : Bool :=
  !digits.isEmpty && form.mostDigits.all (digits.length ≤ ·) &&
    (form.leadingZeros || digits.length == 1 || digits.head? != some 0) &&
    decide (digitsValue form.radix digits < form.bound)

/-- The number at the front of a text, and the text after it.  The whole run of
digits has to fit: a run that is too long is not cut. -/
def read (form : NumeralForm) (chars : List Char) : Option (Nat × List Char) :=
  let (digits, rest) := digitRun form.radix chars
  if form.admits digits then some (digitsValue form.radix digits, rest) else none

def readWhole (form : NumeralForm) (chars : List Char) : Option Nat :=
  match form.read chars with
  | some (value, []) => some value
  | _ => none

def readSigned (form : NumeralForm) : List Char → Option Nat
  | '+' :: rest => form.readWhole rest
  | chars => form.readWhole chars

end NumeralForm

/-! ## Writing -/

def decimal (value : Nat) : List Char := Nat.toDigits 10 value

def hexadecimal (value : Nat) : List Char := Nat.toDigits 16 value

end Masquerade.Text
