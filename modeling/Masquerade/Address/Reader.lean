import Masquerade.Address.Basic

/-!
# Reading addresses

Each reader takes an address from the front of a text and leaves the rest, or
takes nothing.  Of long addresses (eight hexadecimal groups) only the grammar is
of interest: they are told apart from other text, and no use is made of them.
-/

set_option autoImplicit false

namespace Masquerade.Address

open Text (NumeralForm)

def skip (expected : Char) : List Char → Option (List Char)
  | [] => none
  | char :: rest => if char = expected then some rest else none

/-! ## Short addresses -/

def readIpv4 (chars : List Char) : Option (Ipv4Address × List Char) := do
  let (first, chars) ← NumeralForm.octet.read chars
  let (second, chars) ← NumeralForm.octet.read (← skip '.' chars)
  let (third, chars) ← NumeralForm.octet.read (← skip '.' chars)
  let (fourth, chars) ← NumeralForm.octet.read (← skip '.' chars)
  return (.ofOctets (.ofNat first) (.ofNat second) (.ofNat third) (.ofNat fourth), chars)

def readPort (chars : List Char) : Option (UInt16 × List Char) := do
  let (port, chars) ← NumeralForm.port.read (← skip ':' chars)
  return (UInt16.ofNat port, chars)

def whole {α : Type} (reader : List Char → Option (α × List Char)) (chars : List Char) :
    Option α :=
  match reader chars with
  | some (value, []) => some value
  | _ => none

def ipv4? (chars : List Char) : Option Ipv4Address := whole readIpv4 chars

def endpoint? : List Char → Option Endpoint :=
  whole fun chars => do
    let (address, chars) ← readIpv4 chars
    let (port, chars) ← readPort chars
    return (⟨address, port⟩, chars)

/-! ## Long addresses -/

structure GroupRow where
  /-- How many groups were read; a short address at the end counts as two. -/
  count : Nat
  endsShort : Bool
  rest : List Char

/-- Reads groups between colons, at most `room` of them.  A short address may
stand in place of the last two and ends the row.  A colon without a group behind
it is not taken. -/
def readGroups : (room : Nat) → (atStart : Bool) → List Char → GroupRow
  | 0, _, chars => ⟨0, false, chars⟩
  | room + 1, atStart, chars =>
    match if atStart then some chars else skip ':' chars with
    | none => ⟨0, false, chars⟩
    | some body =>
      match if room = 0 then none else readIpv4 body with
      | some (_, rest) => ⟨2, true, rest⟩
      | none =>
        match NumeralForm.group.read body with
        | none => ⟨0, false, chars⟩
        | some (_, rest) =>
          let row := readGroups room false rest
          { row with count := row.count + 1 }

/-- Skips a long address: eight groups, or fewer with a double colon in place of
the missing ones.  A short address may end it, but not stand before the double
colon. -/
def skipIpv6 (chars : List Char) : Option (List Char) :=
  let front := readGroups 8 true chars
  if front.count = 8 then some front.rest
  else if front.endsShort then none
  else do
    let rest ← skip ':' (← skip ':' front.rest)
    return (readGroups (7 - front.count) true rest).rest

def skipZone (chars : List Char) : List Char :=
  match skip '%' chars with
  | none => chars
  | some digits =>
    match NumeralForm.zone.read digits with
    | some (_, rest) => rest
    | none => chars

def isLongEndpoint (chars : List Char) : Bool :=
  (whole (fun chars => do
    let rest ← skip ']' (skipZone (← skipIpv6 (← skip '[' chars)))
    readPort rest) chars).isSome

end Masquerade.Address
