import Masquerade.Bytes
import Masquerade.Packet.Fault

/-!
# Cursors over bytes

Values are read from the front of some bytes and written over the bytes at an offset.
This module holds what a reader of bytes and of words does, and the two operations at an
offset, with the laws that all headers rest on: a word is read as it was written and what
follows is left (`word16_bind`, `word32_bind`); reading at an offset is reading what lies
behind it, and moves on as far as was read (`readNext_of_ok`) or, where nothing was read,
not at all (`readNext_of_error`); writing changes the bytes that it covers (`writeAt_of_room`),
and an offset behind the end is refused before anything else.
-/

set_option autoImplicit false

namespace Masquerade.Packet

inductive WireError
  /-- The bytes end inside the value. -/
  | incomplete
  /-- The offset lies beyond the end of the bytes. -/
  | badOffset (offset : Nat)
  | refused (fault : Fault)
  deriving DecidableEq, Repr

/-! ## Reading -/

abbrev Reader (α : Type) := StateT Bytes (Except WireError) α

namespace Reader

def byte : Reader UInt8 := fun bytes =>
  match bytes with
  | [] => .error .incomplete
  | first :: rest => .ok (first, rest)

def word16 : Reader UInt16 := do
  let high ← byte
  let low ← byte
  return Bytes.word16 high low

def word32 : Reader UInt32 := do
  let first ← byte
  let second ← byte
  let third ← byte
  let fourth ← byte
  return Bytes.word32 first second third fourth

/-! ### Reading what was written

Each reader takes exactly the bytes of one written value and hands the value on. -/

theorem bind_of_ok {α β : Type} {first : Reader α} {value : α} {bytes rest : Bytes}
    (next : α → Reader β) (run : first bytes = .ok (value, rest)) :
    (first >>= next) bytes = next value rest := by
  change StateT.bind first next bytes = _
  simp only [StateT.bind, run, bind, Except.bind]

theorem bind_of_error {α β : Type} {first : Reader α} {error : WireError} {bytes : Bytes}
    (next : α → Reader β) (run : first bytes = .error error) :
    (first >>= next) bytes = .error error := by
  change StateT.bind first next bytes = _
  simp only [StateT.bind, run, bind, Except.bind]

@[simp] theorem pure_run {α : Type} (value : α) (bytes : Bytes) :
    (pure value : Reader α) bytes = .ok (value, bytes) := rfl

@[simp] theorem byte_bind {β : Type} (value : UInt8) (rest : Bytes) (next : UInt8 → Reader β) :
    (byte >>= next) (value :: rest) = next value rest := rfl

@[simp] theorem word16_bind {β : Type} (word : UInt16) (rest : Bytes) (next : UInt16 → Reader β) :
    (word16 >>= next) (Bytes.ofWord16 word ++ rest) = next word rest := by
  apply bind_of_ok
  change Except.ok (Bytes.word16 _ _, rest) = _
  rw [Bytes.word16_bytes]

@[simp] theorem word32_bind {β : Type} (word : UInt32) (rest : Bytes) (next : UInt32 → Reader β) :
    (word32 >>= next) (Bytes.ofWord32 word ++ rest) = next word rest := by
  apply bind_of_ok
  change Except.ok (Bytes.word32 _ _ _ _, rest) = _
  rw [Bytes.word32_bytes]

end Reader

/-! ## At an offset -/

/-- Reads a header that starts at `offset`.  The result holds the offset after
what the header takes up. -/
def readAt {α : Type} (decode : Bytes → Except WireError (α × Nat)) (bytes : Bytes)
    (offset : Nat) : Except WireError (α × Nat) :=
  if bytes.length < offset then .error (.badOffset offset)
  else
    match decode (bytes.drop offset) with
    | .ok (header, length) => .ok (header, offset + length)
    | .error error => .error error

/-- Reads a header where a cursor stands.  The cursor moves behind it, or stays where
nothing is read. -/
def readNext {α : Type} (decode : Bytes → Except WireError (α × Nat)) (bytes : Bytes)
    (cursor : Nat) : Except WireError α × Nat :=
  match readAt decode bytes cursor with
  | .ok (header, next) => (.ok header, next)
  | .error error => (.error error, cursor)

def writeAt (encoded bytes : Bytes) (offset : Nat) : Except WireError (Bytes × Nat) :=
  if bytes.length < offset then .error (.badOffset offset)
  else if bytes.length < offset + encoded.length then .error .incomplete
  else .ok (Bytes.overwrite bytes offset encoded, offset + encoded.length)

theorem readAt_of_beyond {α : Type} {decode : Bytes → Except WireError (α × Nat)} {bytes : Bytes}
    {offset : Nat} (beyond : bytes.length < offset) :
    readAt decode bytes offset = .error (.badOffset offset) := if_pos beyond

theorem readAt_of_ok {α : Type} {decode : Bytes → Except WireError (α × Nat)} {bytes : Bytes}
    {offset length : Nat} {header : α} (inside : offset ≤ bytes.length)
    (decoded : decode (bytes.drop offset) = .ok (header, length)) :
    readAt decode bytes offset = .ok (header, offset + length) := by
  rw [readAt, if_neg (Nat.not_lt.mpr inside), decoded]

theorem readAt_of_error {α : Type} {decode : Bytes → Except WireError (α × Nat)} {bytes : Bytes}
    {offset : Nat} {error : WireError} (inside : offset ≤ bytes.length)
    (failed : decode (bytes.drop offset) = .error error) :
    readAt decode bytes offset = .error error := by
  rw [readAt, if_neg (Nat.not_lt.mpr inside), failed]

theorem readAt_eq_ok_iff {α : Type} {decode : Bytes → Except WireError (α × Nat)} {bytes : Bytes}
    {offset next : Nat} {header : α} : readAt decode bytes offset = .ok (header, next) ↔
      offset ≤ bytes.length ∧
        ∃ length, decode (bytes.drop offset) = .ok (header, length) ∧ next = offset + length := by
  constructor
  · intro read
    rw [readAt] at read
    split at read
    · cases read
    · rename_i inside
      split at read
      · rename_i header length decoded
        cases read
        exact ⟨Nat.not_lt.mp inside, length, decoded, rfl⟩
      · cases read
  · rintro ⟨inside, length, decoded, rfl⟩
    exact readAt_of_ok inside decoded

theorem readNext_of_ok {α : Type} {decode : Bytes → Except WireError (α × Nat)} {bytes : Bytes}
    {cursor next : Nat} {header : α} (read : readAt decode bytes cursor = .ok (header, next)) :
    readNext decode bytes cursor = (.ok header, next) := by
  rw [readNext, read]

theorem readNext_of_error {α : Type} {decode : Bytes → Except WireError (α × Nat)} {bytes : Bytes}
    {cursor : Nat} {error : WireError} (failed : readAt decode bytes cursor = .error error) :
    readNext decode bytes cursor = (.error error, cursor) := by
  rw [readNext, failed]

theorem writeAt_of_room {encoded bytes : Bytes} {offset : Nat}
    (room : offset + encoded.length ≤ bytes.length) :
    writeAt encoded bytes offset =
      .ok (Bytes.overwrite bytes offset encoded, offset + encoded.length) := by
  rw [writeAt, if_neg (by omega), if_neg (by omega)]

end Masquerade.Packet
