import Masquerade.Address.Basic
import Masquerade.Packet.Cursor

/-!
# Layout of headers

A header is read field by field from the front of some bytes.  This module holds the fields
that are no plain words, what a reader asks of them, and the form in which headers are
described.
-/

set_option autoImplicit false

namespace Masquerade.Packet

def WireError.message : WireError → String
  | .incomplete => ""
  | .badOffset offset => String.ofList (Text.decimal offset)
  | .refused fault => fault.message

/-! ## Reading -/

namespace Reader

def mac : Reader Mac := do
  let first ← byte
  let second ← byte
  let third ← byte
  let fourth ← byte
  let fifth ← byte
  let sixth ← byte
  return ⟨first, second, third, fourth, fifth, sixth⟩

def ipv4Address : Reader Ipv4Address := do
  return ⟨← word32⟩

def demand (condition : Bool) (fault : Fault) : Reader Unit := fun bytes =>
  if condition then .ok ((), bytes) else .error (.refused fault)

@[simp] theorem mac_bind {β : Type} (address : Mac) (rest : Bytes) (next : Mac → Reader β) :
    (mac >>= next) (address.bytes ++ rest) = next address rest := rfl

@[simp] theorem ipv4Address_bind {β : Type} (address : Ipv4Address) (rest : Bytes)
    (next : Ipv4Address → Reader β) :
    (ipv4Address >>= next) (address.bytes ++ rest) = next address rest := by
  apply bind_of_ok
  exact word32_bind address.value rest _

@[simp] theorem demand_true_bind {β : Type} (fault : Fault) (bytes : Bytes)
    (next : Unit → Reader β) :
    (demand true fault >>= next) bytes = next () bytes := rfl

@[simp] theorem demand_false_bind {β : Type} (fault : Fault) (bytes : Bytes)
    (next : Unit → Reader β) :
    (demand false fault >>= next) bytes = .error (.refused fault) := rfl

end Reader

/-! ## Descriptions -/

def describe (title : String) (fields : List (String × String)) : String :=
  title ++ ":" ++ String.join (fields.map fun (name, value) => "\n\t" ++ name ++ ": " ++ value)

def number (value : Nat) : String := String.ofList (Text.decimal value)

def hexNumber (value : Nat) : String := "0x" ++ String.ofList (Text.hexadecimal value)

end Masquerade.Packet
