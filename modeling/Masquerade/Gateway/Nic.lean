import Masquerade.Address.Basic

/-!
# Controllers

The network controllers on the simulated network, each under a number that does
not change while its hardware address may.
-/

set_option autoImplicit false

namespace Masquerade

structure NicId where
  number : UInt32
  deriving DecidableEq, Repr

def NicId.text (nic : NicId) : String :=
  "nic#" ++ String.ofList (Text.decimal nic.number.toNat)

structure Nic where
  id : NicId
  mac : Mac
  deriving DecidableEq, Repr

def Nic.register (nic : Nic) : List Nic → List Nic
  | [] => [nic]
  | first :: rest => if first.id = nic.id then nic :: rest else first :: nic.register rest

def Nic.mac? (id : NicId) (nics : List Nic) : Option Mac :=
  (nics.find? (fun nic => nic.id = id)).map Nic.mac

end Masquerade
