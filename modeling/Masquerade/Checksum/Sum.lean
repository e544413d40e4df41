import Masquerade.Bytes

/-!
# Sums of words

Sixteen-bit words are added with end-around carry, and the checksum is the complement of
the sum.  A sum is opened, bytes are added to it stretch by stretch, and its checksum is
taken.  Two laws say how: stretches of even length add up as if they were one (`add_add`),
and the checksum of some bytes is the one's complement of the one's complement sum of
their words, where a zero follows an odd last byte (`ofBytes_eq`).
-/

set_option autoImplicit false

namespace Masquerade.Checksum

/-- `total` and all words of the bytes; an odd last byte is the high half of a word. -/
def addWords (total : Nat) : Bytes → Nat
  | [] => total
  | [last] => total + last.toNat * 256
  | high :: low :: rest => addWords (total + (high.toNat * 256 + low.toNat)) rest

/-- The end-around carry sum with this total: zero only for nothing but zeros,
and otherwise the remainder modulo 65535 from 1 to 65535. -/
def fold (total : Nat) : Nat :=
  if total = 0 then 0 else (total - 1) % 65535 + 1

/-- All that was added so far; the carries are folded in the end. -/
structure Sum where
  total : Nat
  deriving Repr

namespace Sum

def zero : Sum := ⟨0⟩

def add (sum : Sum) (bytes : Bytes) : Sum := ⟨addWords sum.total bytes⟩

def checksum (sum : Sum) : UInt16 := UInt16.ofNat (65535 - fold sum.total)

end Sum

def ofBytes (bytes : Bytes) : UInt16 := (Sum.zero.add bytes).checksum

theorem addWords_eq (total : Nat) : ∀ bytes : Bytes, addWords total bytes = total + addWords 0 bytes
  | [] => by simp [addWords]
  | [last] => by simp [addWords]
  | high :: low :: rest => by
    rw [addWords, addWords, addWords_eq (total + _) rest, addWords_eq (0 + _) rest]
    omega

theorem fold_le (total : Nat) : fold total ≤ 65535 := by
  unfold fold
  split <;> omega

theorem toNat_ofBytes (bytes : Bytes) : (ofBytes bytes).toNat = 65535 - fold (addWords 0 bytes) := by
  rw [ofBytes, Sum.checksum, UInt16.toNat_ofNat']
  change (65535 - fold (addWords 0 bytes)) % 65536 = _
  omega

/-! ## Stretches -/

theorem addWords_append (total : Nat) : ∀ first second : Bytes, first.length % 2 = 0 →
    addWords total (first ++ second) = addWords (addWords total first) second
  | [], _, _ => rfl
  | [_], _, even => by simp at even
  | high :: low :: rest, second, even => by
      have shorter : rest.length % 2 = 0 := by
        simp only [List.length_cons] at even
        omega
      simp only [List.cons_append, addWords]
      exact addWords_append _ rest second shorter

theorem Sum.add_add (sum : Sum) {first : Bytes} (second : Bytes) (even : first.length % 2 = 0) :
    (sum.add first).add second = sum.add (first ++ second) :=
  congrArg Sum.mk (addWords_append sum.total first second even).symm

/-! ## One's complement sums -/

def words : Bytes → List UInt16
  | [] => []
  | [last] => [Bytes.word16 last 0]
  | high :: low :: rest => Bytes.word16 high low :: words rest

def addAround (first second : UInt16) : UInt16 :=
  if first.toNat + second.toNat < 65536 then first + second else first + second + 1

def onesComplement (words : List UInt16) : UInt16 := ~~~ words.foldl addAround 0

theorem fold_of_le {total : Nat} (small : total ≤ 65535) : fold total = total := by
  unfold fold
  split <;> omega

theorem fold_fold_add (total more : Nat) : fold (fold total + more) = fold (total + more) := by
  unfold fold
  split
  · rename_i zero
    rw [zero]
  · rw [if_neg (by omega), if_neg (by omega)]
    omega

theorem toNat_addAround (first second : UInt16) :
    (addAround first second).toNat = fold (first.toNat + second.toNat) := by
  have firstBound := first.toNat_lt
  have secondBound := second.toNat_lt
  unfold addAround
  split
  · rw [fold_of_le (by omega), UInt16.toNat_add]
    omega
  · rw [fold, if_neg (by omega), UInt16.toNat_add, UInt16.toNat_add, UInt16.toNat_one]
    omega

theorem toNat_foldl_words : ∀ (bytes : Bytes) {sum : UInt16} {total : Nat},
    sum.toNat = fold total → ((words bytes).foldl addAround sum).toNat = fold (addWords total bytes)
  | [], _, _, same => same
  | [last], sum, total, same => by
      rw [words, List.foldl_cons, List.foldl_nil, addWords, toNat_addAround, same, fold_fold_add,
        Bytes.toNat_word16, UInt8.toNat_zero, Nat.add_zero]
  | high :: low :: rest, sum, total, same => by
      have next : (addAround sum (Bytes.word16 high low)).toNat =
          fold (total + (high.toNat * 256 + low.toNat)) := by
        rw [toNat_addAround, same, fold_fold_add, Bytes.toNat_word16]
      exact toNat_foldl_words rest next

theorem ofBytes_eq (bytes : Bytes) : ofBytes bytes = onesComplement (words bytes) := by
  apply UInt16.toNat_inj.mp
  have none : (0 : UInt16).toNat = fold 0 := rfl
  rw [toNat_ofBytes, onesComplement, UInt16.toNat_not, toNat_foldl_words bytes none]
  rfl

end Masquerade.Checksum
