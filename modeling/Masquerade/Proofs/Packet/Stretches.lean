import Masquerade.Packet.Assembly
import Masquerade.Packet.TcpOptions
import Masquerade.Proofs.Checksum

/-!
# Stretches of bytes

Taking a stretch out of some bytes is only allowed where it lies within them, and copying a
piece only where it fills its place.  Here checksums, options and frames are worked out with
these two operations alone, which give up where they are not allowed.  They never do: what
comes out is what the plain operations on lists give.
-/

set_option autoImplicit false

namespace Masquerade

open Packet

/-- What would stop the gateway, or keep it from what it is about to do. -/
inductive Breach
  /-- A stretch that does not lie within what it is taken from. -/
  | outside (start stop length : Nat)
  /-- A piece that does not fill the place to which it is copied. -/
  | misfit (start stop length size : Nat)
  /-- A frame that cannot be built. -/
  | unbuilt (error : WireError)
  /-- A packet number that was used for no frame. -/
  | unsent (identification : UInt16)
  /-- A stream that is open on the host but has no room in the table. -/
  | unrecorded (flow : Flow)

namespace Checked

theorem ok_bind {α β : Type} (value : α) (next : α → Except Breach β) :
    (Except.ok value >>= next) = next value := rfl

/-! ## Taking and copying -/

section Stretches

variable {α : Type}

def slice (items : List α) (start stop : Nat) : Except Breach (List α) :=
  if start ≤ stop ∧ stop ≤ items.length then .ok ((items.take stop).drop start)
  else .error (.outside start stop items.length)

def item (items : List α) (place : Nat) : Except Breach α :=
  match items[place]? with
  | none => .error (.outside place (place + 1) items.length)
  | some found => .ok found

def splitAt (items : List α) (count : Nat) : Except Breach (List α × List α) := do
  return (← slice items 0 count, ← slice items count items.length)

def copy (bytes : Bytes) (start stop : Nat) (piece : Bytes) : Except Breach Bytes :=
  if start ≤ stop ∧ stop ≤ bytes.length ∧ piece.length = stop - start then
    .ok (bytes.overwrite start piece)
  else .error (.misfit start stop bytes.length piece.length)

theorem slice_eq {items : List α} {start stop : Nat} (order : start ≤ stop)
    (within : stop ≤ items.length) : slice items start stop = .ok ((items.take stop).drop start) :=
  if_pos ⟨order, within⟩

theorem slice_front {items : List α} {stop : Nat} (within : stop ≤ items.length) :
    slice items 0 stop = .ok (items.take stop) :=
  slice_eq (Nat.zero_le stop) within

theorem slice_rest {items : List α} {start : Nat} (within : start ≤ items.length) :
    slice items start items.length = .ok (items.drop start) := by
  rw [slice_eq within (Nat.le_refl _), List.take_length]

theorem item_eq {items : List α} {place : Nat} (inside : place < items.length) :
    item items place = .ok items[place] := by
  rw [item, List.getElem?_eq_getElem inside]

theorem splitAt_eq {items : List α} {count : Nat} (within : count ≤ items.length) :
    splitAt items count = .ok (items.take count, items.drop count) := by
  rw [splitAt, slice_front within, slice_rest within]
  rfl

theorem copy_eq {bytes piece : Bytes} {start stop : Nat} (order : start ≤ stop)
    (within : stop ≤ bytes.length) (fills : piece.length = stop - start) :
    copy bytes start stop piece = .ok (bytes.overwrite start piece) :=
  if_pos ⟨order, within, fills⟩

theorem copy_between {front place piece : Bytes} {start stop : Nat} (begins : front.length = start)
    (ends : start + place.length = stop) (fills : piece.length = place.length) (rest : Bytes) :
    copy (front ++ place ++ rest) start stop piece = .ok (front ++ piece ++ rest) := by
  have within : stop ≤ (front ++ place ++ rest).length := by
    rw [List.length_append, List.length_append]
    omega
  have before : (front ++ place ++ rest).take start = front := by
    rw [List.append_assoc]
    exact List.take_left' begins
  have behind : (front ++ place ++ rest).drop stop = rest := by
    refine List.drop_left' ?_
    rw [List.length_append]
    omega
  rw [copy_eq (by omega) within (by omega), Bytes.overwrite, before, fills, ends, behind]

theorem copy_behind {front place piece : Bytes} {start : Nat} (begins : front.length = start)
    (fills : piece.length = place.length) :
    copy (front ++ place) start (front ++ place).length piece = .ok (front ++ piece) := by
  have ends : start + place.length = (front ++ place).length := by
    rw [List.length_append, begins]
  have copied := copy_between begins ends fills []
  rwa [List.append_nil, List.append_nil] at copied

end Stretches

/-! ## Checksums -/

section Checksums

def verifySum (sum : Bytes → UInt16) (bytes : Bytes) (length : Nat) : Except Breach Bool :=
  if bytes.length < length then .ok false
  else do return sum (← slice bytes 0 length) == 0

def verifies : Bytes → Nat → Except Breach Bool := verifySum Checksum.ofBytes

def verifiesTransport (transport : Transport) (source destination : Ipv4Address) (bytes : Bytes)
    (length : Nat) : Except Breach Bool :=
  verifySum (Checksum.betweenAddresses transport source destination length) bytes length

def storeSum (sum : Nat → Bytes → UInt16) (bytes : Bytes) (offset length : Nat) :
    Except Breach (UInt16 × Bytes) :=
  let covered := min length bytes.length
  if covered < offset + 2 then .ok (0, bytes)
  else do
    let blank ← copy bytes offset (offset + 2) (Bytes.ofWord16 0)
    let word := sum covered (← slice blank 0 covered)
    return (word, ← copy blank offset (offset + 2) (Bytes.ofWord16 word))

def store (bytes : Bytes) (offset length : Nat) : Except Breach (UInt16 × Bytes) :=
  storeSum (fun _ => Checksum.ofBytes) bytes offset length

def storeTransport (transport : Transport) (source destination : Ipv4Address) (bytes : Bytes)
    (offset length : Nat) : Except Breach (UInt16 × Bytes) :=
  storeSum (fun covered stretch => Checksum.stored transport
    (Checksum.betweenAddresses transport source destination covered stretch)) bytes offset length

theorem verifySum_eq (sum : Bytes → UInt16) (bytes : Bytes) (length : Nat) :
    verifySum sum bytes length =
      .ok (decide (length ≤ bytes.length) && sum (bytes.take length) == 0) := by
  rw [verifySum]
  by_cases short : bytes.length < length
  · rw [if_pos short, decide_eq_false (Nat.not_le.mpr short), Bool.false_and]
  · rw [if_neg short, slice_front (Nat.not_lt.mp short), decide_eq_true (Nat.not_lt.mp short),
      Bool.true_and]
    rfl

theorem verifies_eq (bytes : Bytes) (length : Nat) :
    verifies bytes length = .ok (Checksum.verifies bytes length) :=
  verifySum_eq _ bytes length

theorem verifiesTransport_eq (transport : Transport) (source destination : Ipv4Address)
    (bytes : Bytes) (length : Nat) : verifiesTransport transport source destination bytes length =
      .ok (Checksum.verifiesTransport transport source destination bytes length) :=
  verifySum_eq _ bytes length

theorem copy_word {bytes : Bytes} {offset : Nat} (room : offset + 2 ≤ bytes.length)
    (word : UInt16) : copy bytes offset (offset + 2) (Bytes.ofWord16 word) =
      .ok (Checksum.put bytes offset word) :=
  copy_eq (Nat.le_add_right ..) room (Nat.add_sub_cancel_left ..).symm

theorem put_put {bytes : Bytes} {offset : Nat} (room : offset + 2 ≤ bytes.length)
    (first second : UInt16) :
    Checksum.put (Checksum.put bytes offset first) offset second =
      Checksum.put bytes offset second := by
  have front : (bytes.take offset).length = offset := by
    rw [List.length_take]
    omega
  have field : (bytes.take offset ++ Bytes.ofWord16 first).length = offset + 2 := by
    rw [List.length_append, front, Bytes.length_ofWord16]
  simp only [Checksum.put, Bytes.overwrite, Bytes.length_ofWord16]
  rw [List.drop_left' field, List.append_assoc (bytes.take offset), List.take_left' front]

theorem storeSum_eq (sum : Nat → Bytes → UInt16) (bytes : Bytes) (offset length : Nat) :
    storeSum sum bytes offset length = .ok (Checksum.storeAt sum bytes offset length) := by
  simp only [storeSum, Checksum.storeAt]
  split
  · rfl
  · rename_i covered
    have room : offset + 2 ≤ bytes.length := by omega
    have length : (Checksum.put bytes offset 0).length = bytes.length := Checksum.put_length room 0
    have roomToo : offset + 2 ≤ (Checksum.put bytes offset 0).length := length ▸ room
    rw [copy_word room, ok_bind, slice_front (length ▸ Nat.min_le_right ..), ok_bind,
      copy_word roomToo, put_put room]
    rfl

theorem store_eq (bytes : Bytes) (offset length : Nat) :
    store bytes offset length = .ok (Checksum.store bytes offset length) :=
  storeSum_eq _ bytes offset length

theorem storeTransport_eq (transport : Transport) (source destination : Ipv4Address)
    (bytes : Bytes) (offset length : Nat) :
    storeTransport transport source destination bytes offset length =
      .ok (Checksum.storeTransport transport source destination bytes offset length) :=
  storeSum_eq _ bytes offset length

end Checksums

/-! ## Options -/

def word32At (bytes : Bytes) (place : Nat) : Except Breach UInt32 := do
  return Bytes.word32 (← item bytes place) (← item bytes (place + 1)) (← item bytes (place + 2))
    (← item bytes (place + 3))

def timestampsFrom (options : Bytes) (place : Nat) : Except Breach (Option Timestamps) :=
  if _inside : place < options.length then do
    let kind ← item options place
    if kind = 0 then return none
    else if kind = 1 then timestampsFrom options (place + 1)
    else
      match options[place + 1]? with
      | none => return none
      | some length =>
        if _cut : length.toNat < 2 ∨ options.length < place + length.toNat then return none
        else if kind = 8 ∧ length = 10 then do
          let content ← slice options (place + 2) (place + 10)
          return some ⟨← word32At content 0, ← word32At content 4⟩
        else timestampsFrom options (place + length.toNat)
  else return none
termination_by options.length - place

def timestamps (options : Bytes) : Except Breach (Option Timestamps) := timestampsFrom options 0

theorem exists_of_length_eq_eight {bytes : Bytes} (eight : bytes.length = 8) :
    ∃ a b c d e f g h, bytes = [a, b, c, d, e, f, g, h] := by
  match bytes, eight with
  | [a, b, c, d, e, f, g, h], _ => exact ⟨a, b, c, d, e, f, g, h, rfl⟩

/-- From every place, the walk finds what is found in the rest of the block. -/
theorem timestampsFrom_eq (options : Bytes) (place : Nat) :
    timestampsFrom options place = .ok (Timestamps.find? (options.drop place)) := by
  -- On how much of the block is left, of which every option takes one byte at least.
  generalize left : options.length - place = count
  induction count using Nat.strongRecOn generalizing place with
  | ind count ih =>
    rw [timestampsFrom]
    by_cases inside : place < options.length
    · rw [dif_pos inside, item_eq inside, ok_bind, List.drop_eq_getElem_cons inside]
      by_cases isEnd : options[place] = 0
      · rw [if_pos isEnd, isEnd, Timestamps.find?.eq_def]
        rfl
      rw [if_neg isEnd]
      by_cases isFiller : options[place] = 1
      · rw [if_pos isFiller, isFiller, Timestamps.find?.eq_def]
        exact ih (options.length - (place + 1)) (by omega) (place + 1) rfl
      rw [if_neg isFiller]
      cases behind : options.drop (place + 1) with
      | nil =>
          have none : options[place + 1]? = none :=
            List.getElem?_eq_none (List.drop_eq_nil_iff.mp behind)
          rw [none, Timestamps.find?.eq_def]
          dsimp only
          rw [if_neg isEnd, if_neg isFiller]
          rfl
      | cons length body =>
          have here : options[place + 1]? = some length := by
            rw [← List.head?_drop, behind]
            rfl
          have rest : options.drop (place + 2) = body := by
            rw [← List.tail_drop, behind]
            rfl
          have room : place + 2 + body.length = options.length := by
            have inside := (List.getElem?_eq_some_iff.mp here).1
            rw [← rest, List.length_drop]
            omega
          rw [here]
          dsimp only
          by_cases cut : length.toNat < 2 ∨ options.length < place + length.toNat
          · rw [dif_pos cut, Timestamps.find?_of_cut isEnd isFiller (by omega)]
            rfl
          rw [dif_neg cut]
          by_cases isClock : options[place] = 8 ∧ length = 10
          · obtain ⟨kind, rfl⟩ := isClock
            have ten : (10 : UInt8).toNat = 10 := rfl
            have eight : (body.take 8).length = 8 := by
              rw [List.length_take]
              omega
            obtain ⟨a, b, c, d, e, f, g, h, content⟩ := exists_of_length_eq_eight eight
            have stretch : slice options (place + 2) (place + 10) = .ok (body.take 8) := by
              rw [slice_eq (by omega) (by omega), ← rest, List.take_drop]
            rw [if_pos ⟨kind, rfl⟩, stretch, kind, Timestamps.find?_of_clock content, content]
            rfl
          · have next : body.drop (length.toNat - 2) = options.drop (place + length.toNat) := by
              rw [← rest, List.drop_drop]
              congr 1
              omega
            rw [if_neg isClock,
              Timestamps.find?_of_other isEnd isFiller (by omega) (by omega) isClock, next]
            exact ih (options.length - (place + length.toNat)) (by omega) _ rfl
    · rw [dif_neg inside, List.drop_of_length_le (Nat.le_of_not_lt inside), Timestamps.find?.eq_def]
      rfl

theorem timestamps_eq (options : Bytes) :
    timestamps options = .ok (Timestamps.find? options) :=
  timestampsFrom_eq options 0

end Checked

end Masquerade
