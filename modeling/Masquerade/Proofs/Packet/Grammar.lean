import Masquerade.Proofs.Packet.RoundTrip

/-!
# Which bytes are headers

A reader that checks nothing needs its number of bytes and no more.  The checks of a
decoder stand between such stretches, so that what is missing and what is wrong are found
in a fixed order.  For each header with checks the verdict on all bytes is told by the
few numbers in them that lead on to what follows.
-/

set_option autoImplicit false

namespace Masquerade.Packet

/-! ## Readers that check nothing -/

namespace Reader

variable {α β : Type}

def Needs (reader : Reader α) (count : Nat) : Prop :=
  ∀ bytes : Bytes, bytes.length < count → reader bytes = .error .incomplete

structure Draws (reader : Reader α) (count : Nat) : Prop where
  short : reader.Needs count
  enough : ∀ bytes : Bytes, count ≤ bytes.length →
    ∃ value, reader bytes = .ok (value, bytes.drop count)

theorem draws_pure (value : α) : (pure value : Reader α).Draws 0 where
  short _ few := absurd few (Nat.not_lt_zero _)
  enough _ _ := ⟨value, rfl⟩

theorem draws_byte : byte.Draws 1 where
  short bytes few := by
    rw [List.length_eq_zero_iff.mp (Nat.lt_one_iff.mp few)]
    rfl
  enough bytes some := by
    obtain ⟨first, rest, rfl⟩ := List.exists_cons_of_length_pos some
    exact ⟨first, rfl⟩

theorem needs_none (reader : Reader α) : reader.Needs 0 :=
  fun _ few => absurd few (Nat.not_lt_zero _)

theorem Draws.needs {first : Reader α} {next : α → Reader β} {few more : Nat}
    (start : first.Draws few) (later : ∀ value, (next value).Needs more) :
    (first >>= next).Needs (few + more) := by
  intro bytes less
  by_cases early : bytes.length < few
  · exact bind_of_error next (start.short bytes early)
  · obtain ⟨value, ran⟩ := start.enough bytes (Nat.not_lt.mp early)
    rw [bind_of_ok next ran]
    apply later value
    rw [List.length_drop]
    omega

theorem Draws.bind {first : Reader α} {next : α → Reader β} {few more : Nat}
    (start : first.Draws few) (later : ∀ value, (next value).Draws more) :
    (first >>= next).Draws (few + more) where
  short := start.needs fun value => (later value).short
  enough bytes all := by
    obtain ⟨value, ran⟩ := start.enough bytes (by omega)
    obtain ⟨result, ends⟩ := (later value).enough (bytes.drop few) (by
      rw [List.length_drop]
      omega)
    refine ⟨result, ?_⟩
    rw [bind_of_ok next ran, ends, List.drop_drop]

theorem draws_word16 : word16.Draws 2 :=
  draws_byte.bind fun _ => draws_byte.bind fun _ => draws_pure _

theorem draws_word32 : word32.Draws 4 :=
  draws_byte.bind fun _ => draws_byte.bind fun _ => draws_byte.bind fun _ =>
    draws_byte.bind fun _ => draws_pure _

theorem draws_ipv4Address : ipv4Address.Draws 4 :=
  draws_word32.bind fun _ => draws_pure _

end Reader

/-! ## Verdicts -/

/-- How far the header of a packet goes, or the first thing that is wrong with it. -/
def Ipv4Header.verdict (bytes : Bytes) : Except WireError Nat :=
  let length := byteAt bytes 0 % 16 * 4
  let total := wordAt bytes 2
  if bytes = [] then .error .incomplete
  else if byteAt bytes 0 / 16 ≠ 4 then .error (.refused .notIpv4)
  else if byteAt bytes 0 % 16 < 5 then .error (.refused .ipv4HeaderShort)
  else if bytes.length < 20 ∨ bytes.length < length then .error .incomplete
  else if total < length ∨ bytes.length < total then .error (.refused .ipv4TotalLength)
  else .ok length

def TcpHeader.verdict (bytes : Bytes) : Except WireError Nat :=
  let length := byteAt bytes 12 / 16 * 4
  if bytes.length < 13 then .error .incomplete
  else if byteAt bytes 12 / 16 < 5 then .error (.refused .tcpDataOffset)
  else if bytes.length < 20 ∨ bytes.length < length then .error .incomplete
  else .ok length

def UdpHeader.verdict (bytes : Bytes) : Except WireError Nat :=
  let length := wordAt bytes 4
  if bytes.length < 8 then .error .incomplete
  else if length < 8 ∨ bytes.length < length then .error (.refused .udpLength)
  else .ok 8

/-! ### Packets -/

theorem Ipv4Header.draws_reader {first : UInt8} (version : first.toNat / 16 = 4)
    (atLeast : size ≤ first.toNat % 16 * 4) :
    Reader.Draws (fun rest => reader (first :: rest)) 19 := by
  simp only [reader, Reader.byte_bind, version, atLeast, beq_self_eq_true, decide_true,
    Reader.demand_true_bind]
  exact Reader.draws_byte.bind fun _ => Reader.draws_word16.bind fun _ =>
    Reader.draws_word16.bind fun _ => Reader.draws_word16.bind fun _ =>
    Reader.draws_byte.bind fun _ => Reader.draws_byte.bind fun _ =>
    Reader.draws_word16.bind fun _ => Reader.draws_ipv4Address.bind fun _ =>
    Reader.draws_ipv4Address.bind fun _ => Reader.draws_pure _

theorem Ipv4Header.reader_of_version {first : UInt8} (rest : Bytes)
    (other : first.toNat / 16 ≠ 4) : reader (first :: rest) = .error (.refused .notIpv4) := by
  rw [reader, Reader.byte_bind, beq_eq_false_iff_ne.mpr other, Reader.demand_false_bind]

theorem Ipv4Header.reader_of_short {first : UInt8} (rest : Bytes)
    (version : first.toNat / 16 = 4) (short : ¬ size ≤ first.toNat % 16 * 4) :
    reader (first :: rest) = .error (.refused .ipv4HeaderShort) := by
  rw [reader, Reader.byte_bind, beq_iff_eq.mpr version, Reader.demand_true_bind]
  simp only [short, decide_false, Reader.demand_false_bind]

theorem Ipv4Header.decode_verdict (bytes : Bytes) :
    (decode bytes).map Prod.snd = verdict bytes := by
  cases bytes with
  | nil => rfl
  | cons first rest =>
      have front : byteAt (first :: rest) 0 = first.toNat := rfl
      have count : (first :: rest).length = rest.length + 1 := rfl
      have minimum : size = 20 := rfl
      simp only [verdict, front, if_neg (List.cons_ne_nil first rest)]
      by_cases version : first.toNat / 16 = 4
      · rw [if_neg (not_not_intro version)]
        by_cases atLeast : size ≤ first.toNat % 16 * 4
        · rw [if_neg (by omega)]
          have draws := draws_reader version atLeast
          by_cases few : rest.length < 19
          · have run : reader (first :: rest) = .error .incomplete := draws.short rest few
            rw [decode, run, if_pos (.inl (by omega))]
            rfl
          · obtain ⟨⟨header, length⟩, run⟩ := draws.enough rest (Nat.not_lt.mp few)
            obtain ⟨own, total, _⟩ := fields_of_reader run
            rw [List.getD_cons_zero] at own
            simp only [decode, run, ← total, ← own]
            by_cases cut : (first :: rest).length < length
            · rw [if_pos cut, if_pos (.inr cut)]
              rfl
            · have all : ¬ ((first :: rest).length < 20 ∨ (first :: rest).length < length) := by
                omega
              rw [if_neg cut, if_neg all]
              split <;> rfl
        · rw [decode, reader_of_short rest version atLeast, if_pos (by omega)]
          rfl
      · rw [decode, reader_of_version rest version, if_pos version]
        rfl

/-! ### Segments -/

theorem TcpHeader.headerLength_of_reader {bytes rest : Bytes} {header : TcpHeader}
    (run : reader bytes = .ok (header, rest)) :
    header.headerLength = byteAt bytes 12 / 16 * 4 := by
  obtain ⟨offset, own, _, rfl⟩ := taken_of_reader run
  exact own

theorem TcpHeader.reader_of_inside {bytes : Bytes} (inside : 12 < bytes.length) :
    ∃ next : Unit → Reader TcpHeader, reader bytes =
      (Reader.demand (decide (size ≤ byteAt bytes 12 / 16 * 4)) .tcpDataOffset >>= next)
        (bytes.drop 13) ∧ (next ()).Draws 7 := by
  have left : ∀ count, (bytes.drop count).length = bytes.length - count := by
    intro count
    rw [List.length_drop]
  obtain ⟨_, first⟩ := Reader.draws_word16.enough bytes (by omega)
  obtain ⟨_, second⟩ := Reader.draws_word16.enough (bytes.drop 2) (by rw [left]; omega)
  obtain ⟨_, third⟩ := Reader.draws_word32.enough (bytes.drop 4) (by rw [left]; omega)
  obtain ⟨_, fourth⟩ := Reader.draws_word32.enough (bytes.drop 8) (by rw [left]; omega)
  rw [List.drop_drop] at second third fourth
  have offset : byteAt bytes 12 = bytes[12].toNat := by
    rw [byteAt, List.getD_eq_getElem?_getD, List.getElem?_eq_getElem inside, Option.getD_some]
  refine ⟨?_, ?_, ?_⟩
  rotate_left
  · rw [reader, Reader.bind_of_ok _ first, Reader.bind_of_ok _ second, Reader.bind_of_ok _ third,
      Reader.bind_of_ok _ fourth, List.drop_eq_getElem_cons inside, Reader.byte_bind, offset]
  · exact Reader.draws_byte.bind fun _ => Reader.draws_word16.bind fun _ =>
      Reader.draws_word16.bind fun _ => Reader.draws_word16.bind fun _ => Reader.draws_pure _

theorem TcpHeader.needs_reader : reader.Needs 13 :=
  Reader.draws_word16.needs fun _ => Reader.draws_word16.needs fun _ =>
    Reader.draws_word32.needs fun _ => Reader.draws_word32.needs fun _ =>
    Reader.draws_byte.needs fun _ => Reader.needs_none _

theorem TcpHeader.decode_verdict (bytes : Bytes) :
    (decode bytes).map Prod.snd = verdict bytes := by
  have minimum : size = 20 := rfl
  have left : (bytes.drop 13).length = bytes.length - 13 := List.length_drop
  simp only [verdict]
  by_cases few : bytes.length < 13
  · rw [decode, needs_reader bytes few, if_pos few]
    rfl
  · have inside : 12 < bytes.length := by omega
    obtain ⟨next, run, draws⟩ := reader_of_inside inside
    rw [if_neg few]
    by_cases atLeast : size ≤ byteAt bytes 12 / 16 * 4
    · rw [if_neg (by omega)]
      rw [decide_eq_true atLeast, Reader.demand_true_bind] at run
      by_cases cut : bytes.length < 20
      · rw [decode, run, draws.short _ (by omega), if_pos (.inl cut)]
        rfl
      · obtain ⟨header, ran⟩ := draws.enough (bytes.drop 13) (by omega)
        rw [ran] at run
        simp only [decode, run, headerLength_of_reader run, cut, false_or]
        split <;> rfl
    · rw [decide_eq_false atLeast, Reader.demand_false_bind] at run
      rw [decode, run, if_pos (by omega)]
      rfl

/-! ### Datagrams -/

theorem UdpHeader.draws_reader : reader.Draws size :=
  Reader.draws_word16.bind fun _ => Reader.draws_word16.bind fun _ =>
    Reader.draws_word16.bind fun _ => Reader.draws_word16.bind fun _ => Reader.draws_pure _

theorem UdpHeader.length_of_reader {bytes rest : Bytes} {header : UdpHeader}
    (run : reader bytes = .ok (header, rest)) : header.length.toNat = wordAt bytes 4 := by
  obtain ⟨_, _, _, _, _, _, _, _, rfl, rfl⟩ := exists_of_reader run
  exact Bytes.toNat_word16 ..

theorem UdpHeader.decode_verdict (bytes : Bytes) :
    (decode bytes).map Prod.snd = verdict bytes := by
  have eight : size = 8 := rfl
  simp only [verdict]
  by_cases few : bytes.length < 8
  · rw [decode, draws_reader.short bytes few, if_pos few]
    rfl
  · obtain ⟨header, run⟩ := draws_reader.enough bytes (Nat.not_lt.mp few)
    rw [if_neg few]
    simp only [decode, run, length_of_reader run, eight]
    split <;> rfl

/-! ## At an offset -/

/-- Reading at an offset is reading the suffix.  The offset stays where that fails, and an
offset is bad just if it lies beyond the end. -/
structure ReadsSuffix {Header : Type} (decode : Bytes → Except WireError (Header × Nat))
    (bytes : Bytes) (offset : Nat) : Prop where
  inside : offset ≤ bytes.length →
    (∀ header length, decode (bytes.drop offset) = .ok (header, length) →
      readNext decode bytes offset = (.ok header, offset + length)) ∧
    ∀ error, decode (bytes.drop offset) = .error error →
      readNext decode bytes offset = (.error error, offset)
  stays : ∀ error, (readNext decode bytes offset).1 = .error error →
    (readNext decode bytes offset).2 = offset
  bad : ∀ place, (readNext decode bytes offset).1 = .error (.badOffset place) ↔
    place = offset ∧ bytes.length < offset

theorem readsSuffix_of_verdict {Header : Type} {decode : Bytes → Except WireError (Header × Nat)}
    {verdict : Bytes → Except WireError Nat}
    (same : ∀ bytes, (decode bytes).map Prod.snd = verdict bytes)
    (never : ∀ bytes place, verdict bytes ≠ .error (.badOffset place)) (bytes : Bytes)
    (offset : Nat) : ReadsSuffix decode bytes offset where
  inside within := by
    constructor
    · intro header length decoded
      exact readNext_of_ok (readAt_of_ok within decoded)
    · intro error failed
      exact readNext_of_error (readAt_of_error within failed)
  stays := by
    intro error failed
    cases read : readAt decode bytes offset with
    | ok found =>
        rw [readNext_of_ok read] at failed
        cases failed
    | error _ => rw [readNext_of_error read]
  bad := by
    intro place
    by_cases beyond : bytes.length < offset
    · rw [readNext_of_error (readAt_of_beyond beyond)]
      constructor
      · rintro ⟨⟩
        exact ⟨rfl, beyond⟩
      · rintro ⟨rfl, _⟩
        rfl
    · refine iff_of_false ?_ fun both => beyond both.2
      have verdict := same (bytes.drop offset)
      intro refused
      cases decoded : decode (bytes.drop offset) with
      | ok found =>
          rw [readNext_of_ok (readAt_of_ok (Nat.not_lt.mp beyond) decoded)] at refused
          cases refused
      | error error =>
          rw [readNext_of_error (readAt_of_error (Nat.not_lt.mp beyond) decoded)] at refused
          cases refused
          rw [decoded] at verdict
          exact never _ place verdict.symm

theorem Ipv4Header.verdict_ne_badOffset (bytes : Bytes) (place : Nat) :
    verdict bytes ≠ .error (.badOffset place) := by
  rw [verdict]
  grind

theorem TcpHeader.verdict_ne_badOffset (bytes : Bytes) (place : Nat) :
    verdict bytes ≠ .error (.badOffset place) := by
  rw [verdict]
  grind

theorem UdpHeader.verdict_ne_badOffset (bytes : Bytes) (place : Nat) :
    verdict bytes ≠ .error (.badOffset place) := by
  rw [verdict]
  grind

/-- Each decoder with checks gives its verdict on all bytes, wherever they begin. -/
theorem decoders_give_their_verdicts (bytes : Bytes) (offset : Nat) :
    (Ipv4Header.decode bytes).map Prod.snd = Ipv4Header.verdict bytes ∧
    (TcpHeader.decode bytes).map Prod.snd = TcpHeader.verdict bytes ∧
    (UdpHeader.decode bytes).map Prod.snd = UdpHeader.verdict bytes ∧
    ReadsSuffix Ipv4Header.decode bytes offset ∧ ReadsSuffix TcpHeader.decode bytes offset ∧
    ReadsSuffix UdpHeader.decode bytes offset :=
  ⟨Ipv4Header.decode_verdict bytes, TcpHeader.decode_verdict bytes,
    UdpHeader.decode_verdict bytes,
    readsSuffix_of_verdict Ipv4Header.decode_verdict Ipv4Header.verdict_ne_badOffset bytes offset,
    readsSuffix_of_verdict TcpHeader.decode_verdict TcpHeader.verdict_ne_badOffset bytes offset,
    readsSuffix_of_verdict UdpHeader.decode_verdict UdpHeader.verdict_ne_badOffset bytes offset⟩

end Masquerade.Packet
