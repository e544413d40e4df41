import Masquerade.Proofs.Packet.Pieces

/-!
# Payloads put back together

The pieces of a payload that fits a packet tell where they belong, so that whoever
receives them gets the payload back.  A longer payload is cut all the same as long as
each piece fits.  Thirteen bits do not reach its end, and the pieces beyond claim places
that others have.
-/

set_option autoImplicit false

namespace Masquerade.Packet

/-- The frames are packets under the headers of a whole one that have the payload in
them, at most `most` bytes each, where all but the last announce that more follows. -/
structure Carry (ethernet : EthernetHeader) (ip : Ipv4Header) (most : Nat) (payload : Bytes)
    (frames : List Bytes) (deliveries : List Delivery) : Prop where
  unpacked : frames.map Delivery.unpack = deliveries.map some
  ethernet : ∀ delivery ∈ deliveries, delivery.ethernet = ethernet
  ip : ∀ delivery ∈ deliveries, delivery.ip.IsPieceOf ip
  short : ∀ delivery ∈ deliveries, delivery.payload.length ≤ most
  moreFragments : ∀ front delivery back, deliveries = front ++ delivery :: back →
    delivery.ip.moreFragments = !back.isEmpty
  whole : deliveries.flatMap Delivery.payload = payload

section Cut

variable {ethernet : EthernetHeader} {ip : Ipv4Header} {most : Nat} {payload : Bytes}
  {frames : List Bytes} {deliveries : List Delivery}

theorem Conveys.carry (conveys : Conveys ethernet ip 0 (piecesOf most payload) deliveries)
    (unpacked : frames.map Delivery.unpack = deliveries.map some)
    (room : payload.length ≤ most ∨ 8 ≤ most) :
    Carry ethernet ip most payload frames deliveries where
  unpacked := unpacked
  ethernet := conveys.ethernet_of_mem
  ip := conveys.isPieceOf_of_mem
  short := fun _ => conveys.length_le_of_mem
  moreFragments := fun _ _ _ => conveys.moreFragments
  whole := conveys.whole.trans (flatten_piecesOf room)

theorem fragment_error_of_small (ethernet : EthernetHeader) (ip : Ipv4Header)
    (long : most < payload.length) (small : most < 8) :
    fragment ethernet ip payload most = .error (.refused .fragmentTooSmall) := by
  unfold fragment
  rw [if_neg (by omega)]
  exact if_pos (by omega)

/-! ## Payloads that fit a packet -/

/-- A payload that fits a packet is refused only where it would have to be cut into pieces
of less than eight bytes.  Otherwise its pieces are found in place and make it up again,
and a single piece is no fragment. -/
theorem fragments_make_up_payload (ethernet : EthernetHeader) (unbroken : ip.flagsFragment = 0)
    (fits : payload.length ≤ 65535) (limit : most ≤ 65515) :
    ((∃ error, fragment ethernet ip payload most = .error error) ↔
      most < payload.length ∧ most < 8) ∧
    ∀ frames, fragment ethernet ip payload most = .ok frames →
      ∃ deliveries, Carry ethernet ip most payload frames deliveries ∧
        FollowOn 0 deliveries ∧ (∀ delivery ∈ deliveries, delivery.ip.fragmentOffset % 8 = 0) ∧
        (payload.length ≤ most →
          ∃ delivery, deliveries = [delivery] ∧ delivery.ip.isFragment = false) := by
  have header : Ipv4Header.size = 20 := rfl
  by_cases refused : most < payload.length ∧ most < 8
  · have error := fragment_error_of_small ethernet ip refused.1 refused.2
    refine ⟨iff_of_true ⟨_, error⟩ refused, fun frames built => ?_⟩
    rw [error] at built
    cases built
  · have room : payload.length ≤ most ∨ 8 ≤ most := by omega
    have fit : ∀ piece ∈ piecesOf most payload, Ipv4Header.size + piece.length ≤ 65535 := by
      intro piece member
      have short := length_le_of_mem_piecesOf member
      omega
    obtain ⟨frames, deliveries, built, unpacked, conveys⟩ :=
      fragment_conveys ethernet (fun _ => unbroken) room fit
    rw [built]
    refine ⟨iff_of_false (fun ⟨error, other⟩ => by cases other) refused, ?_⟩
    rintro _ ⟨⟩
    refine ⟨deliveries, conveys.carry unpacked room, conveys.followOn room fits, ?_, ?_⟩
    · intro delivery _
      exact Nat.mul_mod_left ..
    · intro single
      obtain ⟨delivery, rfl⟩ := conveys.eq_singleton single
      have place := conveys.fragmentOffset (List.nil_append [delivery]).symm
      have last := conveys.moreFragments (List.nil_append [delivery]).symm
      refine ⟨delivery, rfl, ?_⟩
      rw [Ipv4Header.isFragment, place, last]
      rfl

def pieceEthernet : EthernetHeader :=
  ⟨⟨2, 0, 0, 0, 0, 1⟩, ⟨2, 0, 0, 0, 0, 2⟩, EthernetHeader.ipv4⟩

def pieceHeader : Ipv4Header :=
  .between (.ofOctets 1 2 3 4) (.ofOctets 10 0 0 1) Transport.udp.protocol 9 64

def twentyBytes : Bytes := List.replicate 20 7

theorem twenty_bytes_make_up_payload :
    pieceHeader.flagsFragment = 0 ∧ twentyBytes.length ≤ 65535 ∧
      ∃ frames deliveries, fragment pieceEthernet pieceHeader twentyBytes 9 = .ok frames ∧
        Carry pieceEthernet pieceHeader 9 twentyBytes frames deliveries ∧
        FollowOn 0 deliveries := by
  have unbroken : pieceHeader.flagsFragment = 0 := rfl
  have fits : twentyBytes.length ≤ 65535 := by decide
  have limit : 9 ≤ 65515 := by decide
  have put := fragments_make_up_payload pieceEthernet unbroken fits limit
  cases built : fragment pieceEthernet pieceHeader twentyBytes 9 with
  | error error => exact absurd (put.1.mp ⟨error, built⟩).2 (by decide)
  | ok frames =>
      obtain ⟨deliveries, carry, inPlace, _⟩ := put.2 frames built
      exact ⟨unbroken, fits, frames, deliveries, rfl, carry, inPlace⟩

/-! ## Payloads that do not -/

theorem Conveys.length_before_last
    (conveys : Conveys ethernet ip 0 (piecesOf most payload) deliveries)
    (long : most < payload.length) (room : 8 ≤ most) {front : List Delivery} {delivery : Delivery}
    (split : deliveries = front ++ [delivery]) :
    (front.flatMap Delivery.payload).length =
      (payload.length - 1) / (most / 8 * 8) * (most / 8 * 8) := by
  have before := conveys.length_before split
  have whole := congrArg List.length (conveys.whole.trans (flatten_piecesOf (.inr room)))
  rw [split, List.flatMap_append, List.length_append, before, List.flatMap_singleton] at whole
  have member : delivery.payload ∈ chunks (most / 8 * 8) payload := by
    rw [← piecesOf_of_long long, ← conveys.payloads, split]
    simp
  have some := List.length_pos_iff.mpr (ne_nil_of_mem_chunks member)
  have short := length_le_of_mem_chunks member
  have last : payload.length - 1 =
      delivery.payload.length - 1 + front.length * (most / 8 * 8) := by omega
  have inside : (delivery.payload.length - 1) / (most / 8 * 8) = 0 := Nat.div_eq_of_lt (by omega)
  rw [before, last, Nat.add_mul_div_right _ _ (by omega), inside, Nat.zero_add]

theorem Conveys.followOn_iff_of_long
    (conveys : Conveys ethernet ip 0 (piecesOf most payload) deliveries)
    (long : most < payload.length) (room : 8 ≤ most) :
    FollowOn 0 deliveries ↔
      (payload.length - 1) / (most / 8 * 8) * (most / 8 * 8) < 65536 := by
  have nonempty := conveys.ne_nil (.inr room)
  have final : deliveries = deliveries.dropLast ++ [deliveries.getLast nonempty] :=
    (List.dropLast_concat_getLast nonempty).symm
  rw [conveys.followOn_iff]
  constructor
  · intro within
    rw [← conveys.length_before_last long room final]
    exact within _ _ [] final
  · intro reached front delivery back split
    have count := congrArg List.length split
    rw [final, List.length_append, List.length_append, List.length_singleton,
      List.length_cons] at count
    rw [← conveys.length_before_last long room final, conveys.length_before final] at reached
    rw [conveys.length_before split]
    exact Nat.lt_of_le_of_lt (Nat.mul_le_mul_right _ (by omega)) reached

theorem fragment_error_of_large (ethernet : EthernetHeader) (ip : Ipv4Header)
    (long : 65535 < payload.length) (large : 65520 ≤ most) :
    ∃ error, fragment ethernet ip payload most = .error error := by
  have header : Ipv4Header.size = 20 := rfl
  by_cases single : payload.length ≤ most
  · unfold fragment
    rw [if_pos single, ipv4Frame_error ethernet ip (by omega)]
    exact ⟨_, rfl⟩
  · rw [fragment_eq_placedFrames ethernet (absurd · single) (.inr (by omega)),
      piecesOf_of_long (Nat.lt_of_not_le single)]
    obtain ⟨first, rest, rfl⟩ := List.exists_cons_of_length_pos (l := payload) (by omega)
    have piece : (first :: rest).take (most / 8 * 8) ∈ chunks (most / 8 * 8) (first :: rest) := by
      rw [chunks, if_neg (by omega)]
      exact List.mem_cons_self
    refine placedFrames_error ethernet ip piece ?_ 0
    rw [List.length_take]
    omega

theorem fragment_conveys_of_long (ethernet : EthernetHeader) (ip : Ipv4Header)
    (long : 65535 < payload.length) (room : 8 ≤ most) (small : most < 65520) :
    ∃ frames deliveries, fragment ethernet ip payload most = .ok frames ∧
      frames.map Delivery.unpack = deliveries.map some ∧
      Conveys ethernet ip 0 (piecesOf most payload) deliveries := by
  have header : Ipv4Header.size = 20 := rfl
  have unbroken : payload.length ≤ most → ip.flagsFragment = 0 := fun single => by omega
  have fit : ∀ piece ∈ piecesOf most payload, Ipv4Header.size + piece.length ≤ 65535 := by
    intro piece member
    rw [piecesOf_of_long (by omega)] at member
    have short := length_le_of_mem_chunks member
    omega
  exact fragment_conveys ethernet unbroken (.inr room) fit

/-- A payload that is too long for a packet is refused only where its pieces would be of
less than eight bytes or too long for a packet themselves.  Otherwise it is cut, each
offset is what the bytes in front of the piece leave of it in sixteen bits, and the
payload is found in place just if its last piece begins within them. -/
theorem offsets_of_long_payloads_wrap (ethernet : EthernetHeader) (ip : Ipv4Header)
    (long : 65535 < payload.length) (most : Nat) :
    ((∃ error, fragment ethernet ip payload most = .error error) ↔ most < 8 ∨ 65520 ≤ most) ∧
    ∀ frames, fragment ethernet ip payload most = .ok frames →
      ∃ deliveries, Carry ethernet ip most payload frames deliveries ∧
        (∀ front delivery back, deliveries = front ++ delivery :: back →
          delivery.ip.fragmentOffset = (front.flatMap Delivery.payload).length % 65536) ∧
        (FollowOn 0 deliveries ↔
          (payload.length - 1) / (most / 8 * 8) * (most / 8 * 8) < 65536) := by
  by_cases refused : most < 8 ∨ 65520 ≤ most
  · have error : ∃ error, fragment ethernet ip payload most = .error error := by
      rcases refused with small | large
      · exact ⟨_, fragment_error_of_small ethernet ip (by omega) small⟩
      · exact fragment_error_of_large ethernet ip long large
    refine ⟨iff_of_true error refused, fun frames built => ?_⟩
    obtain ⟨error, other⟩ := error
    rw [other] at built
    cases built
  · have room : 8 ≤ most := by omega
    obtain ⟨frames, deliveries, built, unpacked, conveys⟩ :=
      fragment_conveys_of_long ethernet ip long room (by omega)
    rw [built]
    refine ⟨iff_of_false (fun ⟨error, other⟩ => by cases other) refused, ?_⟩
    rintro _ ⟨⟩
    exact ⟨deliveries, conveys.carry unpacked (.inr room), fun _ _ _ => conveys.fragmentOffset,
      conveys.followOn_iff_of_long (by omega) room⟩

end Cut

def longPayload : Bytes := List.replicate 65537 7

theorem long_payload_is_cut :
    65535 < longPayload.length ∧
      ∃ frames deliveries, fragment pieceEthernet pieceHeader longPayload 1480 = .ok frames ∧
        Carry pieceEthernet pieceHeader 1480 longPayload frames deliveries ∧
        FollowOn 0 deliveries := by
  have length : longPayload.length = 65537 := List.length_replicate
  have long : 65535 < longPayload.length := by omega
  have put := offsets_of_long_payloads_wrap pieceEthernet pieceHeader long 1480
  cases built : fragment pieceEthernet pieceHeader longPayload 1480 with
  | error error => exact absurd (put.1.mp ⟨error, built⟩) (by decide)
  | ok frames =>
      obtain ⟨deliveries, carry, _, reached⟩ := put.2 frames built
      exact ⟨long, frames, deliveries, rfl, carry, reached.mpr (by rw [length]; decide)⟩

/-- The third piece claims the place of the first. -/
theorem last_of_long_payload_claims_front :
    65535 < longPayload.length ∧
      ∃ frames front last, fragment pieceEthernet pieceHeader longPayload 32768 = .ok frames ∧
        frames.map Delivery.unpack = (front ++ [last]).map some ∧
        (front.flatMap Delivery.payload).length = 65536 ∧ last.ip.fragmentOffset = 0 := by
  have length : longPayload.length = 65537 := List.length_replicate
  have long : 65535 < longPayload.length := by omega
  have room : 8 ≤ 32768 := by decide
  have small : 32768 < 65520 := by decide
  obtain ⟨frames, deliveries, built, unpacked, conveys⟩ :=
    fragment_conveys_of_long pieceEthernet pieceHeader long room small
  have nonempty : deliveries ≠ [] := conveys.ne_nil (.inr room)
  have final : deliveries = deliveries.dropLast ++ [deliveries.getLast nonempty] :=
    (List.dropLast_concat_getLast nonempty).symm
  have before : (deliveries.dropLast.flatMap Delivery.payload).length = 65536 := by
    rw [conveys.length_before_last (by omega) room final, length]
  refine ⟨long, frames, deliveries.dropLast, deliveries.getLast nonempty, built, ?_, before, ?_⟩
  · rw [← final]
    exact unpacked
  · rw [conveys.fragmentOffset final, before]

end Masquerade.Packet
