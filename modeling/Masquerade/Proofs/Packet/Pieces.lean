import Masquerade.Packet.Fragment
import Masquerade.Proofs.Packet.Reading

/-!
# Payloads in pieces

A payload that is cut into pieces comes back when the pieces are put one behind the
other.  Each fragment tells where its piece belongs, which is just behind the pieces
before it, and all but the last tell that more follows.
-/

set_option autoImplicit false

namespace Masquerade.Packet

/-! ## Headers of fragments -/

def Ipv4Header.IsPieceOf (piece whole : Ipv4Header) : Prop :=
  piece = { whole with
    totalLength := piece.totalLength
    flagsFragment := piece.flagsFragment
    checksum := piece.checksum }

def Ipv4Header.placedAt (header : Ipv4Header) (offset : Nat) (more : Bool) : Ipv4Header :=
  { header with flagsFragment := fragmentField offset more }

section Placed

variable (header : Ipv4Header) {offset : Nat} (more : Bool) (payload : Bytes) (sum : UInt16)

theorem Ipv4Header.toNat_fragmentField (offset : Nat) :
    (fragmentField offset more).toNat = offset / 8 % 8192 + if more then 8192 else 0 := by
  unfold fragmentField
  rw [UInt16.toNat_ofNat']
  split <;> omega

theorem Ipv4Header.fragmentOffset_placedAt (aligned : offset % 8 = 0) :
    ((header.placedAt offset more).sized payload sum).fragmentOffset = offset % 65536 := by
  unfold fragmentOffset
  rw [sized_flagsFragment, placedAt, toNat_fragmentField]
  split <;> omega

theorem Ipv4Header.moreFragments_placedAt :
    ((header.placedAt offset more).sized payload sum).moreFragments = more := by
  have inside : offset / 8 % 8192 < 8192 := Nat.mod_lt _ (by decide)
  unfold moreFragments
  rw [sized_flagsFragment, placedAt, toNat_fragmentField]
  cases more with
  | false => simp [Nat.div_eq_of_lt inside]
  | true => simp

end Placed

/-! ## Fragments as they are received -/

/-- Each delivery belongs just behind the ones before it, the first one at `offset`, and
all but the last announce that more follows. -/
def FollowOn : Nat → List Delivery → Prop
  | _, [] => True
  | offset, delivery :: rest =>
    delivery.ip.fragmentOffset = offset ∧ delivery.ip.moreFragments = !rest.isEmpty ∧
      FollowOn (offset + delivery.payload.length) rest

theorem followOn_iff {offset : Nat} {deliveries : List Delivery} :
    FollowOn offset deliveries ↔
      ∀ front delivery back, deliveries = front ++ delivery :: back →
        delivery.ip.fragmentOffset = offset + (front.flatMap Delivery.payload).length ∧
          delivery.ip.moreFragments = !back.isEmpty := by
  induction deliveries generalizing offset with
  | nil =>
      refine iff_of_true trivial fun front delivery back same => ?_
      cases List.append_ne_nil_of_right_ne_nil front (List.cons_ne_nil delivery back) same.symm
  | cons first rest ih =>
      rw [FollowOn, ih]
      constructor
      · rintro ⟨place, more, later⟩ front delivery back same
        cases front with
        | nil =>
            cases same
            exact ⟨place, more⟩
        | cons other front =>
            obtain ⟨rfl, others⟩ := List.cons.inj same
            obtain ⟨behind, announced⟩ := later front delivery back others
            rw [List.flatMap_cons, List.length_append, ← Nat.add_assoc]
            exact ⟨behind, announced⟩
      · intro each
        refine ⟨(each [] first rest rfl).1, (each [] first rest rfl).2, ?_⟩
        intro front delivery back same
        have found := each (first :: front) delivery back (congrArg (first :: ·) same)
        rw [List.flatMap_cons, List.length_append, ← Nat.add_assoc] at found
        exact found

structure Fragments (ethernet : EthernetHeader) (ip : Ipv4Header) (most offset : Nat)
    (payload : Bytes) (frames : List Bytes) (deliveries : List Delivery) : Prop where
  read : frames.map Delivery.read = deliveries.map some
  ethernet : ∀ delivery ∈ deliveries, delivery.ethernet = ethernet
  ip : ∀ delivery ∈ deliveries, delivery.ip.IsPieceOf ip
  short : ∀ delivery ∈ deliveries, delivery.payload.length ≤ most
  followOn : FollowOn offset deliveries
  whole : deliveries.flatMap Delivery.payload = payload

/-! ## Cutting -/

theorem flatten_chunks {size : Nat} (positive : 0 < size) (bytes : Bytes) :
    (chunks size bytes).flatten = bytes := by
  fun_induction chunks size bytes with
  | case1 => rfl
  | case2 first rest zero => omega
  | case3 first rest _ ih => rw [List.flatten_cons, ih, List.take_append_drop]

theorem length_le_of_mem_chunks {size : Nat} {bytes piece : Bytes}
    (member : piece ∈ chunks size bytes) : piece.length ≤ size := by
  fun_induction chunks size bytes with
  | case1 => cases member
  | case2 => cases member
  | case3 first rest _ ih =>
      rcases List.mem_cons.mp member with rfl | later
      · exact List.length_take_le ..
      · exact ih later

theorem ne_nil_of_mem_chunks {size : Nat} {bytes piece : Bytes}
    (member : piece ∈ chunks size bytes) : piece ≠ [] := by
  fun_induction chunks size bytes with
  | case1 => cases member
  | case2 => cases member
  | case3 first rest positive ih =>
      rcases List.mem_cons.mp member with rfl | later
      · rw [ne_eq, List.take_eq_nil_iff]
        rintro (zero | none)
        · exact positive zero
        · cases none
      · exact ih later

theorem length_flatten_of_chunks {size : Nat} {bytes piece : Bytes} {front back : List Bytes}
    (cut : chunks size bytes = front ++ piece :: back) :
    front.flatten.length = front.length * size := by
  fun_induction chunks size bytes generalizing front with
  | case1 => simp at cut
  | case2 => simp at cut
  | case3 first rest _ ih =>
      cases front with
      | nil => simp
      | cons other front =>
          obtain ⟨same, cut⟩ := List.cons.inj cut
          have left : ¬ (first :: rest).length ≤ size := by
            intro short
            rw [List.drop_of_length_le short, chunks] at cut
            simp at cut
          rw [List.flatten_cons, List.length_append, ih cut, ← same, List.length_take,
            Nat.min_eq_left (by omega), List.length_cons, Nat.succ_mul, Nat.add_comm]

/-! ## Pieces on their way -/

/-- The deliveries that the pieces of a packet make, the first of which belongs at
`offset`. -/
inductive Conveys (ethernet : EthernetHeader) (ip : Ipv4Header) :
    Nat → List Bytes → List Delivery → Prop
  | nil {offset : Nat} : Conveys ethernet ip offset [] []
  | cons {offset : Nat} {piece : Bytes} {rest : List Bytes} {deliveries : List Delivery}
      (sum : UInt16) (later : Conveys ethernet ip (offset + piece.length) rest deliveries) :
      Conveys ethernet ip offset (piece :: rest)
        (⟨ethernet, (ip.placedAt offset (!rest.isEmpty)).sized piece sum, piece⟩ :: deliveries)

namespace Conveys

variable {ethernet : EthernetHeader} {ip : Ipv4Header} {offset : Nat} {pieces : List Bytes}
  {deliveries : List Delivery}

theorem payloads (conveys : Conveys ethernet ip offset pieces deliveries) :
    deliveries.map Delivery.payload = pieces := by
  induction conveys with
  | nil => rfl
  | cons sum later ih => rw [List.map_cons, ih]

theorem placed (conveys : Conveys ethernet ip offset pieces deliveries)
    {front back : List Delivery} {delivery : Delivery}
    (split : deliveries = front ++ delivery :: back) :
    delivery.ethernet = ethernet ∧
      ∃ sum, delivery.ip =
        (ip.placedAt (offset + (front.flatMap Delivery.payload).length) (!back.isEmpty)).sized
          delivery.payload sum := by
  induction conveys generalizing front with
  | nil => cases List.append_ne_nil_of_right_ne_nil front (List.cons_ne_nil delivery back) split.symm
  | cons sum later ih =>
      cases front with
      | nil =>
          cases split
          have none : back.isEmpty = (back.map Delivery.payload).isEmpty := by simp
          exact ⟨rfl, sum, by rw [none, later.payloads]; rfl⟩
      | cons other front =>
          obtain ⟨rfl, others⟩ := List.cons.inj split
          rw [List.flatMap_cons, List.length_append, ← Nat.add_assoc]
          exact ih others

theorem ethernet_of_mem (conveys : Conveys ethernet ip offset pieces deliveries) :
    ∀ delivery ∈ deliveries, delivery.ethernet = ethernet := by
  intro delivery member
  obtain ⟨front, back, split⟩ := List.mem_iff_append.mp member
  exact (conveys.placed split).1

theorem isPieceOf_of_mem (conveys : Conveys ethernet ip offset pieces deliveries) :
    ∀ delivery ∈ deliveries, delivery.ip.IsPieceOf ip := by
  intro delivery member
  obtain ⟨front, back, split⟩ := List.mem_iff_append.mp member
  obtain ⟨_, sum, header⟩ := conveys.placed split
  rw [header]
  rfl

theorem whole (conveys : Conveys ethernet ip offset pieces deliveries) :
    deliveries.flatMap Delivery.payload = pieces.flatten := by
  rw [← conveys.payloads, List.flatMap]

theorem moreFragments (conveys : Conveys ethernet ip offset pieces deliveries)
    {front back : List Delivery} {delivery : Delivery}
    (split : deliveries = front ++ delivery :: back) :
    delivery.ip.moreFragments = !back.isEmpty := by
  obtain ⟨_, sum, header⟩ := conveys.placed split
  rw [header]
  exact Ipv4Header.moreFragments_placedAt ..

end Conveys

/-- One frame for each piece, where the first piece belongs at `offset` and each other one
just behind the ones before it. -/
def placedFrames (ethernet : EthernetHeader) (ip : Ipv4Header) (offset : Nat) :
    List Bytes → Except WireError (List Bytes)
  | [] => .ok []
  | piece :: rest =>
    match ipv4Frame ethernet (ip.placedAt offset (!rest.isEmpty)) piece with
    | .error error => .error error
    | .ok frame =>
      match placedFrames ethernet ip (offset + piece.length) rest with
      | .error error => .error error
      | .ok frames => .ok (frame :: frames)

/-- What a piece says of itself by its index is what it says by the pieces around it. -/
theorem pieceFrames_chunks (ethernet : EthernetHeader) (ip : Ipv4Header) {size count : Nat}
    (bytes : Bytes) : ∀ index, index + (chunks size bytes).length = count →
      pieceFrames ethernet ip size count index (chunks size bytes) =
        placedFrames ethernet ip (index * size) (chunks size bytes) := by
  fun_induction chunks size bytes with
  | case1 => exact fun index last => rfl
  | case2 => exact fun index last => rfl
  | case3 first rest positive ih =>
      intro index last
      rw [List.length_cons] at last
      have more : decide (index + 1 < count) =
          !(chunks size ((first :: rest).drop size)).isEmpty := by
        rw [Bool.eq_iff_iff, decide_eq_true_eq, Bool.not_eq_true', List.isEmpty_eq_false_iff,
          ← List.length_pos_iff]
        omega
      have later := ih (index + 1) (by omega)
      have next : placedFrames ethernet ip ((index + 1) * size)
            (chunks size ((first :: rest).drop size)) =
          placedFrames ethernet ip (index * size + ((first :: rest).take size).length)
            (chunks size ((first :: rest).drop size)) := by
        by_cases short : (first :: rest).length ≤ size
        · rw [List.drop_of_length_le short, chunks]
          rfl
        · rw [List.length_take, Nat.min_eq_left (by omega), Nat.succ_mul]
      rw [pieceFrames, later, next, more]
      rfl

theorem length_chunks {size : Nat} (positive : 0 < size) (bytes : Bytes) :
    (chunks size bytes).length = (bytes.length + size - 1) / size := by
  fun_induction chunks size bytes with
  | case1 =>
      rw [List.length_nil, List.length_nil, Nat.zero_add, Nat.div_eq_of_lt (by omega)]
  | case2 first rest zero => omega
  | case3 first rest _ ih =>
      rw [List.length_cons, ih, List.length_drop, ← Nat.add_div_right _ positive]
      by_cases short : (first :: rest).length ≤ size
      · have none : (first :: rest).length - size = 0 := by omega
        rw [none, Nat.zero_add]
        rw [List.length_cons] at short ⊢
        rw [Nat.div_eq_of_lt_le (k := 1) (by omega) (by omega),
          Nat.div_eq_of_lt_le (k := 1) (by omega) (by omega)]
      · congr 1
        omega

theorem placedFrames_ok (ethernet : EthernetHeader) (ip : Ipv4Header) {pieces : List Bytes}
    (fit : ∀ piece ∈ pieces, Ipv4Header.size + piece.length ≤ 65535) (offset : Nat) :
    ∃ frames deliveries, placedFrames ethernet ip offset pieces = .ok frames ∧
      frames.map Delivery.unpack = deliveries.map some ∧
      Conveys ethernet ip offset pieces deliveries := by
  induction pieces generalizing offset with
  | nil => exact ⟨[], [], rfl, rfl, .nil⟩
  | cons piece rest ih =>
      obtain ⟨small, others⟩ := List.forall_mem_cons.mp fit
      obtain ⟨frames, deliveries, built, unpacked, conveys⟩ := ih others (offset + piece.length)
      obtain ⟨frame, sum, framed, first⟩ :=
        unpack_ipv4Frame ethernet (ip.placedAt offset (!rest.isEmpty)) small
      refine ⟨frame :: frames, _, ?_, ?_, .cons sum conveys⟩
      · rw [placedFrames, framed]
        dsimp only
        rw [built]
      · rw [List.map_cons, List.map_cons, first, unpacked]

theorem placedFrames_error (ethernet : EthernetHeader) (ip : Ipv4Header) {pieces : List Bytes}
    {piece : Bytes} (member : piece ∈ pieces) (long : 65535 < Ipv4Header.size + piece.length)
    (offset : Nat) :
    ∃ error, placedFrames ethernet ip offset pieces = .error error := by
  induction pieces generalizing offset with
  | nil => cases member
  | cons first rest ih =>
      unfold placedFrames
      rcases List.mem_cons.mp member with rfl | later
      · rw [ipv4Frame_error ethernet _ long]
        exact ⟨_, rfl⟩
      · obtain ⟨error, refused⟩ := ih later (offset + first.length)
        rw [refused]
        split
        · exact ⟨_, rfl⟩
        · exact ⟨_, rfl⟩

/-! ## Payloads on their way -/

/-- The pieces in which a payload travels: itself where it fits, and otherwise stretches of
the largest multiple of eight. -/
def piecesOf (most : Nat) (payload : Bytes) : List Bytes :=
  if payload.length ≤ most then [payload] else chunks (most / 8 * 8) payload

section Pieces

variable {most : Nat} {payload : Bytes}

theorem piecesOf_of_long (long : most < payload.length) :
    piecesOf most payload = chunks (most / 8 * 8) payload :=
  if_neg (Nat.not_le.mpr long)

theorem flatten_piecesOf (room : payload.length ≤ most ∨ 8 ≤ most) :
    (piecesOf most payload).flatten = payload := by
  unfold piecesOf
  split
  · exact List.flatten_singleton
  · exact flatten_chunks (by omega) payload

theorem piecesOf_ne_nil (room : payload.length ≤ most ∨ 8 ≤ most) : piecesOf most payload ≠ [] := by
  intro none
  have whole := flatten_piecesOf room
  rw [none, List.flatten_nil] at whole
  subst whole
  have single : ([] : Bytes).length ≤ most := Nat.zero_le most
  rw [piecesOf, if_pos single] at none
  cases none

theorem length_le_of_mem_piecesOf {piece : Bytes} (member : piece ∈ piecesOf most payload) :
    piece.length ≤ most := by
  unfold piecesOf at member
  split at member
  · rename_i single
    rw [List.mem_singleton.mp member]
    exact single
  · exact Nat.le_trans (length_le_of_mem_chunks member) (Nat.div_mul_le_self most 8)

theorem length_flatten_of_piecesOf {piece : Bytes} {front back : List Bytes}
    (cut : piecesOf most payload = front ++ piece :: back) :
    front.flatten.length = front.length * (most / 8 * 8) := by
  unfold piecesOf at cut
  split at cut
  · have none : front = [] := by
      cases front with
      | nil => rfl
      | cons => simp at cut
    rw [none]
    simp
  · exact length_flatten_of_chunks cut

end Pieces

theorem Ipv4Header.placedAt_zero {ip : Ipv4Header} (unbroken : ip.flagsFragment = 0) :
    ip.placedAt 0 false = ip := by
  have zero : fragmentField 0 false = ip.flagsFragment := unbroken.symm
  unfold placedAt
  rw [zero]

theorem fragment_eq_placedFrames (ethernet : EthernetHeader) {ip : Ipv4Header} {payload : Bytes}
    {most : Nat} (unbroken : payload.length ≤ most → ip.flagsFragment = 0)
    (room : payload.length ≤ most ∨ 8 ≤ most) :
    fragment ethernet ip payload most = placedFrames ethernet ip 0 (piecesOf most payload) := by
  unfold fragment piecesOf
  by_cases single : payload.length ≤ most
  · have alone := Ipv4Header.placedAt_zero (unbroken single)
    rw [if_pos single, if_pos single]
    cases built : ipv4Frame ethernet ip payload with
    | error | ok => simp [placedFrames, alone, built]
  · have positive : most / 8 * 8 ≠ 0 := by omega
    have pieces := pieceFrames_chunks ethernet ip payload 0
      ((Nat.zero_add _).trans (length_chunks (Nat.pos_of_ne_zero positive) payload))
    rw [Nat.zero_mul] at pieces
    rw [if_neg single, if_neg single, ← pieces]
    exact if_neg positive

section Conveyed

variable {ethernet : EthernetHeader} {ip : Ipv4Header} {most : Nat} {payload : Bytes}
  {deliveries front back : List Delivery} {delivery : Delivery}

theorem Conveys.length_le_of_mem
    (conveys : Conveys ethernet ip 0 (piecesOf most payload) deliveries)
    (member : delivery ∈ deliveries) : delivery.payload.length ≤ most := by
  have piece : delivery.payload ∈ piecesOf most payload := by
    rw [← conveys.payloads]
    exact List.mem_map_of_mem member
  exact length_le_of_mem_piecesOf piece

theorem Conveys.ne_nil (conveys : Conveys ethernet ip 0 (piecesOf most payload) deliveries)
    (room : payload.length ≤ most ∨ 8 ≤ most) : deliveries ≠ [] := by
  rintro rfl
  exact piecesOf_ne_nil room conveys.payloads.symm

theorem Conveys.eq_singleton
    (conveys : Conveys ethernet ip 0 (piecesOf most payload) deliveries)
    (single : payload.length ≤ most) : ∃ delivery, deliveries = [delivery] := by
  have alone := conveys.payloads
  rw [piecesOf, if_pos single] at alone
  obtain ⟨delivery, same, _⟩ := List.map_eq_singleton_iff.mp alone
  exact ⟨delivery, same⟩

theorem Conveys.length_before
    (conveys : Conveys ethernet ip 0 (piecesOf most payload) deliveries)
    (split : deliveries = front ++ delivery :: back) :
    (front.flatMap Delivery.payload).length = front.length * (most / 8 * 8) := by
  have cut := conveys.payloads.symm
  rw [split, List.map_append, List.map_cons] at cut
  rw [List.flatMap, length_flatten_of_piecesOf cut, List.length_map]

theorem Conveys.fragmentOffset
    (conveys : Conveys ethernet ip 0 (piecesOf most payload) deliveries)
    (split : deliveries = front ++ delivery :: back) :
    delivery.ip.fragmentOffset = (front.flatMap Delivery.payload).length % 65536 := by
  have aligned : (front.flatMap Delivery.payload).length % 8 = 0 := by
    rw [conveys.length_before split, ← Nat.mul_assoc]
    exact Nat.mul_mod_left ..
  obtain ⟨_, sum, header⟩ := conveys.placed split
  rw [Nat.zero_add] at header
  rw [header]
  exact Ipv4Header.fragmentOffset_placedAt ip _ _ sum aligned

/-- The pieces are found in place as long as each begins within the reach of the offset. -/
theorem Conveys.followOn_iff
    (conveys : Conveys ethernet ip 0 (piecesOf most payload) deliveries) :
    FollowOn 0 deliveries ↔
      ∀ front delivery back, deliveries = front ++ delivery :: back →
        (front.flatMap Delivery.payload).length < 65536 := by
  rw [Packet.followOn_iff]
  constructor
  · intro inPlace front delivery back split
    have place := (inPlace front delivery back split).1
    rw [conveys.fragmentOffset split] at place
    omega
  · intro within front delivery back split
    refine ⟨?_, conveys.moreFragments split⟩
    rw [conveys.fragmentOffset split, Nat.zero_add]
    exact Nat.mod_eq_of_lt (within front delivery back split)

theorem Conveys.followOn (conveys : Conveys ethernet ip 0 (piecesOf most payload) deliveries)
    (room : payload.length ≤ most ∨ 8 ≤ most) (fits : payload.length ≤ 65535) :
    FollowOn 0 deliveries := by
  refine conveys.followOn_iff.mpr fun front delivery back split => ?_
  have whole := conveys.whole
  rw [flatten_piecesOf room, split, List.flatMap_append] at whole
  have length := congrArg List.length whole
  rw [List.length_append] at length
  omega

end Conveyed

theorem fragment_conveys (ethernet : EthernetHeader) {ip : Ipv4Header} {payload : Bytes}
    {most : Nat} (unbroken : payload.length ≤ most → ip.flagsFragment = 0)
    (room : payload.length ≤ most ∨ 8 ≤ most)
    (fit : ∀ piece ∈ piecesOf most payload, Ipv4Header.size + piece.length ≤ 65535) :
    ∃ frames deliveries, fragment ethernet ip payload most = .ok frames ∧
      frames.map Delivery.unpack = deliveries.map some ∧
      Conveys ethernet ip 0 (piecesOf most payload) deliveries := by
  rw [fragment_eq_placedFrames ethernet unbroken room]
  exact placedFrames_ok ethernet ip fit 0

theorem fragment_ok {ethernet : EthernetHeader} (ip : Ipv4Header) {payload : Bytes} {most : Nat}
    (carries : ethernet.etherType = EthernetHeader.ipv4) (unbroken : ip.flagsFragment = 0)
    (room : payload.length ≤ most ∨ 8 ≤ most) (limit : most ≤ 65515)
    (fits : payload.length ≤ 65535) :
    ∃ frames deliveries, fragment ethernet ip payload most = .ok frames ∧
      Fragments ethernet ip most 0 payload frames deliveries ∧ deliveries ≠ [] := by
  have header : Ipv4Header.size = 20 := rfl
  have fit : ∀ piece ∈ piecesOf most payload, Ipv4Header.size + piece.length ≤ 65535 := by
    intro piece member
    have short := length_le_of_mem_piecesOf member
    omega
  obtain ⟨frames, deliveries, built, unpacked, conveys⟩ :=
    fragment_conveys ethernet (fun _ => unbroken) room fit
  exact ⟨frames, deliveries, built,
      { read := Delivery.map_read_of_unpack unpacked fun delivery member => by
          rw [conveys.ethernet_of_mem delivery member]
          exact carries
        ethernet := conveys.ethernet_of_mem
        ip := conveys.isPieceOf_of_mem
        short := fun _ => conveys.length_le_of_mem
        followOn := conveys.followOn room fits
        whole := conveys.whole.trans (flatten_piecesOf room) },
    conveys.ne_nil room⟩

end Masquerade.Packet
