import Masquerade.Proofs.Gateway.LastUse
import Masquerade.Proofs.Gateway.Opened

/-!
# Numbers of replies

Each mapping numbers the datagrams that come to its socket from zero on, those that do not
fit a reply included.  It knows nothing of the numbers of other mappings, and no two mappings
ever have the same socket.
-/

set_option autoImplicit false

namespace Masquerade

/-- A datagram that came to a mapping of a flow, which stands here as it was then. -/
structure MappedReply where
  flow : Flow
  mapping : Mapping
  payload : Bytes
  deriving DecidableEq, Repr

def MappedReply.posts (reply : MappedReply) : List (NicId × Bytes) :=
  reply.mapping.posts reply.flow reply.payload

def repliesOf (rows : List (Flow × Mapping)) (calls : List Call) : List MappedReply :=
  rows.flatMap fun row => (datagramsOn calls row.2.socket).map (⟨row.1, row.2, ·⟩)

def repliesTo (socket : SocketId) (replies : List MappedReply) : Nat :=
  replies.countP fun reply => decide (reply.mapping.socket = socket)

/-- The next number of the mapping is that of the replies that came to its socket.  These
came to this mapping, and as that of the same flow. -/
structure Mapping.Counts (flow : Flow) (mapping : Mapping) (replies : List MappedReply) :
    Prop where
  number : mapping.identification = UInt16.ofNat (repliesTo mapping.socket replies)
  same : ∀ reply ∈ replies, reply.mapping.socket = mapping.socket →
    reply.flow = flow ∧ reply.mapping.Continues mapping

/-- Each of the replies has the number of those before it that came to the same socket. -/
inductive InSequence : List MappedReply → Prop
  | nil : InSequence []
  | snoc {replies : List MappedReply} {reply : MappedReply} (before : InSequence replies)
      (counts : reply.mapping.Counts reply.flow replies) : InSequence (replies ++ [reply])

section Replies

variable {rows : List (Flow × Mapping)} {calls : List Call} {replies taken : List MappedReply}

theorem repliesTo_append (socket : SocketId) (replies taken : List MappedReply) :
    repliesTo socket (replies ++ taken) = repliesTo socket replies + repliesTo socket taken :=
  List.countP_append

theorem repliesTo_of_away {socket : SocketId}
    (away : ∀ reply ∈ replies, reply.mapping.socket ≠ socket) : repliesTo socket replies = 0 :=
  List.countP_eq_zero.mpr fun reply member same => away reply member (of_decide_eq_true same)

theorem repliesTo_map (socket : SocketId) (row : Flow × Mapping) (payloads : List Bytes) :
    repliesTo socket (payloads.map (⟨row.1, row.2, ·⟩)) =
      if row.2.socket = socket then payloads.length else 0 := by
  rw [repliesTo, List.countP_map]
  split
  · rename_i own
    exact List.countP_eq_length.mpr fun payload _ => decide_eq_true own
  · rename_i away
    exact List.countP_eq_zero.mpr fun payload _ own => away (of_decide_eq_true own)

theorem mem_repliesOf {reply : MappedReply} (member : reply ∈ repliesOf rows calls) :
    ∃ row ∈ rows, reply.flow = row.1 ∧ reply.mapping = row.2 := by
  obtain ⟨row, there, came⟩ := List.mem_flatMap.mp member
  obtain ⟨payload, _, rfl⟩ := List.mem_map.mp came
  exact ⟨row, there, rfl, rfl⟩

theorem repliesTo_repliesOf (apart : (rows.map fun row => row.2.socket).Nodup)
    {row : Flow × Mapping} (member : row ∈ rows) :
    repliesTo row.2.socket (repliesOf rows calls) = (datagramsOn calls row.2.socket).length := by
  induction rows with
  | nil => cases member
  | cons first rest ih =>
      rw [List.map_cons, List.nodup_cons] at apart
      obtain ⟨alone, apart⟩ := apart
      rw [repliesOf, List.flatMap_cons, repliesTo_append, repliesTo_map, ← repliesOf]
      rcases List.mem_cons.mp member with rfl | later
      · have away : ∀ reply ∈ repliesOf rest calls, reply.mapping.socket ≠ row.2.socket := by
          intro reply came same
          obtain ⟨other, there, _, its⟩ := mem_repliesOf came
          exact alone (List.mem_map.mpr ⟨other, there, by rw [← its, same]⟩)
        rw [if_pos rfl, repliesTo_of_away away, Nat.add_zero]
      · have away : first.2.socket ≠ row.2.socket := fun same =>
          alone (List.mem_map.mpr ⟨row, later, same.symm⟩)
        rw [if_neg away, ih apart later, Nat.zero_add]

theorem nodup_repliesOf (apart : (rows.map fun row => row.2.socket).Nodup)
    (once : ∀ row ∈ rows, (datagramsOn calls row.2.socket).length ≤ 1) :
    ((repliesOf rows calls).map fun reply => reply.mapping.socket).Nodup := by
  refine List.Sublist.nodup ?_ apart
  clear apart
  induction rows with
  | nil => exact List.Sublist.refl _
  | cons row rest ih =>
      have others := ih fun other member => once other (List.mem_cons_of_mem _ member)
      have single := once row (List.mem_cons_self ..)
      have own : (((datagramsOn calls row.2.socket).map fun payload =>
          (⟨row.1, row.2, payload⟩ : MappedReply)).map fun reply => reply.mapping.socket).Sublist
            [row.2.socket] := by
        cases taken : datagramsOn calls row.2.socket with
        | nil => exact List.nil_sublist _
        | cons payload more =>
            rw [taken, List.length_cons] at single
            rw [List.eq_nil_of_length_eq_zero (by omega : more.length = 0)]
            exact List.Sublist.refl _
      rw [repliesOf, List.flatMap_cons, List.map_append, List.map_cons]
      exact own.append others

theorem Mapping.Counts.append {flow : Flow} {mapping : Mapping}
    (counts : mapping.Counts flow replies)
    (away : ∀ reply ∈ taken, reply.mapping.socket ≠ mapping.socket) :
    mapping.Counts flow (replies ++ taken) := by
  constructor
  · rw [repliesTo_append, repliesTo_of_away away, Nat.add_zero]
    exact counts.number
  · intro reply member same
    rcases List.mem_append.mp member with before | came
    · exact counts.same reply before same
    · exact absurd same (away reply came)

namespace InSequence

theorem append (before : InSequence replies)
    (apart : (taken.map fun reply => reply.mapping.socket).Nodup)
    (count : ∀ reply ∈ taken, reply.mapping.Counts reply.flow replies) :
    InSequence (replies ++ taken) := by
  induction taken generalizing replies with
  | nil => rwa [List.append_nil]
  | cons reply rest ih =>
      rw [List.map_cons, List.nodup_cons] at apart
      obtain ⟨alone, apart⟩ := apart
      have next := before.snoc (count reply (List.mem_cons_self ..))
      rw [List.append_cons]
      refine ih next apart fun other member => ?_
      refine (count other (List.mem_cons_of_mem _ member)).append fun same here clash => ?_
      rw [List.mem_singleton.mp here] at clash
      exact alone (List.mem_map.mpr ⟨other, member, clash.symm⟩)

theorem number_of_mem (sequence : InSequence replies) {reply : MappedReply}
    (member : reply ∈ replies) : ∃ earlier < repliesTo reply.mapping.socket replies,
      reply.mapping.identification = UInt16.ofNat earlier := by
  induction sequence with
  | nil => cases member
  | @snoc replies last before counts ih =>
      rw [repliesTo_append]
      rcases List.mem_append.mp member with inside | final
      · obtain ⟨earlier, fewer, number⟩ := ih inside
        exact ⟨earlier, Nat.lt_add_right _ fewer, number⟩
      · obtain rfl := List.mem_singleton.mp final
        refine ⟨_, ?_, counts.number⟩
        have one : repliesTo reply.mapping.socket [reply] = 1 :=
          List.countP_eq_length.mpr (by simp)
        rw [one]
        exact Nat.lt_succ_self _

/-- Fewer than 65536 replies of one mapping have different numbers. -/
theorem pairwise (sequence : InSequence replies) (few : replies.length < 65536) :
    replies.Pairwise fun first second =>
      first.mapping.socket = second.mapping.socket →
        first.mapping.identification ≠ second.mapping.identification := by
  induction sequence with
  | nil => exact List.Pairwise.nil
  | @snoc replies last before counts ih =>
      rw [List.length_append] at few
      refine List.pairwise_append.mpr ⟨ih (by omega), List.pairwise_singleton .., ?_⟩
      intro first member second final same clash
      obtain rfl := List.mem_singleton.mp final
      obtain ⟨earlier, fewer, number⟩ := before.number_of_mem member
      have most : repliesTo second.mapping.socket replies ≤ replies.length := List.countP_le_length
      rw [number, counts.number] at clash
      rw [same] at fewer
      have equal := congrArg UInt16.toNat clash
      rw [UInt16.toNat_ofNat_of_lt' (by rw [UInt16.size]; omega),
        UInt16.toNat_ofNat_of_lt' (by rw [UInt16.size]; omega)] at equal
      omega

end InSequence

end Replies

namespace World

variable {world : World} {seen : List MappedReply}

def repliesTaken (world : World) : List MappedReply :=
  repliesOf world.gateway.mappings.rows (world.poll.kernel.callsSince world.kernel)

structure HasCounted (world : World) (seen : List MappedReply) : Prop where
  given : ∀ reply ∈ seen, reply.mapping.socket < world.kernel.sockets.length
  rows : ∀ row ∈ world.gateway.mappings.rows, row.2.Counts row.1 seen

/-- The replies of a round go behind those that came before. -/
theorem poll_inSequence (sound : world.Sound) (counted : world.HasCounted seen)
    (sequence : InSequence seen) : InSequence (seen ++ world.repliesTaken) := by
  obtain ⟨calls, leaves, served⟩ := poll_leaves sound
  unfold repliesTaken
  rw [leaves.makes.callsSince_eq]
  refine sequence.append
    (nodup_repliesOf sound.nodup_mappingSockets fun row member => (served row member).once) ?_
  intro reply member
  obtain ⟨row, there, flow, mapping⟩ := mem_repliesOf member
  rw [flow, mapping]
  exact counted.rows row there

theorem poll_hasCounted (sound : world.Sound) (counted : world.HasCounted seen) :
    world.poll.HasCounted (seen ++ world.repliesTaken) := by
  obtain ⟨calls, leaves, served⟩ := poll_leaves sound
  have soundPoll := sound.steps (steps_poll world)
  unfold repliesTaken
  rw [leaves.makes.callsSince_eq]
  refine ⟨fun reply member => ?_, fun ⟨flow, still⟩ member => ?_⟩
  · refine Nat.lt_of_lt_of_le ?_ (Kernel.length_sockets_le leaves.makes)
    rcases List.mem_append.mp member with before | came
    · exact counted.given reply before
    · obtain ⟨row, there, _, mapping⟩ := mem_repliesOf came
      rw [mapping]
      exact sound.held.lt (mapping_mem_holders there)
  · have stays := FlowTable.get?_of_mem_rows soundPoll.mappings.distinct member
    obtain ⟨mapping, found, _⟩ := KeepsMappings.poll sound flow still stays
    have there := FlowTable.mem_rows_of_get? found
    have counts := counted.rows _ there
    obtain rfl := Option.some.inj ((served _ there).stays.symm.trans stays)
    constructor
    · rw [repliesTo_append, repliesTo_repliesOf sound.nodup_mappingSockets there, UInt16.ofNat_add,
        ← counts.number]
    · intro reply member same
      rcases List.mem_append.mp member with before | came
      · obtain ⟨flow, continues⟩ := counts.same reply before same
        exact ⟨flow, continues.trans rfl⟩
      · obtain ⟨row, here, flow, its⟩ := mem_repliesOf came
        rw [its] at same
        obtain rfl := List.inj_on_of_nodup_map sound.nodup_mappingSockets here there same
        rw [flow, its]
        exact ⟨rfl, rfl⟩

theorem transmit_numbers (sound : world.Sound) (positive : 0 < world.gateway.mappings.capacity)
    (sender : NicId) {frame : Bytes} {flow : Flow} {payload : Bytes}
    (carried : world.Carried frame flow payload)
    (absent : world.gateway.mappings.get? flow = none) :
    ∃ mapping, (world.transmit sender frame).gateway.mappings.get? flow = some mapping ∧
      mapping.identification = 0 ∧ world.kernel.sockets.length ≤ mapping.socket := by
  obtain ⟨mapping, others, picks, uses⟩ := transmit_uses sound positive sender carried
  have soundAfter := sound.steps (steps_transmit world sender frame)
  unfold Picks at picks
  rw [absent] at picks
  exact ⟨mapping, uses.found soundAfter, picks.1, picks.2.1⟩

theorem transmit_hasCounted (sound : world.Sound)
    (positive : 0 < world.gateway.mappings.capacity) (counted : world.HasCounted seen)
    (sender : NicId) (frame : Bytes) : (world.transmit sender frame).HasCounted seen := by
  obtain ⟨_, leaves⟩ := (steps_transmit world sender frame).makes
  have given : ∀ reply ∈ seen,
      reply.mapping.socket < (world.transmit sender frame).kernel.sockets.length :=
    fun reply member => Nat.lt_of_lt_of_le (counted.given reply member)
      (Kernel.length_sockets_le leaves)
  by_cases brings : ∃ flow payload, world.Carried frame flow payload
  · obtain ⟨flow, payload, carried⟩ := brings
    obtain ⟨mapping, others, picks, uses⟩ := transmit_uses sound positive sender carried
    refine ⟨given, fun row member => ?_⟩
    rw [uses.rows] at member
    rcases List.mem_cons.mp member with rfl | other
    · unfold Picks at picks
      cases mapped : world.gateway.mappings.get? flow with
      | some old =>
          rw [mapped] at picks
          rw [picks.1]
          exact counted.rows _ (FlowTable.mem_rows_of_get? mapped)
      | none =>
          rw [mapped] at picks
          obtain ⟨first, fresh, _⟩ := picks
          have away : ∀ reply ∈ seen, reply.mapping.socket ≠ mapping.socket :=
            fun reply member => Nat.ne_of_lt (Nat.lt_of_lt_of_le (counted.given reply member) fresh)
          refine ⟨?_, fun reply member same => absurd same (away reply member)⟩
          rw [first, repliesTo_of_away away]
          rfl
    · exact counted.rows row (uses.stay.mem other)
  · refine ⟨given, ?_⟩
    rw [(transmit_spares sound sender fun flow payload carried =>
      brings ⟨flow, payload, carried⟩).1]
    exact counted.rows

end World

end Masquerade
