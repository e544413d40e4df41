import Masquerade.Proofs.Session.OutsideToGuest
import Masquerade.Proofs.Stream.Forwarding

/-!
# From the guest to the outside

What the kernel takes for a stream is what the guest sent, byte for byte from the
place after its first mark.  A segment counts only if it starts in the expected
place, and that place moves by what was taken, so that nothing is passed on twice,
left out or exchanged; every segment to the guest acknowledges just that much.
-/

set_option autoImplicit false

namespace Masquerade

open Packet (segmentIn)

def Happening.taken (happening : Happening) : Bytes := happening.calls.flatMap Call.taken

def Happening.acceptsFin (happening : Happening) : Bool :=
  match happening with
  | .opened _ _ _ _ => false
  | .turned cause _ before _ => cause.acceptsFin before happening.taken

theorem Happening.acceptsFin_turned {cause : Stream.Cause} {now : Nat} {before : Stream}
    {start : Kernel} {calls : List Call}
    (called : Happening.calls (.turned cause now before start) = calls) :
    Happening.acceptsFin (.turned cause now before start) =
      cause.acceptsFin before (calls.flatMap Call.taken) := by
  rw [acceptsFin, taken, called]

/-- The place of a byte that was taken: it came in a segment that was expected just
where it started, and stands in it as far from the start as it stands from the first
byte that was taken in the turn. -/
structure CameFrom (request : Segment) (happenings : List Happening) (place : Nat) (byte : UInt8)
    (segment : Segment) (before : Stream) (index : Nat) : Prop where
  turn : ∃ now kernel, .turned (.segment segment) now before kernel ∈ happenings ∧
    (Happening.taken (.turned (.segment segment) now before kernel))[index]? = some byte ∧
    (kernel.takenOn before.socket).length + index = place
  expected : segment.header.sequence = before.guestNext
  byte : segment.payload[index]? = some byte
  sequence : segment.header.sequence + UInt32.ofNat index =
    request.header.sequence + 1 + UInt32.ofNat place

theorem CameFrom.later {request : Segment} {happenings : List Happening} {place index : Nat}
    {byte : UInt8} {segment : Segment} {before : Stream}
    (origin : CameFrom request happenings place byte segment before index) (new : List Happening) :
    CameFrom request (happenings ++ new) place byte segment before index := by
  obtain ⟨⟨now, kernel, member, there⟩, expected, byte, sequence⟩ := origin
  exact ⟨⟨now, kernel, List.mem_append_left _ member, there⟩, expected, byte, sequence⟩

/-- What the kernel has taken of a stream, and what is expected next of the guest, after
some happenings and with a kernel in which nothing was called since. -/
structure GuestForwarded (request : Segment) (happenings : List Happening) (stream : Stream)
    (kernel : Kernel) : Prop where
  next : stream.guestNext = request.header.sequence + 1 +
    UInt32.ofNat (kernel.takenOn stream.socket).length +
    UInt32.ofNat (happenings.countP Happening.acceptsFin)
  inPlace : ∀ place byte, (kernel.takenOn stream.socket)[place]? = some byte →
    ∃ segment before index, CameFrom request happenings place byte segment before index
  endLast : (kernel.callsOn stream.socket).Pairwise fun earlier later =>
    earlier.isShutdown = true → later.isSend = false

def SendsConnected (past : List Happening) (last : Happening) : Prop :=
  ∀ call ∈ last.calls, call.isSend = true → ∃ earlier ∈ past, earlier.stream.phase = .connected

/-! ## Turn after turn -/

structure Forwarded (request : Segment) (happenings : List Happening) (calls : List Call)
    (stream : Stream) : Prop where
  next : stream.guestNext = request.header.sequence + 1 +
    UInt32.ofNat (calls.flatMap Call.taken).length +
    UInt32.ofNat (happenings.countP Happening.acceptsFin)
  inPlace : ∀ place byte, (calls.flatMap Call.taken)[place]? = some byte →
    ∃ segment before index, CameFrom request happenings place byte segment before index
  endLast : calls.Pairwise fun earlier later => earlier.isShutdown = true → later.isSend = false
  unended : stream.phase ≠ .bothClosed → happenings.countP Happening.acceptsFin = 0 ∧
    ∀ call ∈ calls, call.isShutdown = false
  connected : stream.IsSending → ∃ earlier ∈ happenings, earlier.stream.phase = .connected

namespace Forwarded

variable {request : Segment} {past : List Happening} {earlier calls : List Call}
  {cause : Stream.Cause} {now : Nat} {before after : Stream} {kernel : Kernel}

theorem sending_ne {stream : Stream} (sending : stream.IsSending) : stream.phase ≠ .bothClosed := by
  rcases sending with phase | phase <;> simp [phase]

theorem next_of_sending (forwarded : Forwarded request past earlier before)
    (sending : before.IsSending) : before.guestNext = request.header.sequence + 1 +
      UInt32.ofNat (earlier.flatMap Call.taken).length := by
  rw [forwarded.next, (forwarded.unended (sending_ne sending)).1]
  simp

/-- The first bytes of a segment in the expected place go behind all that was taken. -/
theorem inPlace_append {segment : Segment} {count : Nat}
    (forwarded : Forwarded request past earlier before) (sending : before.IsSending)
    (expected : segment.header.sequence = before.guestNext)
    (known : kernel.callsOn before.socket = earlier)
    (taken : Happening.taken (.turned (.segment segment) now before kernel) =
      segment.payload.take count) :
    ∀ place byte, (earlier.flatMap Call.taken ++ segment.payload.take count)[place]? = some byte →
      ∃ origin stream index, CameFrom request
        (past ++ [.turned (.segment segment) now before kernel]) place byte origin stream index := by
  intro place byte found
  rw [List.getElem?_append] at found
  split at found
  · obtain ⟨origin, stream, index, old⟩ := forwarded.inPlace place byte found
    exact ⟨origin, stream, index, old.later _⟩
  · rename_i beyond
    have sum : (earlier.flatMap Call.taken).length +
        (place - (earlier.flatMap Call.taken).length) = place := by omega
    have length : (kernel.takenOn before.socket).length = (earlier.flatMap Call.taken).length := by
      rw [Kernel.takenOn, known]
    refine ⟨segment, before, place - (earlier.flatMap Call.taken).length, ?_, expected, ?_, ?_⟩
    · refine ⟨now, kernel, List.mem_append_right _ (List.mem_singleton_self _), ?_, ?_⟩
      · rw [taken]
        exact found
      · rw [length]
        exact sum
    · rw [List.getElem?_take] at found
      split at found
      · exact found
      · cases found
    · rw [expected, forwarded.next_of_sending sending, UInt32.add_assoc, ← UInt32.ofNat_add, sum]

theorem inPlace_later (forwarded : Forwarded request past earlier before)
    (untaken : calls.flatMap Call.taken = []) (new : List Happening) :
    ∀ place byte, ((earlier ++ calls).flatMap Call.taken)[place]? = some byte →
      ∃ origin stream index, CameFrom request (past ++ new) place byte origin stream index := by
  intro place byte found
  rw [List.flatMap_append, untaken, List.append_nil] at found
  obtain ⟨origin, stream, index, old⟩ := forwarded.inPlace place byte found
  exact ⟨origin, stream, index, old.later new⟩

theorem unshut_append (unshut : ∀ call ∈ earlier, call.isShutdown = false)
    (noShutdown : ∀ call ∈ calls, call.isShutdown = false) :
    ∀ call ∈ earlier ++ calls, call.isShutdown = false := by
  intro call member
  rcases List.mem_append.mp member with old | new
  · exact unshut call old
  · exact noShutdown call new

theorem connected_later (forwarded : Forwarded request past earlier before)
    (sending : before.IsSending) (new : List Happening) :
    ∃ happening ∈ past ++ new, happening.stream.phase = .connected := by
  obtain ⟨happening, member, phase⟩ := forwarded.connected sending
  exact ⟨happening, List.mem_append_left _ member, phase⟩

theorem endLast_append (forwarded : Forwarded request past earlier before)
    (ordered : calls.Pairwise fun earlier later => earlier.isShutdown = true → later.isSend = false)
    (sending : ∀ call ∈ calls, call.isSend = true → before.IsSending) :
    (earlier ++ calls).Pairwise fun earlier later =>
      earlier.isShutdown = true → later.isSend = false := by
  refine List.pairwise_append.mpr ⟨forwarded.endLast, ordered, ?_⟩
  intro old member call fresh shut
  cases send : call.isSend with
  | false => rfl
  | true =>
      have unshut := (forwarded.unended (sending_ne (sending call fresh send))).2 old member
      rw [unshut] at shut
      cases shut

theorem turn (forwarded : Forwarded request past earlier before)
    (made : Happening.calls (.turned cause now before kernel) = calls)
    (known : kernel.callsOn before.socket = earlier) (forwards : before.Forwards cause calls after)
    (left : Happening.stream (.turned cause now before kernel) = after) :
    Forwarded request (past ++ [Happening.turned cause now before kernel]) (earlier ++ calls) after := by
  have taken : Happening.taken (.turned cause now before kernel) = calls.flatMap Call.taken := by
    rw [Happening.taken, made]
  have count : (past ++ [Happening.turned cause now before kernel]).countP Happening.acceptsFin =
      past.countP Happening.acceptsFin +
        (cause.acceptsFin before (calls.flatMap Call.taken)).toNat := by
    rw [List.countP_append, ← taken]
    cases fin : cause.acceptsFin before (Happening.taken (.turned cause now before kernel)) <;>
      simp [Happening.acceptsFin, fin]
  -- The expected place moves only where bytes are taken or the last mark is accepted.
  cases forwards with
  | nothing untaken noShutdown sending next connected closed noFin =>
      rw [untaken, noFin] at count
      constructor
      · rw [List.flatMap_append, untaken, List.append_nil, next, count]
        exact forwarded.next
      · exact forwarded.inPlace_later untaken _
      · refine forwarded.endLast_append ?_ sending
        refine List.pairwise_of_forall_mem_list fun call member _ _ shut => ?_
        rw [noShutdown call member] at shut
        cases shut
      · intro unclosed
        obtain ⟨none, unshut⟩ := forwarded.unended (closed unclosed)
        exact ⟨by rw [count, none]; rfl, unshut_append unshut noShutdown⟩
      · intro sends
        rcases connected sends with still | fresh
        · exact forwarded.connected_later still _
        · exact ⟨_, List.mem_append_right _ (List.mem_singleton_self _), left ▸ fresh⟩
  | @took segment amount after place sending fits next phase noFin =>
      have only : [Call.send before.socket segment.payload (.ok amount)].flatMap Call.taken =
          segment.payload.take amount := List.flatMap_singleton ..
      obtain ⟨none, unshut⟩ := forwarded.unended (sending_ne sending)
      rw [only] at taken count
      rw [noFin, none] at count
      constructor
      · rw [List.flatMap_append, only, next, count, forwarded.next_of_sending sending,
          List.length_append, List.length_take, Nat.min_eq_left fits, UInt32.ofNat_add]
        simp [UInt32.add_assoc]
      · rw [List.flatMap_append, only]
        exact forwarded.inPlace_append sending place known taken
      · exact forwarded.endLast_append (List.pairwise_singleton ..) fun _ _ _ => sending
      · exact fun _ => ⟨count, unshut_append unshut (by simp [Call.isShutdown])⟩
      · exact fun _ => forwarded.connected_later sending _
  | @tookAll segment result after place sending next phase fin =>
      have only : [Call.send before.socket segment.payload (.ok segment.payload.length),
          .shutdown before.socket result].flatMap Call.taken =
          segment.payload.take segment.payload.length := by simp [Call.taken]
      have none := (forwarded.unended (sending_ne sending)).1
      rw [only] at taken count
      rw [List.take_length, fin, none] at count
      constructor
      · rw [List.flatMap_append, only, next, count, forwarded.next_of_sending sending,
          List.length_append, List.take_length, UInt32.ofNat_add]
        simp [UInt32.add_assoc]
      · rw [List.flatMap_append, only]
        exact forwarded.inPlace_append sending place known taken
      · refine forwarded.endLast_append ?_ fun _ _ _ => sending
        simp [Call.isSend, Call.isShutdown]
      · exact fun unclosed => absurd phase unclosed
      · intro sends
        exact absurd phase (sending_ne sends)
  | @ended segment result after next phase fin =>
      have only : [Call.shutdown before.socket result].flatMap Call.taken = [] := rfl
      rw [only] at taken count
      rw [fin] at count
      constructor
      · rw [List.flatMap_append, only, List.append_nil, next, count, forwarded.next,
          UInt32.ofNat_add, ← UInt32.add_assoc]
        rfl
      · exact forwarded.inPlace_later only _
      · refine forwarded.endLast_append (List.pairwise_singleton ..) fun call member send => ?_
        rw [List.mem_singleton.mp member] at send
        cases send
      · exact fun unclosed => absurd phase unclosed
      · intro sends
        exact absurd phase (sending_ne sends)

theorem opened {first : Stream} {start finish : Kernel}
    (opening : first = Stream.opening first.owner first.guestMac first.flow first.socket
      request first.outsideNext) (untaken : calls.flatMap Call.taken = [])
    (unshut : ∀ call ∈ calls, call.isShutdown = false) :
    Forwarded request [.opened request first start finish] calls first := by
  have next : first.guestNext = request.header.sequence + 1 := congrArg Stream.guestNext opening
  have phase : first.phase = .connecting := congrArg Stream.phase opening
  have none : [Happening.opened request first start finish].countP Happening.acceptsFin = 0 := rfl
  constructor
  · rw [untaken, none, next]
    simp
  · rw [untaken]
    simp
  · refine List.pairwise_of_forall_mem_list fun call member _ _ shut => ?_
    rw [unshut call member] at shut
    cases shut
  · exact fun _ => ⟨none, unshut⟩
  · intro sending
    rcases sending with connected | closed
    · rw [phase] at connected
      cases connected
    · rw [phase] at closed
      cases closed

end Forwarded

namespace Life

variable {request : Segment} {first : Stream} {past : List Happening} {last : Happening}

theorem forwarded (life : Life request first past last) :
    Forwarded request (past ++ [last]) (last.finish.callsOn last.socket) last.stream := by
  induction life with
  | @opened start finish result opens opening unused made =>
      have begun : Forwarded request [.opened request first start finish]
          (finish.callsOn first.socket) first := by
        rw [callsOn_opened unused made]
        exact Forwarded.opened opening rfl (by simp [Call.isShutdown])
      exact begun
  | @turned past last start life goesOn undisturbed cause now ih =>
      obtain ⟨calls, _, move, called, reached⟩ :=
        Happening.turned_calls cause now last.stream start
      have known : start.callsOn last.stream.socket = last.finish.callsOn last.socket := undisturbed
      rw [reached, known]
      exact ih.turn called known move.forwards rfl

theorem guestForwarded (life : Life request first past last) {kernel : Kernel}
    (undisturbed : kernel.callsOn last.socket = last.finish.callsOn last.socket) :
    GuestForwarded request (past ++ [last]) last.stream kernel := by
  have forwarded := life.forwarded
  have known : kernel.callsOn last.stream.socket = last.finish.callsOn last.socket := undisturbed
  have taken : kernel.takenOn last.stream.socket =
      (last.finish.callsOn last.socket).flatMap Call.taken := congrArg (List.flatMap Call.taken) known
  constructor
  · rw [taken]
    exact forwarded.next
  · rw [taken]
    exact forwarded.inPlace
  · rw [known]
    exact forwarded.endLast

theorem sendsConnected (life : Life request first past last) : SendsConnected past last := by
  cases life with
  | @opened start finish result opens opening unused made =>
      have calls : Happening.calls (.opened request first start finish) = _ := made.callsSince_eq
      intro call member send
      rw [calls] at member
      simp only [List.mem_cons, List.not_mem_nil, or_false] at member
      rcases member with rfl | rfl <;> cases send
  | @turned past last start life goesOn undisturbed cause now =>
      obtain ⟨calls, made, move⟩ := last.stream.turn_move now start cause
      have same : Happening.calls (.turned cause now last.stream start) = calls := made.callsSince_eq
      intro call member send
      rw [same] at member
      exact life.forwarded.connected (move.forwards.sending call member send)

end Life

namespace Session

/-- Whatever happens in a session, the kernel takes what the guest sent, each byte in its
place and none before the stream is connected or after its end was passed on; and every
segment to the guest acknowledges just what was taken.  This holds after each happening
of a stream, and at the end for each stream in the table.  The mailbox gets just what
happenings send. -/
theorem taken_bytes_come_from_guest {start : World} (new : start.IsNew)
    (operations : List Operation) :
    (∀ before happening future, history start operations = before ++ happening :: future →
      ∃ request first,
        BeginsWith request first (episode (before ++ [happening]) happening.socket) ∧
        GuestForwarded request (episode (before ++ [happening]) happening.socket) happening.stream
          happening.finish ∧
        SendsConnected (episode before happening.socket) happening ∧
        ∀ frame ∈ happening.frames, ∃ segment,
          segmentIn frame = some (happening.stream.flow.reversed, segment) ∧
          segment.has .ack = true ∧
          segment.header.acknowledgment = happening.stream.guestNext) ∧
    (∀ row ∈ (after start operations).gateway.streams.rows, ∃ request first,
        BeginsWith request first (episode (history start operations) row.2.socket) ∧
        GuestForwarded request (episode (history start operations) row.2.socket) row.2
          (after start operations).kernel) ∧
    (after start operations).QueuesAsItHappens := by
  refine ⟨?_, ?_, (sound_after new operations).queuesAsItHappens⟩
  · intro before happening future split
    obtain ⟨request, first, life⟩ := life_of_split new split
    rw [episode_append, episode_singleton_self]
    refine ⟨request, first, life.beginsWith, life.guestForwarded rfl, life.sendsConnected, ?_⟩
    intro frame member
    obtain ⟨segment, sent, read⟩ := life.frames_read.exists_of_mem member
    exact ⟨segment, read, life.frames_read.acknowledges segment sent⟩
  · intro row member
    obtain ⟨request, first, past, last, life, whole, left, undisturbed⟩ := life_of_row new member
    rw [whole, ← left]
    exact ⟨request, first, life.beginsWith, life.guestForwarded undisturbed⟩

theorem conversation_is_forwarded :
    conversed.IsNew ∧ (after conversed conversation).kernel.takenOn 0 = [104, 105] ∧
      ∃ row ∈ (after conversed conversation).gateway.streams.rows, row.2.socket = 0 ∧
        ∃ request first,
          BeginsWith request first (episode (history conversed conversation) row.2.socket) ∧
          GuestForwarded request (episode (history conversed conversation) row.2.socket) row.2
            (after conversed conversation).kernel := by
  have new : conversed.IsNew := World.plain_isNew none
  have taken : (after conversed conversation).kernel.takenOn 0 = [104, 105] := by decide +kernel
  have there : ∃ row ∈ (after conversed conversation).gateway.streams.rows, row.2.socket = 0 := by
    decide +kernel
  obtain ⟨row, member, socket⟩ := there
  have forwarded := (taken_bytes_come_from_guest new conversation).2.1 row member
  exact ⟨new, taken, row, member, socket, forwarded⟩

end Session

end Masquerade
