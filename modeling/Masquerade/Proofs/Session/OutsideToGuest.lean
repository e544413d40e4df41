import Masquerade.Proofs.Gateway.Answers
import Masquerade.Proofs.Session.Life
import Masquerade.Proofs.Session.Ownership
import Masquerade.Proofs.Stream.Supplied

/-!
# From the outside to the guest

What the guest reads of a stream, put together by sequence numbers, is what was
received from the socket, byte for byte.  Each byte has its place from the first
time it is sent; what is sent again keeps its place; the last mark lies behind all
bytes and nothing follows it.
-/

set_option autoImplicit false

namespace Masquerade

open Packet (segmentIn)

def Happening.segments (happening : Happening) : List Segment := segmentsIn happening.frames

def Happening.received (happening : Happening) : Bytes := happening.calls.flatMap Call.received

def sentIn (happenings : List Happening) : List Segment := happenings.flatMap Happening.segments

theorem sentIn_concat (past : List Happening) (last : Happening) :
    sentIn (past ++ [last]) = sentIn past ++ last.segments := by
  simp [sentIn]

/-- What the guest reads of a stream is what was received for it, after some happenings
and with a kernel in which nothing was called since. -/
structure GuestSupplied (first : Stream) (happenings : List Happening) (stream : Stream)
    (kernel : Kernel) : Prop where
  startOnce : markCount .syn (sentIn happenings) ≤ 1
  endOnce : markCount .fin (sentIn happenings) ≤ 1
  next : stream.outsideNext = first.outsideNext + UInt32.ofNat (markCount .syn (sentIn happenings)) +
    UInt32.ofNat (kernel.receivedOn stream.socket).length +
    UInt32.ofNat (markCount .fin (sentIn happenings))
  inPlace : ∀ place byte, (kernel.receivedOn stream.socket)[place]? = some byte →
    ∃ segment ∈ sentIn happenings, ∃ index, segment.payload[index]? = some byte ∧
      segment.header.sequence + UInt32.ofNat index =
        first.outsideNext + UInt32.ofNat (markCount .syn (sentIn happenings)) + UInt32.ofNat place
  ending : ∀ segment ∈ sentIn happenings, segment.has .fin = true →
    segment.header.sequence =
      first.outsideNext + UInt32.ofNat (markCount .syn (sentIn happenings)) +
        UInt32.ofNat (kernel.receivedOn stream.socket).length
  endLast : (sentIn happenings).Pairwise fun earlier later =>
    earlier.has .fin = true → later.payload = []
  reassembled :
    reassemble (first.outsideNext + UInt32.ofNat (markCount .syn (sentIn happenings)))
      (sentIn happenings) = kernel.receivedOn stream.socket

/-- Bytes that a happening sends have just been received, and go where the next byte
belongs; or they were sent before, with the same sequence number. -/
def SendsInPlace (first : Stream) (past : List Happening) (last : Happening) : Prop :=
  ∀ segment ∈ last.segments, segment.payload ≠ [] →
    (last.received = segment.payload ∧ segment.header.sequence =
      first.outsideNext + UInt32.ofNat (markCount .syn (sentIn past)) +
        UInt32.ofNat (last.start.receivedOn last.socket).length) ∨
    (last.received = [] ∧ ∃ earlier ∈ sentIn past,
      earlier.header.sequence = segment.header.sequence ∧ earlier.payload = segment.payload)

namespace Life

variable {request : Segment} {first : Stream} {past : List Happening} {last : Happening}

theorem turned_supply {stream : Stream} (start : Kernel) (cause : Stream.Cause) (now : Nat)
    (fits : stream.unacknowledged.length ≤ Stream.mostRead) :
    let turned : Happening := .turned cause now stream start
    turned.stream.Shows turned.frames turned.segments ∧
      stream.Supply turned.received turned.segments turned.stream ∧
      turned.finish.receivedOn stream.socket = start.receivedOn stream.socket ++ turned.received := by
  intro turned
  obtain ⟨calls, made, move⟩ := stream.turn_move now start cause
  obtain ⟨segments, shown, supply⟩ := move.supply fits
  have sent : turned.segments = segments := shown.segmentsIn_eq
  have received : turned.received = calls.flatMap Call.received :=
    congrArg (List.flatMap Call.received) made.callsSince_eq
  rw [sent, received]
  exact ⟨shown, supply, made.receivedOn_of_about fun call member => (move.about_socket call member).1⟩

theorem supplied (life : Life request first past last) :
    let received := last.finish.receivedOn last.socket
    Stream.Counted first.outsideNext (sentIn (past ++ [last])) received last.stream ∧
      Stream.Buffered (sentIn (past ++ [last])) last.stream ∧
      Stream.Placed first.outsideNext (sentIn (past ++ [last])) received := by
  induction life with
  | @opened start finish result opens opening unused made =>
      have nothing : finish.receivedOn first.socket = [] := by
        rw [made.receivedOn_of_about (by simp [Call.socket?]), Kernel.receivedOn, unused]
        rfl
      have phase : first.phase = .connecting := congrArg Stream.phase opening
      have unsent : first.finSent = false := congrArg Stream.finSent opening
      have unkept : first.unacknowledged = [] := congrArg Stream.unacknowledged opening
      have begun := Stream.nothing_supplied phase unsent unkept
      rw [← nothing] at begun
      exact begun
  | @turned past last start life goesOn undisturbed cause now ih =>
      obtain ⟨counted, buffered, placed⟩ := ih
      obtain ⟨_, supply, received⟩ := turned_supply start cause now buffered.fits
      have before : start.receivedOn last.stream.socket = last.finish.receivedOn last.socket :=
        congrArg (List.flatMap Call.received) undisturbed
      dsimp only
      rw [sentIn_concat, Happening.socket_turned, received, before]
      exact ⟨counted.turn supply, buffered.turn supply, placed.turn counted buffered supply⟩

theorem guestSupplied (life : Life request first past last) {kernel : Kernel}
    (undisturbed : kernel.callsOn last.socket = last.finish.callsOn last.socket) :
    GuestSupplied first (past ++ [last]) last.stream kernel := by
  obtain ⟨counted, _, placed⟩ := life.supplied
  have received : kernel.receivedOn last.stream.socket = last.finish.receivedOn last.socket :=
    congrArg (List.flatMap Call.received) undisturbed
  have ends := counted.endOnce
  have atMost : last.stream.finSent.toNat ≤ 1 := Bool.toNat_le _
  constructor
  · exact counted.startOnce
  · omega
  · rw [received]
    exact counted.next
  · rw [received]
    exact placed.inPlace
  · rw [received]
    exact placed.ending
  · exact placed.endLast
  · rw [received]
    exact placed.reassembled

theorem frames_read (life : Life request first past last) :
    last.stream.Shows last.frames last.segments := by
  cases life with
  | opened => exact .nothing first
  | turned life _ _ cause now => exact (turned_supply _ cause now life.supplied.2.1.fits).1

theorem sendsInPlace (life : Life request first past last) : SendsInPlace first past last := by
  cases life with
  | opened =>
      intro segment member
      cases member
  | @turned past last start life goesOn undisturbed cause now =>
      obtain ⟨counted, buffered, placed⟩ := life.supplied
      obtain ⟨_, supply, _⟩ := turned_supply start cause now buffered.fits
      have before : start.receivedOn last.stream.socket = last.finish.receivedOn last.socket :=
        congrArg (List.flatMap Call.received) undisturbed
      have places := supply.places counted buffered
      rw [← before] at places
      unfold SendsInPlace
      rw [Happening.socket_turned]
      exact places

end Life

namespace Session

/-- Whatever happens in a session, the guest is supplied with exactly what is received
from the outside: after each happening of a stream, and at the end for each stream in
the table.  The mailbox gets just what happenings send. -/
theorem guest_gets_received_bytes {start : World} (new : start.IsNew)
    (operations : List Operation) :
    (∀ before happening future, history start operations = before ++ happening :: future →
      ∃ request first,
        BeginsWith request first (episode (before ++ [happening]) happening.socket) ∧
        GuestSupplied first (episode (before ++ [happening]) happening.socket) happening.stream
          happening.finish ∧
        SendsInPlace first (episode before happening.socket) happening ∧
        ∀ frame ∈ happening.frames, ∃ segment ∈ happening.segments,
          segmentIn frame = some (happening.stream.flow.reversed, segment)) ∧
    (∀ row ∈ (after start operations).gateway.streams.rows, ∃ request first,
        BeginsWith request first (episode (history start operations) row.2.socket) ∧
        GuestSupplied first (episode (history start operations) row.2.socket) row.2
          (after start operations).kernel) ∧
    (after start operations).QueuesAsItHappens := by
  refine ⟨?_, ?_, (sound_after new operations).queuesAsItHappens⟩
  · intro before happening future split
    obtain ⟨request, first, life⟩ := life_of_split new split
    rw [episode_append, episode_singleton_self]
    refine ⟨request, first, life.beginsWith, life.guestSupplied rfl, life.sendsInPlace, ?_⟩
    exact fun frame member => life.frames_read.exists_of_mem member
  · intro row member
    obtain ⟨request, first, past, last, life, whole, left, undisturbed⟩ := life_of_row new member
    rw [whole, ← left]
    exact ⟨request, first, life.beginsWith, life.guestSupplied undisturbed⟩

/-! ## A guest that says something and gets an answer -/

def conversationFlow : Flow := ⟨⟨.ofOctets 10 0 0 5, 4000⟩, ⟨.ofOctets 1 2 3 4, 80⟩⟩

def guestFrame (sequence acknowledgment : UInt32) (flags : List Packet.ControlBit)
    (payload : Bytes) : Bytes :=
  let flow := conversationFlow
  let header := Packet.TcpHeader.bare flow.guest.port flow.outside.port sequence acknowledgment
    (Packet.ControlBit.byteOf flags) 1000
  let segment := Packet.tcpSegment flow.guest.address flow.outside.address header [] payload
  let frame := segment.bind <|
    Packet.ipv4Frame ⟨Settings.gatewayMac, ⟨2, 0, 0, 0, 0, 1⟩, Packet.EthernetHeader.ipv4⟩
      (.between flow.guest.address flow.outside.address Transport.tcp.protocol 0 64)
  frame.toOption.getD []

def conversation : List Operation :=
  [.register ⟨⟨1⟩, ⟨2, 0, 0, 0, 0, 1⟩⟩, .transmit ⟨1⟩ (guestFrame 1000 0 [.syn] []),
    .change 0 { writable := some true }, .poll 1,
    .transmit ⟨1⟩ (guestFrame 1001 305419897 [.ack] [104, 105]),
    .change 0 { arrivals := [.data [1, 2, 3] conversationFlow.outside] }, .poll 1]

def closedConversation : List Operation :=
  conversation ++ [.transmit ⟨1⟩ (guestFrame 1003 305419897 [.fin, .ack] [])]

def conversed : World := .plain (NameService.load none)

theorem conversation_is_supplied :
    conversed.IsNew ∧ (history conversed conversation).length = 4 ∧
      (after conversed conversation).kernel.receivedOn 0 = [1, 2, 3] ∧
      ∃ row ∈ (after conversed conversation).gateway.streams.rows, row.2.socket = 0 ∧
        ∃ request first,
          BeginsWith request first (episode (history conversed conversation) row.2.socket) ∧
          GuestSupplied first (episode (history conversed conversation) row.2.socket) row.2
            (after conversed conversation).kernel := by
  have new : conversed.IsNew := World.plain_isNew none
  have happened : (history conversed conversation).length = 4 := by decide +kernel
  have received : (after conversed conversation).kernel.receivedOn 0 = [1, 2, 3] := by
    decide +kernel
  have there : ∃ row ∈ (after conversed conversation).gateway.streams.rows, row.2.socket = 0 := by
    decide +kernel
  obtain ⟨row, member, socket⟩ := there
  have supplied := (guest_gets_received_bytes new conversation).2.1 row member
  exact ⟨new, happened, received, row, member, socket, supplied⟩

end Session

end Masquerade
