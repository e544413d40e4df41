import Masquerade.Proofs.Gateway.Spread
import Masquerade.Proofs.Kernel.Past

/-!
# What a frame asks for is done alike

Neither the calls that were made before nor the frames that wait have a part in what is
done for a request.  Of two worlds that differ only in these, both do the same, make
the same calls and leave the same frames, behind what they had.
-/

set_option autoImplicit false

namespace Masquerade

open Kernel (resultAfter)

/-! ## Streams -/

def Turn.precededBy (turn : Turn) (past : List Call) : Turn :=
  { turn with kernel := turn.kernel.precededBy past }

namespace Stream

variable (stream : Stream) (now : Nat) (segment : Segment) (kernel : Kernel) (past : List Call)

@[simp] theorem precededBy_offer (payload : Bytes) :
    stream.offer payload (kernel.precededBy past) =
      resultAfter past (stream.offer payload kernel) := by
  simp only [offer, Kernel.precededBy_isWritable]
  split
  · rfl
  · cases kernel.isWritable stream.socket with
    | mk writable between =>
        cases writable with
        | false => rfl
        | true =>
            simp only [resultAfter, Kernel.precededBy_send]
            cases between.send stream.socket payload with
            | mk result after =>
                cases result with
                | ok => rfl
                | error errno =>
                    by_cases again : errno = .again
                    · simp only [again, if_true]
                    · simp only [again, if_false]

@[simp] theorem precededBy_onFin (header : Packet.TcpHeader) :
    stream.onFin now header (kernel.precededBy past) =
      (stream.onFin now header kernel).precededBy past := by
  simp only [onFin, Kernel.precededBy_shutdownWrite, resultAfter]
  split <;> rfl

@[simp] theorem precededBy_onPayload :
    stream.onPayload now segment (kernel.precededBy past) =
      (stream.onPayload now segment kernel).precededBy past := by
  simp only [onPayload, precededBy_offer]
  cases stream.offer segment.payload kernel with
  | mk offered after =>
      cases offered with
      | withheld | failed => rfl
      | taken count =>
          simp only [resultAfter, precededBy_onFin]
          split <;> rfl

@[simp] theorem precededBy_onAcknowledgment (header : Packet.TcpHeader) :
    stream.onAcknowledgment header (kernel.precededBy past) =
      (stream.onAcknowledgment header kernel).precededBy past := by
  simp only [onAcknowledgment]
  split <;> rfl

@[simp] theorem precededBy_onSegment :
    stream.onSegment now segment (kernel.precededBy past) =
      (stream.onSegment now segment kernel).precededBy past := by
  simp only [onSegment, precededBy_onPayload, precededBy_onFin, precededBy_onAcknowledgment]
  split
  · rfl
  · split
    · rfl
    · split
      · rfl
      · split
        · rfl
        · split <;> rfl

end Stream

namespace World

/-- The same world with some calls made before, the latest first, and some frames that
wait in front. -/
def precededBy (world : World) (past : List Call) (waiting : List (NicId × Bytes)) : World where
  gateway := { world.gateway with mailbox := ⟨waiting ++ world.gateway.mailbox.entries⟩ }
  kernel := world.kernel.precededBy past

def blank (world : World) : World where
  gateway := { world.gateway with mailbox := .empty }
  kernel := world.kernel.blank

theorem blank_precededBy (world : World) :
    world.blank.precededBy world.kernel.log world.gateway.mailbox.entries = world := by
  simp only [precededBy, blank, Backlog.empty, List.append_nil]
  rfl

section Operations

variable (world : World) (past : List Call) (waiting : List (NicId × Bytes)) (flow : Flow)
  (sender : NicId) (guestMac : Mac)

@[simp] theorem precededBy_post (frames : List Bytes) :
    (world.precededBy past waiting).post sender frames =
      (world.post sender frames).precededBy past waiting := by
  simp only [post, precededBy, Backlog.pushAll, List.append_assoc]

@[simp] theorem precededBy_postBuilt (frame : Except Packet.WireError Bytes) :
    (world.precededBy past waiting).postBuilt sender frame =
      (world.postBuilt sender frame).precededBy past waiting := by
  cases frame with
  | ok frame => exact precededBy_post ..
  | error => rfl

@[simp] theorem precededBy_refuse (segment : Segment) (length : Nat) :
    (world.precededBy past waiting).refuse sender guestMac flow segment length =
      (world.refuse sender guestMac flow segment length).precededBy past waiting := by
  rw [refuse, refuse, precededBy_postBuilt]

@[simp] theorem precededBy_dropStream :
    (world.precededBy past waiting).dropStream flow =
      (world.dropStream flow).precededBy past waiting := by
  have same : (world.precededBy past waiting).gateway.streams = world.gateway.streams := rfl
  simp only [dropStream, same]
  cases world.gateway.streams.remove flow with
  | mk found streams =>
      cases found with
      | none => rfl
      | some stream => simp only [precededBy, Kernel.precededBy_close]

/-! ### Datagrams -/

@[simp] theorem precededBy_openMapping :
    (world.precededBy past waiting).openMapping sender guestMac flow =
      (world.openMapping sender guestMac flow).precededBy past waiting := by
  have aim : (world.precededBy past waiting).targetOf flow = world.targetOf flow := rfl
  have opening : (world.precededBy past waiting).kernel.openDatagram =
      resultAfter past world.kernel.openDatagram := Kernel.precededBy_openDatagram ..
  have same : (world.precededBy past waiting).gateway.mappings = world.gateway.mappings := rfl
  have subnet : (world.precededBy past waiting).gateway.subnet = world.gateway.subnet := rfl
  simp only [openMapping, aim, opening, same, subnet]
  cases world.targetOf flow with
  | none => rfl
  | some target =>
      cases world.kernel.openDatagram with
      | mk opened kernel =>
          cases opened with
          | error => rfl
          | ok socket =>
              simp only [resultAfter, Kernel.precededBy_close]
              split <;> rfl

@[simp] theorem precededBy_sendDatagram (payload : Bytes) :
    (world.precededBy past waiting).sendDatagram flow payload =
      (world.sendDatagram flow payload).precededBy past waiting := by
  have same : (world.precededBy past waiting).gateway.mappings = world.gateway.mappings := rfl
  simp only [sendDatagram, same]
  cases world.gateway.mappings.get? flow with
  | none => rfl
  | some mapping => simp only [precededBy, Kernel.precededBy_sendTo, resultAfter]

@[simp] theorem precededBy_onDatagram (payload : Bytes) :
    (world.precededBy past waiting).onDatagram sender guestMac flow payload =
      (world.onDatagram sender guestMac flow payload).precededBy past waiting := by
  have same : (world.precededBy past waiting).gateway.mappings = world.gateway.mappings := rfl
  simp only [onDatagram, same, precededBy_openMapping, precededBy_sendDatagram]
  split <;> rfl

/-! ### Segments -/

@[simp] theorem precededBy_openStream (segment : Segment) :
    (world.precededBy past waiting).openStream sender guestMac flow segment =
      (world.openStream sender guestMac flow segment).precededBy past waiting := by
  have same : (world.precededBy past waiting).gateway.streams = world.gateway.streams := rfl
  have subnet : (world.precededBy past waiting).gateway.subnet = world.gateway.subnet := rfl
  have opening : (world.precededBy past waiting).kernel.openStream flow.outside =
      resultAfter past (world.kernel.openStream flow.outside) := Kernel.precededBy_openStream ..
  simp only [openStream, same, subnet, opening, precededBy_refuse]
  split
  · rfl
  · cases world.kernel.openStream flow.outside with
    | mk opened kernel =>
        cases opened with
        | error errno =>
            exact precededBy_refuse { world with kernel } past waiting flow sender guestMac
              segment 0
        | ok socket =>
            simp only [resultAfter, Kernel.precededBy_drawRandom, Kernel.precededBy_close]
            split <;> rfl

@[simp] theorem precededBy_continueStream (stream : Stream) (segment : Segment) :
    (world.precededBy past waiting).continueStream flow stream segment =
      (world.continueStream flow stream segment).precededBy past waiting := by
  have clock : (world.precededBy past waiting).gateway.clock = world.gateway.clock := rfl
  have turned : stream.onSegment world.gateway.clock segment (world.precededBy past waiting).kernel =
      (stream.onSegment world.gateway.clock segment world.kernel).precededBy past :=
    Stream.precededBy_onSegment ..
  have posted := precededBy_post
    (({ world with kernel := (stream.onSegment world.gateway.clock segment world.kernel).kernel
      }).keepStream flow (stream.onSegment world.gateway.clock segment world.kernel).stream)
    past waiting stream.owner (stream.onSegment world.gateway.clock segment world.kernel).frames
  simp only [continueStream, clock, turned, Turn.precededBy]
  split
  · exact (congrArg (dropStream · flow) posted).trans (precededBy_dropStream ..)
  · exact congrArg (touchStream · flow) posted

@[simp] theorem precededBy_onSegment (segment : Segment) :
    (world.precededBy past waiting).onSegment sender guestMac flow segment =
      (world.onSegment sender guestMac flow segment).precededBy past waiting := by
  have same : (world.precededBy past waiting).gateway.streams = world.gateway.streams := rfl
  simp only [onSegment, same, precededBy_continueStream, precededBy_openStream, precededBy_refuse]
  cases world.gateway.streams.get? flow with
  | some stream =>
      dsimp only
      split <;> rfl
  | none =>
      dsimp only
      split
      · rfl
      · split <;> rfl

theorem precededBy_serve (request : Request) :
    (world.precededBy past waiting).serve sender request =
      (world.serve sender request).precededBy past waiting := by
  cases request with
  | hardwareAddress | ownAddress => exact precededBy_post ..
  | echo => exact precededBy_postBuilt ..
  | datagram => exact precededBy_onDatagram ..
  | segment => exact precededBy_onSegment ..

end Operations

/-! ## Two frames -/

theorem blank_relayed (socket : SocketId) (peers : List Endpoint) (first second : Bytes)
    {one two : Kernel} (same : one.blank = two.blank) :
    (peers.foldl (fun kernel peer => (kernel.sendTo socket peer first).2) one).blank =
      (peers.foldl (fun kernel peer => (kernel.sendTo socket peer second).2) two).blank := by
  induction peers generalizing one two with
  | nil => exact same
  | cons peer rest ih =>
      apply ih
      rw [Kernel.blank_sendTo, Kernel.blank_sendTo, same]

theorem blank_spread (world : World) (sender : NicId) (first second : Bytes) :
    (world.spread sender first).blank = (world.spread sender second).blank := by
  have kernels : (world.spread sender first).kernel.blank =
      (world.spread sender second).kernel.blank := by
    rw [spread_kernel, spread_kernel]
    cases world.gateway.relay with
    | none => rfl
    | some relay => exact blank_relayed relay.socket relay.peers first second rfl
  obtain ⟨mailbox, one⟩ := world.spread_gateway sender first
  obtain ⟨mailboxToo, two⟩ := world.spread_gateway sender second
  rw [blank, blank, kernels, one, two]

/-- Two frames have the same effect: beside their copies and the calls that relay them, the
same frames are left in the same order, the same calls are made, and nothing else of the
gateway or of the kernel is different. -/
structure SameEffect (sender : NicId) (first second : Bytes) (world : World) : Prop where
  gateway : (world.transmit sender first).gateway =
    { (world.transmit sender second).gateway with
      mailbox := (world.transmit sender first).gateway.mailbox }
  kernel : (world.transmit sender first).kernel =
    { (world.transmit sender second).kernel with
      log := (world.transmit sender first).kernel.log }
  posts : ∃ made : List (NicId × Bytes), ∀ frame ∈ [first, second],
    (world.transmit sender frame).gateway.mailbox.entries =
      world.gateway.mailbox.entries ++ (world.gateway.copies sender frame ++ made)
  calls : ∃ made : List Call, ∀ frame ∈ [first, second], ∃ passed,
    (world.transmit sender frame).kernel.callsSince world.kernel = passed ++ made ∧
      world.gateway.Relays frame passed

/-- What a frame asks for is done behind its copies and the calls that relay it. -/
theorem transmit_precededBy (world : World) (sender : NicId) {frame : Bytes}
    (atLeast : Request.shortestFrame ≤ frame.length)
    (atMost : frame.length ≤ Request.longestFrame) :
    world.transmit sender frame =
      ((Request.ofFrame world.gateway.subnet frame).elim (world.spread sender frame).blank
          ((world.spread sender frame).blank.serve sender)).precededBy
        (world.spread sender frame).kernel.log
        (world.spread sender frame).gateway.mailbox.entries := by
  rw [transmit, if_neg (by omega)]
  cases Request.ofFrame world.gateway.subnet frame with
  | none => exact (blank_precededBy _).symm
  | some request =>
      rw [Option.elim_some, ← precededBy_serve, blank_precededBy]

theorem transmit_sameEffect (world : World) (sender : NicId) {first second : Bytes}
    (same : Request.ofFrame world.gateway.subnet first =
      Request.ofFrame world.gateway.subnet second)
    (usable : ∀ frame ∈ [first, second],
      Request.shortestFrame ≤ frame.length ∧ frame.length ≤ Request.longestFrame) :
    SameEffect sender first second world := by
  let done := (Request.ofFrame world.gateway.subnet first).elim (world.spread sender first).blank
    ((world.spread sender first).blank.serve sender)
  have both : ∀ frame ∈ [first, second], world.transmit sender frame = done.precededBy
      (world.spread sender frame).kernel.log
      (world.spread sender frame).gateway.mailbox.entries := by
    intro frame member
    obtain ⟨atLeast, atMost⟩ := usable frame member
    have asked : Request.ofFrame world.gateway.subnet frame =
        Request.ofFrame world.gateway.subnet first := by
      rcases List.mem_pair.mp member with rfl | rfl
      · rfl
      · exact same.symm
    rw [transmit_precededBy world sender atLeast atMost, asked,
      blank_spread world sender frame first]
  have one := both first (List.mem_cons_self ..)
  have two := both second (List.mem_cons_of_mem _ (List.mem_cons_self ..))
  refine ⟨?_, ?_, ⟨done.gateway.mailbox.entries, fun frame member => ?_⟩,
    ⟨done.kernel.log.reverse, fun frame member => ?_⟩⟩
  · rw [one, two]
    rfl
  · rw [one, two]
    rfl
  · obtain ⟨_, leaves, _⟩ := world.spread_relays sender frame
    obtain ⟨atLeast, atMost⟩ := usable frame member
    rw [both frame member, Gateway.copies, if_neg (by omega), ← List.append_assoc,
      ← leaves.mailbox]
    rfl
  · obtain ⟨passed, leaves, relays⟩ := world.spread_relays sender frame
    refine ⟨passed, Kernel.callsSince_of_log ?_, relays⟩
    rw [both frame member, List.reverse_append, List.reverse_reverse, List.append_assoc,
      ← leaves.makes.log]
    rfl

end World

end Masquerade
