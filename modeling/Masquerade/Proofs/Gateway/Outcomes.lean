import Masquerade.Proofs.Gateway.Step

/-!
# What an operation can come to

Opening a mapping, opening a stream, serving a mapping and a whole round each ask the host
for something and go on as it answers.  All that they can come to is listed here once, with
the condition of each outcome, so that what holds of them is shown outcome by outcome.
-/

set_option autoImplicit false

namespace Masquerade.World

/-! ## Opening a mapping -/

def freshMapping (world : World) (owner : NicId) (guestMac : Mac) (flow : Flow)
    (target : Endpoint) (socket : SocketId) : Mapping :=
  { owner, guestMac, socket, identification := 0, target
    isForNameServer := flow.outside.address = world.gateway.subnet.gateway }

inductive MappingOutcome (world : World) (owner : NicId) (guestMac : Mac) (flow : Flow) :
    World → Prop
  /-- The gateway is asked for names, and knows of no name server. -/
  | aimless (nowhere : world.targetOf flow = none) : MappingOutcome world owner guestMac flow world
  | failed {errno : Errno} {kernel : Kernel}
      (missed : world.kernel.openDatagram = (.error errno, kernel)) :
      MappingOutcome world owner guestMac flow (world.withKernel kernel)
  | added {target : Endpoint} {socket : SocketId} {kernel : Kernel} {mappings : FlowTable Mapping}
      (aimed : world.targetOf flow = some target)
      (opened : world.kernel.openDatagram = (.ok socket, kernel))
      (put : world.gateway.mappings.insertEvicting flow
        (world.freshMapping owner guestMac flow target socket) = (none, mappings)) :
      MappingOutcome world owner guestMac flow ((world.withKernel kernel).withMappings mappings)
  /-- In a full table, another mapping makes room. -/
  | replaced {target : Endpoint} {socket : SocketId} {kernel : Kernel} {other : Flow}
      {evicted : Mapping} {mappings : FlowTable Mapping}
      (aimed : world.targetOf flow = some target)
      (opened : world.kernel.openDatagram = (.ok socket, kernel))
      (put : world.gateway.mappings.insertEvicting flow
        (world.freshMapping owner guestMac flow target socket) = (some (other, evicted), mappings)) :
      MappingOutcome world owner guestMac flow
        ((world.withKernel (kernel.close evicted.socket)).withMappings mappings)

theorem openMapping_outcome {world after : World} {owner : NicId} {guestMac : Mac} {flow : Flow}
    (leads : world.openMapping owner guestMac flow = after) :
    MappingOutcome world owner guestMac flow after := by
  subst leads
  unfold openMapping
  split
  · rename_i nowhere
    exact .aimless nowhere
  · rename_i target aimed
    split
    · rename_i missed
      exact .failed missed
    · rename_i opened
      dsimp only
      split
      · rename_i put
        exact .added aimed opened put
      · rename_i put
        exact .replaced aimed opened put

/-! ## Passing a datagram on -/

theorem onDatagram_of_some {world : World} {flow : Flow} {mapping : Mapping}
    (found : world.gateway.mappings.get? flow = some mapping) (sender : NicId) (guestMac : Mac)
    (payload : Bytes) :
    world.onDatagram sender guestMac flow payload = world.sendDatagram flow payload := by
  rw [onDatagram, FlowTable.contains_eq_isSome, found]
  rfl

theorem onDatagram_of_none {world : World} {flow : Flow}
    (absent : world.gateway.mappings.get? flow = none) (sender : NicId) (guestMac : Mac)
    (payload : Bytes) :
    world.onDatagram sender guestMac flow payload =
      (world.openMapping sender guestMac flow).sendDatagram flow payload := by
  rw [onDatagram, FlowTable.contains_eq_isSome, absent]
  rfl

/-! ## Opening a stream -/

inductive StreamOutcome (world : World) (sender : NicId) (guestMac : Mac) (flow : Flow)
    (segment : Segment) : World → Prop
  /-- There is no room, or the gateway itself is asked for. -/
  | declined (barred : world.gateway.streams.isFull = true ∨
        flow.outside.address = world.gateway.subnet.gateway) :
      StreamOutcome world sender guestMac flow segment (world.refuse sender guestMac flow segment 0)
  | failed {errno : Errno} {kernel : Kernel}
      (granted : ¬ (world.gateway.streams.isFull = true ∨
        flow.outside.address = world.gateway.subnet.gateway))
      (missed : world.kernel.openStream flow.outside = (.error errno, kernel)) :
      StreamOutcome world sender guestMac flow segment
        ((world.withKernel kernel).refuse sender guestMac flow segment 0)
  /-- The flow has a stream already. -/
  | taken {socket : SocketId} {kernel : Kernel}
      (granted : ¬ (world.gateway.streams.isFull = true ∨
        flow.outside.address = world.gateway.subnet.gateway))
      (opened : world.kernel.openStream flow.outside = (.ok socket, kernel))
      (there : world.gateway.streams.contains flow = true) :
      StreamOutcome world sender guestMac flow segment
        (world.withKernel (kernel.drawRandom.2.close socket))
  | added {socket : SocketId} {kernel : Kernel} {streams : FlowTable Stream}
      (granted : ¬ (world.gateway.streams.isFull = true ∨
        flow.outside.address = world.gateway.subnet.gateway))
      (opened : world.kernel.openStream flow.outside = (.ok socket, kernel))
      (put : world.gateway.streams.insert? flow
        (Stream.opening sender guestMac flow socket segment kernel.drawRandom.1) = some streams) :
      StreamOutcome world sender guestMac flow segment
        ((world.withKernel kernel.drawRandom.2).withStreams streams)

theorem openStream_outcome {world after : World} {sender : NicId} {guestMac : Mac} {flow : Flow}
    {segment : Segment} (leads : world.openStream sender guestMac flow segment = after) :
    StreamOutcome world sender guestMac flow segment after := by
  subst leads
  unfold openStream
  split
  · rename_i barred
    exact .declined barred
  · rename_i granted
    split
    · rename_i missed
      exact .failed granted missed
    · rename_i opened
      dsimp only
      split
      · rename_i unplaced
        refine .taken granted opened ?_
        have full : world.gateway.streams.isFull = false :=
          Bool.eq_false_iff.mpr fun full => granted (Or.inl full)
        simpa [FlowTable.insert?, full] using unplaced
      · rename_i put
        exact .added granted opened put

/-! ## Passing a segment on -/

/-- What a segment of a guest makes of a world. -/
inductive SegmentOutcome (world : World) (sender : NicId) (guestMac : Mac) (flow : Flow)
    (segment : Segment) : World → Prop
  /-- A stream is asked for that is there already. -/
  | repeated {stream : Stream} (found : world.gateway.streams.get? flow = some stream)
      (opens : segment.opens = true) : SegmentOutcome world sender guestMac flow segment world
  | continued {stream : Stream} (found : world.gateway.streams.get? flow = some stream)
      (carriesOn : segment.opens = false) :
      SegmentOutcome world sender guestMac flow segment (world.continueStream flow stream segment)
  | opened (absent : world.gateway.streams.get? flow = none) (opens : segment.opens = true) :
      SegmentOutcome world sender guestMac flow segment
        (world.openStream sender guestMac flow segment)
  /-- A reset is not answered. -/
  | passedOver (absent : world.gateway.streams.get? flow = none) (noOpening : segment.opens = false)
      (isReset : segment.has .rst = true) :
      SegmentOutcome world sender guestMac flow segment world
  | refused (absent : world.gateway.streams.get? flow = none) (noOpening : segment.opens = false)
      (noReset : segment.has .rst = false) :
      SegmentOutcome world sender guestMac flow segment
        (world.refuse sender guestMac flow segment segment.payload.length)

theorem onSegment_outcome {world after : World} {sender : NicId} {guestMac : Mac} {flow : Flow}
    {segment : Segment} (leads : world.onSegment sender guestMac flow segment = after) :
    SegmentOutcome world sender guestMac flow segment after := by
  subst leads
  unfold onSegment
  split
  · rename_i found
    split
    · rename_i opens
      exact .repeated found opens
    · rename_i noOpening
      exact .continued found (Bool.eq_false_iff.mpr noOpening)
  · rename_i absent
    split
    · rename_i opens
      exact .opened absent opens
    · rename_i noOpening
      split
      · rename_i isReset
        exact .passedOver absent (Bool.eq_false_iff.mpr noOpening) isReset
      · rename_i noReset
        exact .refused absent (Bool.eq_false_iff.mpr noOpening) (Bool.eq_false_iff.mpr noReset)

/-- What a segment brings about: the stream that is there has a turn, or one is opened. -/
inductive BroughtBy (world : World) (sender : NicId) (guestMac : Mac) (flow : Flow)
    (segment : Segment) : Happening → Prop
  | turned {stream : Stream} (found : world.gateway.streams.get? flow = some stream)
      (carriesOn : segment.opens = false) :
      BroughtBy world sender guestMac flow segment
        (.turned (.segment segment) world.gateway.clock stream world.kernel)
  | opened {stream : Stream} (absent : world.gateway.streams.get? flow = none)
      (added : (world.onSegment sender guestMac flow segment).gateway.streams.get? flow =
        some stream) :
      BroughtBy world sender guestMac flow segment
        (.opened segment stream world.kernel
          (world.onSegment sender guestMac flow segment).kernel)

theorem broughtBy_of_mem {world : World} {sender : NicId} {guestMac : Mac} {flow : Flow}
    {segment : Segment} {happening : Happening}
    (member : happening ∈ world.segmentHappenings sender guestMac flow segment) :
    BroughtBy world sender guestMac flow segment happening := by
  simp only [segmentHappenings] at member
  split at member
  · rename_i found
    split at member
    · cases member
    · rename_i noOpening
      rw [List.mem_singleton.mp member]
      exact .turned found (Bool.eq_false_iff.mpr noOpening)
  · rename_i absent
    split at member
    · rename_i added
      rw [List.mem_singleton.mp member]
      exact .opened absent added
    · cases member

/-! ## Serving a mapping -/

inductive ReplyOutcome (world : World) (flow : Flow) : World → Prop
  /-- Nothing is there to read, or no mapping. -/
  | idle : ReplyOutcome world flow world
  | failed {mapping : Mapping} {errno : Errno} {kernel : Kernel}
      (found : world.gateway.mappings.get? flow = some mapping)
      (missed : world.kernel.receiveFrom mapping.socket Mapping.mostReceived =
        (.error errno, kernel)) :
      ReplyOutcome world flow (world.withKernel kernel)
  | replied {mapping : Mapping} {payload : Bytes} {sender : Endpoint} {kernel : Kernel}
      (found : world.gateway.mappings.get? flow = some mapping)
      (received : world.kernel.receiveFrom mapping.socket Mapping.mostReceived =
        (.ok (payload, sender), kernel)) :
      ReplyOutcome world flow ((world.withKernel kernel).onReply flow mapping payload)

theorem serveMapping_outcome {world after : World} {flow : Flow} {ready : Kernel.Readiness}
    (leads : world.serveMapping flow ready = after) : ReplyOutcome world flow after := by
  subst leads
  unfold serveMapping
  split
  · exact .idle
  · split
    · exact .idle
    · rename_i found
      split
      · rename_i missed
        exact .failed found missed
      · rename_i received
        exact .replied found received

/-! ## Serving a stream -/

theorem streamHappenings_of_none {world : World} {flow : Flow}
    (absent : world.gateway.streams.get? flow = none) (ready : Kernel.Readiness) :
    world.streamHappenings flow ready = [] := by
  rw [streamHappenings, absent]

theorem serveStream_of_none {world : World} {flow : Flow}
    (absent : world.gateway.streams.get? flow = none) (ready : Kernel.Readiness) :
    world.serveStream flow ready = world := by
  rw [serveStream, absent]

theorem streamHappenings_of_some {world : World} {flow : Flow} {stream : Stream}
    (found : world.gateway.streams.get? flow = some stream) (ready : Kernel.Readiness) :
    world.streamHappenings flow ready =
      [.turned (.ready world.gateway.retransmitRounds ready) (world.gateway.clock + 1) stream
        world.kernel] := by
  rw [streamHappenings, found]

theorem get?_set_turn {streams : FlowTable Stream} {flow : Flow} {stream : Stream}
    (found : streams.get? flow = some stream) (turned : Stream) :
    (streams.set flow turned).get? flow = some turned := by
  rw [FlowTable.get?_set, if_pos rfl, found, Option.map_some]

/-- The world after a turn in a round, whether or not the stream is over.  The clock goes on
with what is sent. -/
def keepTurn (world : World) (flow : Flow) (owner : NicId) (turn : Turn) : World :=
  let kept := (world.withKernel turn.kernel).keepStream flow turn.stream
  if turn.frames.isEmpty then kept
  else
    { kept with gateway := { kept.gateway with clock := world.gateway.clock + 1 } }.touchStream flow
      |>.post owner turn.frames

section KeepTurn

variable {world : World} {flow : Flow} {owner : NicId} {turn : Turn}

@[simp] theorem kernel_keepTurn : (world.keepTurn flow owner turn).kernel = turn.kernel := by
  unfold keepTurn
  split <;> rfl

@[simp] theorem mappings_keepTurn :
    (world.keepTurn flow owner turn).gateway.mappings = world.gateway.mappings := by
  unfold keepTurn
  split <;> rfl

theorem clock_keepTurn :
    (world.keepTurn flow owner turn).gateway.clock =
      if turn.frames.isEmpty then world.gateway.clock else world.gateway.clock + 1 := by
  unfold keepTurn
  split <;> rfl

theorem get?_keepTurn {stream : Stream}
    (found : world.gateway.streams.get? flow = some stream) :
    (world.keepTurn flow owner turn).gateway.streams.get? flow = some turn.stream := by
  have kept := get?_set_turn found turn.stream
  unfold keepTurn
  split
  · exact kept
  · exact (FlowTable.get?_touch ..).trans kept

end KeepTurn

inductive ServiceOutcome (world : World) (flow : Flow) (ready : Kernel.Readiness) : World → Prop
  | idle (absent : world.gateway.streams.get? flow = none) : ServiceOutcome world flow ready world
  | kept {stream : Stream} {turn : Turn} (found : world.gateway.streams.get? flow = some stream)
      (turned : stream.turn (world.gateway.clock + 1) world.kernel
        (.ready world.gateway.retransmitRounds ready) = turn) (goesOn : turn.ends = false) :
      ServiceOutcome world flow ready (world.keepTurn flow stream.owner turn)
  | dropped {stream : Stream} {turn : Turn} (found : world.gateway.streams.get? flow = some stream)
      (turned : stream.turn (world.gateway.clock + 1) world.kernel
        (.ready world.gateway.retransmitRounds ready) = turn) (ends : turn.ends = true) :
      ServiceOutcome world flow ready
        ((world.keepTurn flow stream.owner turn).dropStream flow)

theorem serveStream_outcome {world after : World} {flow : Flow} {ready : Kernel.Readiness}
    (leads : world.serveStream flow ready = after) : ServiceOutcome world flow ready after := by
  subst leads
  unfold serveStream
  split
  · rename_i absent
    exact .idle absent
  · rename_i found
    dsimp only
    split
    · rename_i ends
      exact .dropped found rfl ends
    · rename_i goesOn
      exact .kept found rfl (Bool.eq_false_iff.mpr goesOn)

/-! ## A round -/

/-- How the look of a round ends, and what the round then comes to. -/
inductive RoundOutcome (world : World) : Prop
  /-- Nothing is served. -/
  | failed {errno : Errno} {looked : Kernel}
      (look : world.kernel.readiness (interests world.gateway) = (.error errno, looked))
      (made : Kernel.Makes [] world.kernel looked) (silent : world.pollHappenings = [])
      (leads : world.poll = world.withKernel looked)
  | served {ready : List Kernel.Readiness} {looked : Kernel}
      (look : world.kernel.readiness (interests world.gateway) = (.ok ready, looked))
      (made : Kernel.Makes [] world.kernel looked)
      (turns : world.pollHappenings = serveHappenings
        (world.gateway.streams.flows.zip (ready.drop world.gateway.mappings.flows.length))
        ((world.gateway.mappings.flows.zip ready).foldl
          (fun world (flow, ready) => world.serveMapping flow ready) (world.withKernel looked)))
      (leads : world.poll = (world.withKernel looked).serveAll ready)

theorem makes_of_look {world : World} {result : Except Errno (List Kernel.Readiness)}
    {looked : Kernel} (look : world.kernel.readiness (interests world.gateway) = (result, looked)) :
    Kernel.Makes [] world.kernel looked := by
  have made := world.kernel.makes_readiness (interests world.gateway)
  rwa [look] at made

theorem round_outcome (world : World) : world.RoundOutcome := by
  cases look : world.kernel.readiness (interests world.gateway) with
  | mk result looked =>
      have made := makes_of_look look
      cases result with
      | error errno =>
          refine .failed look made ?_ ?_
          · simp only [pollHappenings, look]
          · simp only [poll, look]
            rfl
      | ok ready =>
          refine .served look made ?_ ?_
          · simp only [pollHappenings, look]
            rfl
          · simp only [poll, look]
            rfl

end Masquerade.World
