import Masquerade.Proofs.Gateway.Outcomes

/-!
# A frame from a controller is a row of steps

Spreading a frame and answering it touch neither table, a datagram touches the
mappings, and a segment the streams.  The happenings of the row are those that the
world tells beforehand.
-/

set_option autoImplicit false

namespace Masquerade.World

open Kernel (Makes)

/-! ## Quiet rows -/

theorem Steps.foldl {Item : Type} {act : World → Item → World}
    (each : ∀ world item, Steps world [] (act world item)) (items : List Item) (world : World) :
    Steps world [] (items.foldl act world) := by
  induction items generalizing world with
  | nil => exact .refl world
  | cons item rest ih => exact (each world item).after_quiet (ih (act world item))

theorem steps_looked {world : World} {kernel : Kernel} (made : Makes [] world.kernel kernel) :
    Steps world [] (world.withKernel kernel) := .single (.looked made)

theorem steps_post (world : World) (nic : NicId) (frames : List Bytes) :
    Steps world [] (world.post nic frames) :=
  .single (.aside world.gateway.clock (world.gateway.mailbox.pushAll nic frames) world.gateway.nics)

theorem steps_postBuilt (world : World) (nic : NicId) (frame : Except Packet.WireError Bytes) :
    Steps world [] (world.postBuilt nic frame) := by
  unfold postBuilt
  cases frame with
  | error fault => exact .refl world
  | ok frame => exact steps_post world nic [frame]

theorem steps_postToAll (world : World) (nics : List Nic) (frame : Bytes) :
    Steps world [] (world.postToAll nics frame) := by
  unfold postToAll
  exact Steps.foldl (fun world (nic : Nic) => steps_post world nic.id [frame]) nics world

theorem steps_relayOut (world : World) (frame : Bytes) :
    Steps world [] (world.relayOut frame) := by
  unfold relayOut
  split
  · exact .refl world
  · rename_i relay here
    induction relay.peers generalizing world with
    | nil => exact .refl world
    | cons peer rest ih =>
        cases sent : world.kernel.sendTo relay.socket peer frame with
        | mk result kernel =>
            have first : Steps world [] (world.withKernel kernel) :=
              .single (.relayed here (Kernel.makes_sendTo sent) rfl rfl)
            have later := ih (world.withKernel kernel) here
            rw [List.foldl_cons, sent]
            exact first.after_quiet later

theorem steps_spread (world : World) (sender : NicId) (frame : Bytes) :
    Steps world [] (world.spread sender frame) := by
  have count : Step world [] _ :=
    .aside (world.gateway.clock + 1) world.gateway.mailbox world.gateway.nics
  have counted := Steps.single count
  exact counted.after_quiet ((steps_postToAll ..).after_quiet (steps_relayOut ..))

/-! ## Datagrams -/

theorem directs_of_targetOf {world : World} {flow : Flow} {target : Endpoint} {mapping : Mapping}
    (aimed : world.targetOf flow = some target) (aim : mapping.target = target)
    (forNameServer : mapping.isForNameServer =
      decide (flow.outside.address = world.gateway.subnet.gateway)) :
    Directs world.gateway.subnet world.gateway.nameService flow mapping := by
  subst aim
  unfold targetOf at aimed
  split at aimed
  · rename_i toGateway
    obtain ⟨address, known, same⟩ := Option.map_eq_some_iff.mp aimed
    refine ⟨forNameServer, fun away => absurd toGateway away, fun _ => ?_⟩
    rw [← same]
    exact ⟨known, rfl⟩
  · rename_i away
    exact ⟨forNameServer, fun _ => (Option.some.inj aimed).symm, fun toGateway => absurd toGateway away⟩

theorem steps_openMapping {world : World} (owner : NicId) (guestMac : Mac) {flow : Flow}
    (absent : world.gateway.mappings.get? flow = none) :
    Steps world [] (world.openMapping owner guestMac flow) := by
  generalize leads : world.openMapping owner guestMac flow = after
  cases openMapping_outcome leads with
  | aimless => exact .refl world
  | failed missed =>
      obtain ⟨calls, made, fruitless⟩ := Kernel.openSocket_error missed
      exact .single (.missed made fruitless)
  | added aimed opened put =>
      obtain ⟨fresh, made⟩ := Kernel.openSocket_ok opened
      exact .single (.mappingAdded absent (directs_of_targetOf aimed rfl rfl) fresh made put)
  | replaced aimed opened put =>
      obtain ⟨fresh, made⟩ := Kernel.openSocket_ok opened
      exact .single (.mappingReplaced absent (directs_of_targetOf aimed rfl rfl) fresh made put)

theorem steps_sendDatagram (world : World) (flow : Flow) (payload : Bytes) :
    Steps world [] (world.sendDatagram flow payload) := by
  unfold sendDatagram
  split
  · exact .refl world
  · rename_i mapping found
    cases sent : world.kernel.sendTo mapping.socket mapping.target payload with
    | mk result kernel =>
        have used : Steps world [] (world.withKernel kernel) :=
          .single (.mappingUsed found (Kernel.makes_sendTo sent) rfl rfl)
        exact used.after_quiet (.single (.mappingTouched flow))

theorem steps_onDatagram (world : World) (sender : NicId) (guestMac : Mac) (flow : Flow)
    (payload : Bytes) : Steps world [] (world.onDatagram sender guestMac flow payload) := by
  cases found : world.gateway.mappings.get? flow with
  | some mapping =>
      rw [onDatagram_of_some found]
      exact steps_sendDatagram world flow payload
  | none =>
      rw [onDatagram_of_none found]
      exact (steps_openMapping sender guestMac found).after_quiet (steps_sendDatagram ..)

/-! ## Segments -/

@[simp] theorem streams_refuse (world : World) (sender : NicId) (guestMac : Mac) (flow : Flow)
    (segment : Segment) (length : Nat) :
    (world.refuse sender guestMac flow segment length).gateway.streams =
      world.gateway.streams := by
  unfold refuse postBuilt
  split <;> rfl

theorem steps_openStream {world : World} (sender : NicId) (guestMac : Mac) {flow : Flow}
    {segment : Segment} (absent : world.gateway.streams.get? flow = none)
    (opens : segment.opens = true) :
    (Steps world [] (world.openStream sender guestMac flow segment) ∧
      (world.openStream sender guestMac flow segment).gateway.streams.get? flow = none) ∨
    ∃ stream, Steps world
        [.opened segment stream world.kernel
          (world.openStream sender guestMac flow segment).kernel]
        (world.openStream sender guestMac flow segment) ∧
      (world.openStream sender guestMac flow segment).gateway.streams.get? flow = some stream := by
  generalize leads : world.openStream sender guestMac flow segment = after
  cases openStream_outcome leads with
  | declined =>
      refine Or.inl ⟨steps_postBuilt .., ?_⟩
      rw [streams_refuse]
      exact absent
  | failed granted missed =>
      obtain ⟨calls, made, fruitless⟩ := Kernel.openStream_error missed
      have tried : Steps world [] (world.withKernel _) := .single (.missed made fruitless)
      refine Or.inl ⟨tried.after_quiet (steps_postBuilt ..), ?_⟩
      rw [streams_refuse]
      exact absent
  | taken granted opened there =>
      rw [FlowTable.contains_eq_isSome, absent] at there
      cases there
  | @added socket kernel streams granted opened put =>
      obtain ⟨rfl, result, made, _⟩ := Kernel.openStream_ok opened
      have drawn := made.trans kernel.makes_drawRandom
      have added : Step world
          [.opened segment (Stream.opening sender guestMac flow world.kernel.sockets.length
            segment kernel.drawRandom.1) world.kernel kernel.drawRandom.2]
          ((world.withKernel kernel.drawRandom.2).withStreams streams) :=
        .streamAdded absent opens rfl drawn put
      exact Or.inr ⟨_, .single added, (FlowTable.get?_insert? put flow).trans (if_pos rfl)⟩

theorem dropStream_eq {world : World} {flow : Flow} {stream : Stream}
    (found : world.gateway.streams.get? flow = some stream) :
    world.dropStream flow = (world.withKernel (world.kernel.close stream.socket)).withStreams
      (world.gateway.streams.remove flow).2 := by
  rw [dropStream, FlowTable.remove_eq, found]
  rfl

/-- The end of a stream, whatever was counted, posted and touched before it is
dropped. -/
theorem steps_dropStream {world : World} {flow : Flow} {stream : Stream} {cause : Stream.Cause}
    {now : Nat} (found : world.gateway.streams.get? flow = some stream)
    (ends : (stream.turn now world.kernel cause).ends = true) (clock : Nat)
    (mailbox : Backlog NicId Bytes) {streams : FlowTable Stream}
    (kept : streams.get? flow = some (stream.turn now world.kernel cause).stream)
    (rest : (streams.remove flow).2 = (world.gateway.streams.remove flow).2) :
    Steps world [.turned cause now stream world.kernel]
      (dropStream { gateway := { world.gateway with clock, mailbox, streams },
                    kernel := (stream.turn now world.kernel cause).kernel } flow) := by
  have ended := Steps.single (Step.streamEnded cause now found ends)
  rw [dropStream_eq kept, Stream.turn_socket]
  dsimp only
  rw [rest]
  exact ended.then_quiet (.single (.aside clock mailbox world.gateway.nics))

theorem steps_continueStream {world : World} {flow : Flow} {stream : Stream} (segment : Segment)
    (found : world.gateway.streams.get? flow = some stream) :
    Steps world [.turned (.segment segment) world.gateway.clock stream world.kernel]
      (world.continueStream flow stream segment) := by
  unfold continueStream
  dsimp only
  split
  · rename_i ended
    have ends : (stream.turn world.gateway.clock world.kernel (.segment segment)).ends = true := ended
    exact steps_dropStream found ends _ _ (get?_set_turn found _) (FlowTable.remove_set ..)
  · rename_i goesOn
    have goesOn := Bool.eq_false_iff.mpr goesOn
    have turned :=
      Steps.single (Step.streamTurned (.segment segment) world.gateway.clock found goesOn)
    exact turned.then_quiet ((steps_post ..).after_quiet (.single (.streamTouched flow)))

theorem steps_onSegment (world : World) (sender : NicId) (guestMac : Mac) (flow : Flow)
    (segment : Segment) :
    Steps world (world.segmentHappenings sender guestMac flow segment)
      (world.onSegment sender guestMac flow segment) := by
  generalize leads : world.onSegment sender guestMac flow segment = after
  cases onSegment_outcome leads with
  | repeated found opens =>
      simp only [segmentHappenings, found, opens, if_true]
      exact .refl world
  | continued found carriesOn =>
      simp only [segmentHappenings, found, carriesOn, Bool.false_eq_true, if_false]
      exact steps_continueStream segment found
  | opened absent opens =>
      simp only [segmentHappenings, absent, leads]
      rcases steps_openStream sender guestMac absent opens with
        ⟨steps, missing⟩ | ⟨stream, steps, there⟩
      · rw [missing]
        exact steps
      · rw [there]
        exact steps
  | passedOver absent =>
      simp only [segmentHappenings, absent, leads]
      exact .refl world
  | refused absent =>
      simp only [segmentHappenings, absent, leads, streams_refuse]
      exact steps_postBuilt ..

/-! ## Frames -/

theorem steps_serve (world : World) (sender : NicId) (request : Request) :
    Steps world (world.requestHappenings sender request) (world.serve sender request) := by
  cases request with
  | hardwareAddress | ownAddress => exact steps_post ..
  | echo => exact steps_postBuilt ..
  | datagram => exact steps_onDatagram ..
  | segment => exact steps_onSegment ..

theorem steps_transmit (world : World) (sender : NicId) (frame : Bytes) :
    Steps world (world.transmitHappenings sender frame) (world.transmit sender frame) := by
  unfold transmitHappenings transmit
  split
  · exact .refl world
  · have spread := steps_spread world sender frame
    dsimp only
    cases Request.ofFrame world.gateway.subnet frame with
    | none => exact spread
    | some request =>
        exact spread.after_quiet (steps_serve (world.spread sender frame) sender request)

end Masquerade.World
