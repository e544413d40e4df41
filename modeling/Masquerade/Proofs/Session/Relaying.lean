import Masquerade.Proofs.Session.Boundary
import Masquerade.Proofs.Session.Feeding
import Masquerade.Proofs.Session.Replication
import Masquerade.Proofs.Session.Replies

/-!
# Frames cross to another network

Two networks are linked where the relay of one names that of the other as a peer.  A frame that
a controller of the near network sends comes to the controllers of the far one as it was sent,
once and in its turn, and the far network does nothing else because of it.
-/

set_option autoImplicit false

namespace Masquerade

/-! ## What is left for one controller -/

theorem Backlog.waiting_flatMap {Key Item Source : Type} [DecidableEq Key]
    (sources : List Source) (posts : Source → List (Key × Item)) (key : Key) :
    (Backlog.mk (sources.flatMap posts)).waiting key =
      sources.flatMap fun source => (Backlog.mk (posts source)).waiting key := by
  induction sources with
  | nil => rfl
  | cons source rest ih =>
      rw [List.flatMap_cons, List.flatMap_cons, ← ih]
      simp [waiting]

/-- Frames shorter than a header are not left for controllers. -/
def Packet.isWhole (frame : Bytes) : Bool := Packet.EthernetHeader.size ≤ frame.length

namespace Gateway

variable {gateway : Gateway} {nic : NicId}

theorem waiting_post_to_all (distinct : (gateway.nics.map Nic.id).Nodup)
    (known : nic ∈ gateway.nics.map Nic.id) (frame : Bytes) :
    (Backlog.mk (gateway.nics.map fun nic => (nic.id, frame))).waiting nic = [frame] := by
  have once := List.count_eq_one_of_mem distinct known
  rw [List.count, List.countP_map, List.countP_eq_length_filter, List.length_eq_one_iff] at once
  obtain ⟨only, alone⟩ := once
  have same : (gateway.nics.filter fun other => other.id = nic) = [only] := alone
  simp only [Backlog.waiting, List.filter_map, List.map_map, Function.comp_def, same]
  rfl

theorem waiting_relayPosts (distinct : (gateway.nics.map Nic.id).Nodup)
    (known : nic ∈ gateway.nics.map Nic.id) (frames : List Bytes) :
    (Backlog.mk (gateway.relayPosts frames)).waiting nic = frames.filter Packet.isWhole := by
  rw [relayPosts, Backlog.waiting_flatMap]
  simp only [waiting_post_to_all distinct known]
  exact List.flatMap_singleton' _

end Gateway

namespace Session

/-! ## The near network -/

def Operation.accepted? : Operation → Option Bytes
  | .transmit _ frame => if 34 ≤ frame.length ∧ frame.length ≤ 1522 then some frame else none
  | _ => none

theorem run_offers {world : World} (sound : world.Sound) {relay : Relay}
    (here : world.gateway.relay = some relay) (target : Endpoint) (operation : Operation) :
    ((operation.run world).2.kernel.callsSince world.kernel).filterMap
        (Call.offered? relay.socket target) =
      operation.accepted?.toList.flatMap (List.replicate (relay.peers.count target)) := by
  rcases operation.frame_or_not with ⟨sender, frame, rfl⟩ | noFrame
  · refine (World.transmit_offers sound here target sender frame).trans ?_
    rw [Operation.accepted?]
    split
    · simp
    · rfl
  · have nothing : operation.accepted? = none := by
      cases operation with
      | transmit sender frame => exact absurd rfl (noFrame sender frame)
      | _ => rfl
    rw [nothing, offered_of_namesNone fun call member =>
      (run_namesNone sound noFrame).mem_callsSince member]
    rfl

/-- Through the relay nothing is sent to an endpoint but each frame that is taken, in its turn
and as often as the relay names the endpoint. -/
theorem after_offers {world : World} (sound : world.Sound) {relay : Relay}
    (here : world.gateway.relay = some relay) (target : Endpoint) (operations : List Operation) :
    ((after world operations).kernel.callsSince world.kernel).filterMap
        (Call.offered? relay.socket target) =
      (operations.filterMap Operation.accepted?).flatMap
        (List.replicate (relay.peers.count target)) := by
  induction operations generalizing world with
  | nil =>
      rw [after, List.foldl_nil, (Kernel.Makes.refl world.kernel).callsSince_eq]
      rfl
  | cons operation rest ih =>
      have steps := steps_run operation world
      obtain ⟨first, made⟩ := steps.makes
      obtain ⟨second, madeLater⟩ := (steps_after rest (operation.run world).2).makes
      have now := run_offers sound here target operation
      have later := ih (sound.steps steps) (steps.sameSetUp.relay.trans here)
      have whole : (after world (operation :: rest)).kernel.callsSince world.kernel =
          first ++ second := (made.trans madeLater).callsSince_eq
      rw [made.callsSince_eq] at now
      rw [madeLater.callsSince_eq] at later
      rw [whole, List.filterMap_append, now, later]
      cases taken : operation.accepted? with
      | none => rw [List.filterMap_cons_none taken]; rfl
      | some frame => rw [List.filterMap_cons_some taken]; simp

theorem kept_of_accepted {operations : List Operation} {times : Nat} {frame : Bytes}
    (member : frame ∈ (operations.filterMap Operation.accepted?).flatMap (List.replicate times))
    (sender : Endpoint) :
    Arrival.kept World.mostRelayed (.data frame sender) = frame ∧ Packet.isWhole frame = true := by
  obtain ⟨taken, inside, copy⟩ := List.mem_flatMap.mp member
  obtain rfl := (List.mem_replicate.mp copy).2
  obtain ⟨operation, _, accepted⟩ := List.mem_filterMap.mp inside
  have fits : 34 ≤ frame.length ∧ frame.length ≤ 1522 := by
    unfold Operation.accepted? at accepted
    split at accepted
    · split at accepted
      · rename_i fits
        cases accepted
        exact fits
      · cases accepted
    · cases accepted
  constructor
  · exact List.take_of_length_le (Nat.le_trans fits.2 (by decide))
  · exact decide_eq_true (Nat.le_trans (by decide) fits.1)

def sentThrough (world : World) (operations : List Operation) (socket : SocketId)
    (target : Endpoint) : List Bytes :=
  ((after world operations).kernel.callsSince world.kernel).filterMap (Call.sent? socket target)

/-! ## The far network -/

section Far

variable {start : World} {relay : Relay}

theorem relay_after (here : start.gateway.relay = some relay) (operations : List Operation) :
    (after start operations).gateway.relay = some relay :=
  (steps_after operations start).sameSetUp.relay.trans here

theorem queues_after (new : start.IsNew) (here : start.gateway.relay = some relay)
    (operations : List Operation) :
    (after start operations).kernel.Queues relay.socket
      ((after start operations).kernel.incoming relay.socket) := by
  obtain ⟨left, queues⟩ :=
    (feeds_after new.sound here operations).queues_exists new.sound here (new.queues here)
  rwa [queues.incoming_eq]

theorem known_later (new : start.IsNew) {operations : List Operation} {nic : NicId}
    (known : nic ∈ (after start operations).gateway.nics.map Nic.id) (more : List Operation) :
    nic ∈ (after start (operations ++ more)).gateway.nics.map Nic.id := by
  rw [nics_after new, Nic.map_id_registerAll, List.mem_eraseDups] at known ⊢
  rw [List.filterMap_append, List.map_append]
  exact List.mem_append_left _ known

def broughtTo (world : World) (operations : List Operation) (nic : NicId) : List Bytes :=
  (Backlog.mk ((roundsIn world operations).flatMap World.brings)).waiting nic

theorem broughtTo_eq (new : start.IsNew) (here : start.gateway.relay = some relay)
    {past : List Operation} {nic : NicId}
    (known : nic ∈ (after start past).gateway.nics.map Nic.id) (operations : List Operation) :
    broughtTo (after start past) operations nic =
      ((roundsIn (after start past) operations).flatMap fun round =>
        round.takes relay.socket).filter Packet.isWhole := by
  rw [broughtTo, Backlog.waiting_flatMap, List.filter_flatMap]
  refine List.flatMap_congr fun round member => ?_
  obtain ⟨more, reached⟩ := roundsIn_reached _ operations round member
  rw [← after_append] at reached
  subst reached
  rw [World.brings_eq (relay_after here _)]
  refine Gateway.waiting_relayPosts ?_ (known_later new known more) _
  rw [nics_after new]
  exact Nic.nodup_registerAll _

/-- These datagrams have come to a socket, once each and in their order, and nothing else; and
after the last of them a round has looked. -/
structure IsDelivered (socket : SocketId) (datagrams : List Bytes) (sender : Endpoint)
    (world : World) (early late : List Operation) : Prop where
  come : early.flatMap (Operation.arrivals socket) = datagrams.map (Arrival.data · sender)
  ended : late.flatMap (Operation.arrivals socket) = []
  looked : ∃ round ∈ roundsIn (after world early) late, round.looks = true

theorem takes_of_delivered (new : start.IsNew) (here : start.gateway.relay = some relay)
    {past early late : List Operation} {datagrams : List Bytes} {sender : Endpoint}
    (clean : ∀ arrival ∈ (after start past).kernel.incoming relay.socket,
      arrival.isFailure = false)
    (delivered : IsDelivered relay.socket datagrams sender (after start past) early late) :
    ((roundsIn (after start past) (early ++ late)).flatMap fun round =>
        round.takes relay.socket) =
      ((after start past).kernel.incoming relay.socket ++ datagrams.map (Arrival.data · sender)).map
        (Arrival.kept World.mostRelayed) := by
  have sound := sound_after new past
  have there := relay_after here past
  have come : ∀ arrival ∈ (after start past).kernel.incoming relay.socket ++
      early.flatMap (Operation.arrivals relay.socket), arrival.isFailure = false := by
    rw [delivered.come]
    refine List.forall_mem_append.mpr ⟨clean, fun arrival member => ?_⟩
    obtain ⟨_, _, rfl⟩ := List.mem_map.mp member
    rfl
  obtain ⟨left, queues, fine, first⟩ :=
    (feeds_after sound there early).conserves sound there (queues_after new here past) come
  have soundNext := sound.steps (steps_after early (after start past))
  have next := relay_after there early
  -- Nothing comes in the late part, and its look leaves nothing of what came before.
  have feeds := feeds_after soundNext next late
  rw [delivered.ended] at feeds
  obtain ⟨rest, final, _, second⟩ :=
    feeds.conserves soundNext next queues (by rwa [List.append_nil])
  have none := feeds.drains soundNext next queues fine rfl (Or.inr delivered.looked)
  have empty : rest = [] := final.incoming_eq.symm.trans none.incoming_eq
  rw [empty, List.append_nil, List.map_nil, List.append_nil] at second
  rw [roundsIn_append, List.flatMap_append, ← second, ← first, delivered.come]

theorem broughtTo_of_delivered (new : start.IsNew) (here : start.gateway.relay = some relay)
    {past early late : List Operation} {datagrams : List Bytes} {sender : Endpoint} {nic : NicId}
    (known : nic ∈ (after start past).gateway.nics.map Nic.id)
    (clean : ∀ arrival ∈ (after start past).kernel.incoming relay.socket,
      arrival.isFailure = false)
    (delivered : IsDelivered relay.socket datagrams sender (after start past) early late)
    (whole : ∀ frame ∈ datagrams, Arrival.kept World.mostRelayed (.data frame sender) = frame ∧
      Packet.isWhole frame = true) :
    broughtTo (after start past) (early ++ late) nic =
      (((after start past).kernel.incoming relay.socket).map
        (Arrival.kept World.mostRelayed)).filter Packet.isWhole ++ datagrams := by
  have unchanged : (datagrams.map (Arrival.data · sender)).map (Arrival.kept World.mostRelayed) =
      datagrams := by
    rw [List.map_map]
    exact (List.map_congr_left fun frame member => (whole frame member).1).trans (List.map_id _)
  have kept : datagrams.filter Packet.isWhole = datagrams :=
    List.filter_eq_self.mpr fun frame member => (whole frame member).2
  rw [broughtTo_eq new here known, takes_of_delivered new here clean delivered, List.map_append,
    List.filter_append, unchanged, kept]

theorem round_only_relays (new : start.IsNew) (here : start.gateway.relay = some relay)
    {past operations : List Operation} {round : World}
    (member : round ∈ roundsIn (after start past) operations) :
    (round.looks = true →
      OnlyRelays relay (round.takes relay.socket) round.brings round.served round.poll) ∧
    (round.looks = false → round.brings = []) := by
  obtain ⟨more, reached⟩ := roundsIn_reached _ operations round member
  rw [← after_append] at reached
  subst reached
  have hereNow := relay_after here (past ++ more)
  have queues := queues_after new here (past ++ more)
  constructor
  · intro succeeds
    obtain ⟨took, _, only⟩ := World.poll_drains (sound_after new _) hereNow queues succeeds
    rwa [took]
  · intro fails
    rw [World.brings_eq hereNow, (World.poll_of_not_looks queues fails).1]
    rfl

end Far

/-! ## Both networks -/

/-- Wherever the relay of the near network has a peer, that is sent each frame which is taken
from a controller, as it is, in its turn and as often as the peer is named, except when
sending fails.  If this is delivered to the relay of the far network, then, once a round has
looked, it has all been left for each of the controllers there, after what waited before and
without anything else.  In each round the relay comes last; it only receives, and nothing
changes but that the frames are left. -/
theorem frames_cross_to_another_network {nearStart farStart : World} (newNear : nearStart.IsNew)
    (newFar : farStart.IsNew) (nearPast farPast : List Operation) {nearRelay farRelay : Relay}
    (nearHere : nearStart.gateway.relay = some nearRelay)
    (farHere : farStart.gateway.relay = some farRelay) (target sender : Endpoint)
    (sending early late : List Operation) :
    let near := after nearStart nearPast
    let far := after farStart farPast
    let taken := sending.filterMap Operation.accepted?
    let sent := sentThrough near sending nearRelay.socket target
    let waiting := far.kernel.incoming farRelay.socket
    sent.Sublist (taken.flatMap (List.replicate (nearRelay.peers.count target))) ∧
    ((∀ call ∈ (after near sending).kernel.callsSince near.kernel,
        call.misses nearRelay.socket target = false) →
      sent = taken.flatMap (List.replicate (nearRelay.peers.count target)) ∧
      (nearRelay.peers.count target = 1 → sent = taken)) ∧
    ((∀ arrival ∈ waiting, arrival.isFailure = false) →
      IsDelivered farRelay.socket sent sender far early late →
      ∀ nic ∈ far.gateway.nics.map Nic.id, broughtTo far (early ++ late) nic =
        (waiting.map (Arrival.kept World.mostRelayed)).filter Packet.isWhole ++ sent) ∧
    ∀ round ∈ roundsIn far (early ++ late),
      (round.looks = true →
        OnlyRelays farRelay (round.takes farRelay.socket) round.brings round.served
          round.poll) ∧
      (round.looks = false → round.brings = []) := by
  intro near far taken sent waiting
  have soundNear : near.Sound := sound_after newNear nearPast
  have offers := after_offers soundNear (relay_after nearHere nearPast) target sending
  have sublist := sent_sublist_offered nearRelay.socket target
    ((after near sending).kernel.callsSince near.kernel)
  rw [offers] at sublist
  refine ⟨sublist, fun noneMisses => ?_, fun clean delivered nic known => ?_,
    fun round member => round_only_relays newFar farHere member⟩
  · have all : sent = taken.flatMap (List.replicate (nearRelay.peers.count target)) :=
      (sent_eq_offered noneMisses).trans offers
    refine ⟨all, fun once => ?_⟩
    rw [all, once]
    exact List.flatMap_singleton' taken
  · exact broughtTo_of_delivered newFar farHere known clean delivered
      fun frame member => kept_of_accepted (sublist.subset member) sender

/-! ## Two networks that are linked -/

def secondPeer : Endpoint := ⟨.ofOctets 192 0 2 2, 9000⟩

def linkSending : List Operation :=
  [.transmit ⟨1⟩ questionFrame, .poll 1, .transmit ⟨2⟩ queryFrame]

def linkArrivals (sender : Endpoint) : List Operation :=
  [.change 0 { arrivals := [.data questionFrame sender] }, .poll 1,
    .change 0 { arrivals := [.data queryFrame sender] }]

theorem question_crosses_to_another_network :
    let world := after related registered
    let sender : Endpoint := ⟨.ofOctets 192 0 2 9, 49152⟩
    let sent := sentThrough world linkSending 0 secondPeer
    related.IsNew ∧ sent = [questionFrame, queryFrame] ∧
      IsDelivered 0 sent sender world (linkArrivals sender) [.receive ⟨2⟩] ∧
      world.gateway.nics.map Nic.id = [⟨1⟩, ⟨2⟩] ∧
      (after world (linkArrivals sender ++ [.receive ⟨2⟩])).gateway.mailbox.waiting ⟨1⟩ =
        [questionFrame, queryFrame] ∧
      ∀ nic ∈ world.gateway.nics.map Nic.id,
        broughtTo world (linkArrivals sender ++ [.receive ⟨2⟩]) nic =
          [questionFrame, queryFrame] := by
  intro world sender sent
  have relay : related.gateway.relay =
      some ⟨0, [⟨.ofOctets 192 0 2 1, 9000⟩, secondPeer]⟩ := rfl
  obtain ⟨_, all, crossed, _⟩ := frames_cross_to_another_network related_isNew related_isNew
    registered registered relay relay secondPeer sender linkSending (linkArrivals sender)
    [.receive ⟨2⟩]
  have noneMisses : ∀ call ∈ (after world linkSending).kernel.callsSince world.kernel,
      call.misses 0 secondPeer = false := by
    decide +kernel
  have taken : linkSending.filterMap Operation.accepted? = [questionFrame, queryFrame] := by
    decide +kernel
  have same : sent = [questionFrame, queryFrame] :=
    ((all noneMisses).2 (by decide +kernel)).trans taken
  have clean : ∀ arrival ∈ world.kernel.incoming 0, arrival.isFailure = false := by
    decide +kernel
  have delivered : IsDelivered 0 sent sender world (linkArrivals sender) [.receive ⟨2⟩] := by
    refine ⟨?_, rfl, by decide +kernel⟩
    rw [same]
    rfl
  refine ⟨related_isNew, same, delivered, by decide +kernel, by decide +kernel,
    fun nic known => ?_⟩
  have nothing : world.kernel.incoming 0 = [] := by decide +kernel
  have whole : broughtTo world (linkArrivals sender ++ [.receive ⟨2⟩]) nic =
      ((world.kernel.incoming 0).map (Arrival.kept World.mostRelayed)).filter Packet.isWhole ++
        sent := crossed clean delivered nic known
  rw [nothing, same] at whole
  exact whole

end Session

end Masquerade
