import Mathlib.Data.List.Induction
import Masquerade.Proofs.Gateway.Made
import Masquerade.Proofs.Gateway.Spared

/-!
# Replication

Registering a controller again changes its entry and adds none, so that the controllers
have different numbers.  A frame is left once for each of them but its sender and sent
once to each peer, in front of all that is done because of it, and is counted once.
-/

set_option autoImplicit false

namespace Masquerade

open Packet (WellFormed)

/-! ## Controllers -/

namespace Nic

def registerAll (registrations : List Nic) : List Nic :=
  registrations.foldl (fun nics nic => nic.register nics) []

theorem map_id_register (nic : Nic) (nics : List Nic) :
    (nic.register nics).map Nic.id =
      nics.map Nic.id ++ if nic.id ∈ nics.map Nic.id then [] else [nic.id] := by
  induction nics with
  | nil => rfl
  | cons first rest ih =>
      rw [register]
      by_cases same : first.id = nic.id
      · simp [same]
      · have other : nic.id ≠ first.id := fun equal => same equal.symm
        simp [same, other, ih]

theorem mac?_register (nic : Nic) (nics : List Nic) (id : NicId) :
    mac? id (nic.register nics) = if nic.id = id then some nic.mac else mac? id nics := by
  induction nics with
  | nil => by_cases here : nic.id = id <;> simp [register, mac?, here]
  | cons first rest ih =>
      rw [register]
      by_cases same : first.id = nic.id
      · by_cases here : nic.id = id <;> simp [mac?, same, here]
      · by_cases here : first.id = id
        · have away : nic.id ≠ id := fun equal => same (here.trans equal.symm)
          rw [if_neg same, if_neg away]
          simp [mac?, here]
        · simp only [mac?, same, if_false, List.find?_cons, here, decide_false]
          exact ih

theorem registerAll_concat (registrations : List Nic) (nic : Nic) :
    registerAll (registrations ++ [nic]) = nic.register (registerAll registrations) := by
  rw [registerAll, List.foldl_append]
  rfl

theorem map_id_registerAll (registrations : List Nic) :
    (registerAll registrations).map Nic.id = (registrations.map Nic.id).eraseDups := by
  induction registrations using List.reverseRecOn with
  | nil => rfl
  | append_singleton registrations nic ih =>
      rw [registerAll_concat, map_id_register, ih, List.map_append, List.eraseDups_append,
        List.map_singleton, List.removeAll]
      simp only [List.mem_eraseDups]
      by_cases known : nic.id ∈ registrations.map Nic.id
      · rw [if_pos known, List.filter_cons_of_neg (by simpa using known)]
        rfl
      · rw [if_neg known, List.filter_cons_of_pos (by simpa using known)]
        rfl

theorem nodup_registerAll (registrations : List Nic) :
    ((registerAll registrations).map Nic.id).Nodup := by
  induction registrations using List.reverseRecOn with
  | nil => exact List.nodup_nil
  | append_singleton registrations nic ih =>
      rw [registerAll_concat, map_id_register]
      split
      · rwa [List.append_nil]
      · rename_i new
        exact List.nodup_append.mpr ⟨ih, List.nodup_singleton _, fun other there last one same =>
          new (List.mem_singleton.mp one ▸ same ▸ there)⟩

theorem mac?_registerAll (registrations : List Nic) (id : NicId) :
    mac? id (registerAll registrations) = mac? id registrations.reverse := by
  induction registrations using List.reverseRecOn with
  | nil => rfl
  | append_singleton registrations nic ih =>
      rw [registerAll_concat, mac?_register, ih, List.reverse_append]
      by_cases here : nic.id = id <;> simp [mac?, here]

end Nic

namespace World

variable {world : World}

/-! ## The clock -/

section Clock

variable (world : World) (flow : Flow)

theorem clock_postBuilt (nic : NicId) (frame : Except Packet.WireError Bytes) :
    (world.postBuilt nic frame).gateway.clock = world.gateway.clock := by
  cases frame <;> rfl

theorem clock_refuse (sender : NicId) (guestMac : Mac) (segment : Segment) (length : Nat) :
    (world.refuse sender guestMac flow segment length).gateway.clock = world.gateway.clock := by
  rw [refuse, clock_postBuilt]

theorem clock_dropStream : (world.dropStream flow).gateway.clock = world.gateway.clock := by
  simp only [dropStream]
  split <;> rfl

theorem clock_sendDatagram (payload : Bytes) :
    (world.sendDatagram flow payload).gateway.clock = world.gateway.clock := by
  simp only [sendDatagram]
  split <;> rfl

theorem clock_openMapping (owner : NicId) (guestMac : Mac) :
    (world.openMapping owner guestMac flow).gateway.clock = world.gateway.clock := by
  generalize leads : world.openMapping owner guestMac flow = after
  cases openMapping_outcome leads <;> rfl

theorem clock_onDatagram (sender : NicId) (guestMac : Mac) (payload : Bytes) :
    (world.onDatagram sender guestMac flow payload).gateway.clock = world.gateway.clock := by
  simp only [onDatagram]
  split
  · exact clock_sendDatagram ..
  · exact (clock_sendDatagram ..).trans (clock_openMapping ..)

theorem clock_openStream (sender : NicId) (guestMac : Mac) (segment : Segment) :
    (world.openStream sender guestMac flow segment).gateway.clock = world.gateway.clock := by
  generalize leads : world.openStream sender guestMac flow segment = after
  cases openStream_outcome leads with
  | declined => rw [clock_refuse]
  | failed => rw [clock_refuse, gateway_withKernel]
  | taken | added => rfl

theorem clock_continueStream (stream : Stream) (segment : Segment) :
    (world.continueStream flow stream segment).gateway.clock = world.gateway.clock := by
  simp only [continueStream]
  split
  · exact clock_dropStream ..
  · rfl

theorem clock_onSegment (sender : NicId) (guestMac : Mac) (segment : Segment) :
    (world.onSegment sender guestMac flow segment).gateway.clock = world.gateway.clock := by
  generalize leads : world.onSegment sender guestMac flow segment = after
  cases onSegment_outcome leads with
  | repeated | passedOver => rfl
  | continued => exact clock_continueStream ..
  | opened => exact clock_openStream ..
  | refused => exact clock_refuse ..

end Clock

theorem clock_serve (world : World) (sender : NicId) (request : Request) :
    (world.serve sender request).gateway.clock = world.gateway.clock := by
  cases request with
  | hardwareAddress | ownAddress => rfl
  | echo => exact clock_postBuilt ..
  | datagram => exact clock_onDatagram ..
  | segment => exact clock_onSegment ..

theorem clock_spread (world : World) (sender : NicId) (frame : Bytes) :
    (world.spread sender frame).gateway.clock = world.gateway.clock + 1 := by
  obtain ⟨mailbox, same⟩ := world.spread_gateway sender frame
  rw [same]

/-! ## The relay -/

theorem serve_relays_nothing (sound : world.Sound) (sender : NicId) (request : Request) :
    ∃ calls posts, Leaves calls posts world (world.serve sender request) ∧
      ∀ relay, world.gateway.relay = some relay → sentFrom [relay.socket] calls = [] := by
  obtain ⟨calls, _, leaves, _⟩ := serve_leaves sound sender request
  exact ⟨calls, _, leaves, fun _ here =>
    sentFrom_of_uncalled leaves.makes (leavesAlone_relay_serve sound here sender request).uncalled⟩

/-! ## Frames -/

theorem waiting_posts {nics : List Nic} (distinct : (nics.map Nic.id).Nodup) (sender : NicId)
    (frame : Bytes) (nic : NicId) :
    (Backlog.mk ((nics.filter fun nic => nic.id ≠ sender).map fun nic =>
        (nic.id, frame))).waiting nic =
      if nic ∈ nics.map Nic.id ∧ nic ≠ sender then [frame] else [] := by
  simp only [Backlog.waiting, List.filter_map, List.filter_filter, List.map_map]
  induction nics with
  | nil => rfl
  | cons first rest ih =>
      rw [List.map_cons, List.nodup_cons] at distinct
      have later := ih distinct.2
      by_cases here : first.id = nic
      · subst here
        rw [if_neg fun both => distinct.1 both.1] at later
        by_cases own : first.id = sender <;> simp_all
      · have away : nic ≠ first.id := fun equal => here equal.symm
        simp_all

/-- Each controller finds one copy among all that are left, but its sender none. -/
theorem waiting_copies {gateway : Gateway} (distinct : (gateway.nics.map Nic.id).Nodup)
    (sender : NicId) {frame : Bytes} (atLeast : Request.shortestFrame ≤ frame.length)
    (atMost : frame.length ≤ Request.longestFrame) (nic : NicId) :
    (Backlog.mk (gateway.copies sender frame)).waiting nic =
      if nic ∈ gateway.nics.map Nic.id ∧ nic ≠ sender then [frame] else [] := by
  rw [Gateway.copies, if_neg (by omega)]
  exact waiting_posts distinct sender frame nic

/-- The frame has been left once for each controller but its sender, in front of segments of
streams or an answer to it; it has been sent to each peer, before all other calls; and it
has been counted. -/
structure Replicates (sender : NicId) (frame : Bytes) (before after : World) : Prop where
  copied : ∃ made, after.gateway.mailbox.entries =
      before.gateway.mailbox.entries ++ (before.gateway.copies sender frame ++ made) ∧
    ∀ post ∈ made, WellFormed post.2 ∧ (before.StreamMakes post ∨
      ∃ request, Request.asked before.gateway.subnet frame = some request ∧
        IsAnswer before.gateway sender request made)
  relayed : ∃ passed rest, after.kernel.callsSince before.kernel = passed ++ rest ∧
    before.gateway.Relays frame passed ∧
    ∀ relay, before.gateway.relay = some relay → sentFrom [relay.socket] rest = []
  counted : after.gateway.clock = before.gateway.clock + 1

theorem transmit_relays (sound : world.Sound) (sender : NicId) {frame : Bytes}
    (atLeast : Request.shortestFrame ≤ frame.length)
    (atMost : frame.length ≤ Request.longestFrame) :
    ∃ passed rest, (world.transmit sender frame).kernel.callsSince world.kernel =
        passed ++ rest ∧
      world.gateway.Relays frame passed ∧
      ∀ relay, world.gateway.relay = some relay → sentFrom [relay.socket] rest = [] := by
  obtain ⟨passed, copied, relays⟩ := world.spread_relays sender frame
  simp only [transmit]
  rw [if_neg (by omega)]
  split
  · refine ⟨passed, [], ?_, relays, fun _ _ => rfl⟩
    rw [copied.makes.callsSince_eq, List.append_nil]
  · rename_i request _
    have soundSpread := sound.steps (steps_spread world sender frame)
    obtain ⟨rest, posts, leaves, silent⟩ := serve_relays_nothing soundSpread sender request
    refine ⟨passed, rest, (copied.trans leaves).makes.callsSince_eq, relays, fun relay here => ?_⟩
    exact silent relay (copied.relay.trans here)

theorem clock_transmit (world : World) (sender : NicId) {frame : Bytes}
    (atLeast : Request.shortestFrame ≤ frame.length)
    (atMost : frame.length ≤ Request.longestFrame) :
    (world.transmit sender frame).gateway.clock = world.gateway.clock + 1 := by
  simp only [transmit]
  rw [if_neg (by omega)]
  split
  · exact clock_spread ..
  · exact (clock_serve ..).trans (clock_spread ..)

theorem transmit_replicates (sound : world.Sound) (bounded : world.Bounded) (sender : NicId)
    {frame : Bytes} (atLeast : Request.shortestFrame ≤ frame.length)
    (atMost : frame.length ≤ Request.longestFrame) :
    Replicates sender frame world (world.transmit sender frame) where
  copied := transmit_makes sound bounded sender frame
  relayed := transmit_relays sound sender atLeast atMost
  counted := clock_transmit world sender atLeast atMost

end World

end Masquerade
