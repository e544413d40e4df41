import Masquerade.Proofs.Gateway.Draining
import Masquerade.Proofs.Gateway.Replication
import Masquerade.Proofs.Kernel.Targets

/-!
# The two ends of the relay

At one end each frame of a controller is sent to the peers, and nothing else is sent there.  At
the other end frames of controllers leave the socket of the relay as it is: what waits there
comes from the host, and only rounds take it away.
-/

set_option autoImplicit false

namespace Masquerade

open Kernel (LeavesAlone Queues)

/-! ## Sending to a peer -/

/-- The bytes that a call sends from a socket to an endpoint, whatever comes of it. -/
def Call.offered? (socket : SocketId) (target : Endpoint) : Call → Option Bytes
  | .sendTo source other bytes _ => if source = socket ∧ other = target then some bytes else none
  | _ => none

def Call.sent? (socket : SocketId) (target : Endpoint) : Call → Option Bytes
  | .sendTo _ _ _ (.error _) => none
  | call => call.offered? socket target

def Call.misses (socket : SocketId) (target : Endpoint) : Call → Bool
  | .sendTo source other _ (.error _) => source = socket ∧ other = target
  | _ => false

section Sending

variable {socket : SocketId} {target : Endpoint} {calls : List Call}

theorem Call.sent?_eq (call : Call) (socket : SocketId) (target : Endpoint) :
    call.sent? socket target =
      if call.misses socket target then none else call.offered? socket target := by
  cases call with
  | sendTo source other bytes result =>
      cases result with
      | ok taken => rfl
      | error errno => simp [sent?, misses, offered?]
  | _ => rfl

theorem sent_sublist_offered (socket : SocketId) (target : Endpoint) (calls : List Call) :
    (calls.filterMap (Call.sent? socket target)).Sublist
      (calls.filterMap (Call.offered? socket target)) := by
  have left : calls.filterMap (Call.sent? socket target) =
      (calls.filter fun call => !call.misses socket target).filterMap
        (Call.offered? socket target) := by
    rw [List.filterMap_filter]
    refine List.filterMap_congr fun call _ => ?_
    rw [call.sent?_eq]
    cases call.misses socket target <;> rfl
  rw [left]
  exact List.filter_sublist.filterMap _

theorem sent_eq_offered
    (noneMisses : ∀ call ∈ calls, call.misses socket target = false) :
    calls.filterMap (Call.sent? socket target) = calls.filterMap (Call.offered? socket target) := by
  refine List.filterMap_congr fun call member => ?_
  rw [call.sent?_eq, noneMisses call member]
  rfl

theorem SendsToAll.offered {frame : Bytes} {peers : List Endpoint}
    (sends : SendsToAll socket frame peers calls) :
    calls.filterMap (Call.offered? socket target) = List.replicate (peers.count target) frame := by
  unfold SendsToAll at sends
  induction sends with
  | nil => rfl
  | @cons peer call peers calls sent _ ih =>
      obtain ⟨result, rfl⟩ := sent
      by_cases here : peer = target
      · subst here
        rw [List.count_cons_self, List.replicate_succ, ← ih]
        simp [Call.offered?]
      · rw [List.count_cons_of_ne here, ← ih]
        simp [Call.offered?, here]

theorem offered_of_sentFrom (none : sentFrom [socket] calls = []) :
    calls.filterMap (Call.offered? socket target) = [] := by
  refine List.filterMap_eq_nil_iff.mpr fun call member => ?_
  cases call with
  | sendTo source other bytes result =>
      refine if_neg fun both => ?_
      have sends : Call.sendsFrom [socket] (.sendTo source other bytes result) = true :=
        decide_eq_true (List.mem_singleton.mpr both.1)
      exact List.filter_eq_nil_iff.mp none _ member sends
  | _ => rfl

theorem offered_of_namesNone (none : ∀ call ∈ calls, call.target? = none) :
    calls.filterMap (Call.offered? socket target) = [] := by
  refine List.filterMap_eq_nil_iff.mpr fun call member => ?_
  cases call with
  | sendTo => cases none _ member
  | _ => rfl

end Sending

namespace World

/-- A frame that is taken is offered to an endpoint as often as the relay names it. -/
theorem transmit_offers {world : World} (sound : world.Sound) {relay : Relay}
    (here : world.gateway.relay = some relay) (target : Endpoint) (sender : NicId)
    (frame : Bytes) :
    ((world.transmit sender frame).kernel.callsSince world.kernel).filterMap
        (Call.offered? relay.socket target) =
      if 34 ≤ frame.length ∧ frame.length ≤ 1522 then
        List.replicate (relay.peers.count target) frame
      else [] := by
  split
  · rename_i fits
    obtain ⟨passed, rest, calls, relays, silent⟩ := transmit_relays sound sender fits.1 fits.2
    simp only [Gateway.Relays, here] at relays
    rw [calls, List.filterMap_append, relays.offered, offered_of_sentFrom (silent relay here),
      List.append_nil]
  · rename_i unusable
    have ignored : world.transmit sender frame = world :=
      if_pos (show frame.length < 34 ∨ 1522 < frame.length by omega)
    rw [ignored, (Kernel.Makes.refl world.kernel).callsSince_eq]
    rfl

/-! ## Frames do not touch the relay -/

theorem sockets_spread (world : World) (sender : NicId) (frame : Bytes) :
    (world.spread sender frame).kernel.sockets = world.kernel.sockets := by
  have sends : ∀ (socket : SocketId) (peers : List Endpoint) (kernel : Kernel),
      (peers.foldl (fun kernel peer => (kernel.sendTo socket peer frame).2) kernel).sockets =
        kernel.sockets := by
    intro socket peers
    induction peers with
    | nil => exact fun _ => rfl
    | cons peer rest ih =>
        intro kernel
        refine (ih _).trans ?_
        simp only [Kernel.sendTo, Kernel.record, Kernel.answer]
        split <;> rfl
  simp only [spread, relayOut]
  split
  · rw [postToAll_kernel]
  · rename_i passed _
    exact (sends passed.socket passed.peers _).trans (by rw [postToAll_kernel])

theorem queues_transmit {world : World} (sound : world.Sound) {relay : Relay}
    (here : world.gateway.relay = some relay) {waiting : List Arrival}
    (queues : world.kernel.Queues relay.socket waiting) (sender : NicId) (frame : Bytes) :
    (world.transmit sender frame).kernel.Queues relay.socket waiting := by
  have steps := steps_spread world sender frame
  have spread : (world.spread sender frame).kernel.Queues relay.socket waiting :=
    queues.of_same (congrArg (·[relay.socket]?) (sockets_spread world sender frame))
  simp only [transmit]
  split
  · exact queues
  · split
    · exact spread
    · exact spread.of_same (leavesAlone_relay_serve (sound.steps steps)
        (steps.sameSetUp.relay.trans here) sender _).same

end World

end Masquerade
