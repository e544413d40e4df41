import Masquerade.Proofs.Gateway.Spread
import Masquerade.Proofs.Kernel.Held

/-!
# What a frame does besides being passed on

Every frame of a usable length is counted, copied and relayed.  What it does besides is
told by what it leaves behind the copies and by the streams that stand in the table
afterwards.  Relaying asks nothing of the kernel but to send.
-/

set_option autoImplicit false

namespace Masquerade

open Kernel (Makes)

def Gateway.passing (gateway : Gateway) (sender : NicId) (frame : Bytes)
    (posts : List (NicId × Bytes)) (streams : FlowTable Stream) : Gateway :=
  { gateway with
    clock := gateway.clock + 1
    mailbox := ⟨gateway.mailbox.entries ++ (gateway.copies sender frame ++ posts)⟩
    streams }

namespace Gateway

variable {gateway : Gateway} {frame : Bytes}

theorem waiting_passing (sender : NicId) (posts : List (NicId × Bytes))
    (streams : FlowTable Stream) :
    (gateway.passing sender frame posts streams).mailbox.waiting sender =
      gateway.mailbox.waiting sender ++ (Backlog.mk posts).waiting sender := by
  have noCopy : (gateway.copies sender frame).filter (fun post => post.1 = sender) = [] := by
    rw [copies]
    split
    · rfl
    · refine List.filter_eq_nil_iff.mpr fun post member => ?_
      obtain ⟨nic, other, rfl⟩ := List.mem_map.mp member
      simpa using (List.mem_filter.mp other).2
  simp only [passing, Backlog.waiting, List.filter_append, noCopy, List.nil_append,
    List.map_append]

theorem waiting_passing_own (sender : NicId) (answer : Bytes) (streams : FlowTable Stream) :
    (gateway.passing sender frame [(sender, answer)] streams).mailbox.waiting sender =
      gateway.mailbox.waiting sender ++ [answer] := by
  rw [waiting_passing]
  simp [Backlog.waiting]

theorem Relays.keep {calls : List Call} (relays : gateway.Relays frame calls) :
    ∀ call ∈ calls, call.keepsSockets = true := by
  intro call member
  obtain ⟨relay, _, _, _, _, rfl⟩ := relays.passes call member
  rfl

end Gateway

namespace World

def relayed (world : World) (frame : Bytes) : Kernel := (world.relayOut frame).kernel

/-- A frame is passed on and asks nothing of the kernel but to relay it. -/
structure PassesOn (sender : NicId) (frame : Bytes) (posts : List (NicId × Bytes))
    (streams : FlowTable Stream) (before after : World) : Prop where
  gateway : after.gateway = before.gateway.passing sender frame posts streams
  kernel : after.kernel = before.relayed frame
  calls : ∃ calls, Makes calls before.kernel after.kernel ∧ before.gateway.Relays frame calls

/-! ## The kernel while frames are relayed -/

section Relaying

variable (world : World) (frame : Bytes)

theorem makes_relaying :
    ∃ calls, Makes calls world.kernel (world.relayed frame) ∧ world.gateway.Relays frame calls := by
  obtain ⟨calls, leaves, relays⟩ := world.relayOut_leaves frame
  exact ⟨calls, leaves.makes, relays⟩

theorem relayed_keeps {α : Type} (view : Kernel → α)
    (keeps : ∀ kernel socket target bytes,
      view (Kernel.sendTo kernel socket target bytes).2 = view kernel) :
    view (world.relayed frame) = view world.kernel := by
  have each : ∀ (relay : Relay) (peers : List Endpoint) (kernel : Kernel),
      view (peers.foldl (fun kernel peer => (kernel.sendTo relay.socket peer frame).2) kernel) =
        view kernel := by
    intro relay peers
    induction peers with
    | nil => exact fun kernel => rfl
    | cons peer rest ih => exact fun kernel => (ih _).trans (keeps kernel relay.socket peer frame)
  simp only [relayed, relayOut]
  split
  · rfl
  · exact each _ _ _

theorem held_relayed {holders : List SocketId} (held : world.kernel.Held holders) :
    (world.relayed frame).Held holders := by
  obtain ⟨calls, made, relays⟩ := world.makes_relaying frame
  exact held.kept made relays.keep

theorem length_sockets_relayed :
    (world.relayed frame).sockets.length = world.kernel.sockets.length := by
  obtain ⟨calls, made, relays⟩ := world.makes_relaying frame
  rw [← Kernel.length_openFlags, ← Kernel.length_openFlags, made.flags_of_keepsSockets relays.keep]

end Relaying

/-! ## Spreading -/

variable {sender : NicId} {frame : Bytes}

theorem spread_kernel_eq (world : World) (sender : NicId) (frame : Bytes) :
    (world.spread sender frame).kernel = world.relayed frame := by
  rw [spread_kernel, relayed, relayOut]
  cases world.gateway.relay <;> rfl

theorem spread_passesOn (world : World) (sender : NicId)
    (atLeast : Request.shortestFrame ≤ frame.length)
    (atMost : frame.length ≤ Request.longestFrame) :
    PassesOn sender frame [] world.gateway.streams world (world.spread sender frame) := by
  obtain ⟨calls, leaves, relays⟩ := world.spread_relays sender frame
  obtain ⟨mailbox, same⟩ := world.spread_gateway sender frame
  refine ⟨?_, world.spread_kernel_eq sender frame, calls, leaves.makes, relays⟩
  have entries := leaves.mailbox
  rw [same] at entries
  rw [same, Gateway.passing, Gateway.copies, if_neg (by omega), List.append_nil, ← entries]

/-- A frame of a usable length that asks for nothing is passed on, and that is all. -/
theorem transmit_passesOn (world : World) (sender : NicId)
    (atLeast : Request.shortestFrame ≤ frame.length)
    (atMost : frame.length ≤ Request.longestFrame)
    (nothing : Request.ofFrame world.gateway.subnet frame = none) :
    PassesOn sender frame [] world.gateway.streams world (world.transmit sender frame) := by
  rw [transmit, if_neg (by omega), nothing]
  exact world.spread_passesOn sender atLeast atMost

theorem PassesOn.post {posts : List (NicId × Bytes)} {streams : FlowTable Stream}
    {before after : World}
    (passes : PassesOn sender frame posts streams before after) (nic : NicId) (answer : Bytes) :
    PassesOn sender frame (posts ++ [(nic, answer)]) streams before (after.post nic [answer]) := by
  refine ⟨?_, passes.kernel, passes.calls⟩
  rw [World.post, passes.gateway, Gateway.passing, Gateway.passing, Backlog.pushAll]
  simp only [List.map_cons, List.map_nil, List.append_assoc]

theorem transmit_of_submits {world : World} {guest : Mac} {flow : Flow} {segment : Segment}
    (sender : NicId) (submits : Submits world.gateway.subnet frame guest flow segment) :
    world.transmit sender frame =
        (world.spread sender frame).onSegment sender guest flow segment ∧
      PassesOn sender frame [] world.gateway.streams world (world.spread sender frame) :=
  ⟨transmit_of_asked (submits_iff.mp submits),
    world.spread_passesOn sender submits.atLeast submits.atMost⟩

end World

end Masquerade
