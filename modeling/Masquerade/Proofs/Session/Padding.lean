import Masquerade.Proofs.Gateway.Padding
import Masquerade.Proofs.Gateway.Past
import Masquerade.Proofs.Session.Replies

/-!
# Padded frames

Whatever has happened before, two frames that differ in nothing but padding have the same
effect: the same answers and calls, and the same streams and mappings afterwards.
-/

set_option autoImplicit false

namespace Masquerade.Session

open Packet
open World (SameEffect)

/-- In any world: only the copies of the frames, for controllers and peers, differ. -/
theorem padding_has_no_effect (world : World) (sender : NicId) {first second : Bytes}
    (differ : DifferInPadding first second)
    (lengths : ∀ frame ∈ [first, second], 34 ≤ frame.length ∧ frame.length ≤ 1522) :
    SameEffect sender first second world := by
  obtain ⟨enough, _⟩ := lengths first (List.mem_cons_self ..)
  obtain ⟨enoughToo, _⟩ := lengths second (List.mem_cons_of_mem _ (List.mem_cons_self ..))
  exact world.transmit_sameEffect sender
    (differ.ofFrame_eq world.gateway.subnet enough enoughToo) lengths

/-! ## A query with bytes behind it -/

def looseFrame (last : UInt8) : Bytes :=
  let datagram := UdpHeader.encode ⟨queryFlow.guest.port, queryFlow.outside.port, 11, 0⟩ ++
    [1, 2, 3]
  let frame := ipv4Frame ⟨Settings.gatewayMac, ⟨2, 0, 0, 0, 0, 1⟩, EthernetHeader.ipv4⟩
    (.between queryFlow.guest.address queryFlow.outside.address Transport.udp.protocol 0 64)
    (datagram ++ [last])
  frame.toOption.getD []

def leaving (calls : List Call) : List (Endpoint × Bytes) :=
  calls.filterMap fun call =>
    match call with
    | .sendTo _ target bytes _ => some (target, bytes)
    | _ => none

/-- The query leaves as three bytes, whatever the packet and the frame have behind it. -/
theorem loose_query_has_same_effect :
    let world := after queried (query.take 1)
    let first := looseFrame 4
    let second := looseFrame 5 ++ [6, 7]
    DifferInPadding first second ∧
      (∀ frame ∈ [first, second], 34 ≤ frame.length ∧ frame.length ≤ 1522) ∧
      SameEffect ⟨1⟩ first second world ∧
      ∀ frame ∈ [first, second],
        leaving ((world.transmit ⟨1⟩ frame).kernel.callsSince world.kernel) =
          [(⟨.ofOctets 9 9 9 9, 53⟩, [1, 2, 3])] := by
  intro world first second
  have differ : DifferInPadding first second :=
    .datagram (by decide +kernel) (by decide +kernel) (by decide +kernel) (by decide +kernel)
      (by decide +kernel) (by decide +kernel) (by decide +kernel) (by decide +kernel)
  have lengths : ∀ frame ∈ [first, second], 34 ≤ frame.length ∧ frame.length ≤ 1522 := by
    decide +kernel
  exact ⟨differ, lengths, padding_has_no_effect world ⟨1⟩ differ lengths, by decide +kernel⟩

end Masquerade.Session
