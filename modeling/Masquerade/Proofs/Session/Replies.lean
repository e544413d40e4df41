import Masquerade.Proofs.Gateway.Mailbox
import Masquerade.Proofs.Session.Ownership

/-!
# Replies from the outside to the guest

In whatever world a round begins, each datagram that it takes from the socket of a
mapping goes to the owner of the mapping: in one row, in fragments that the guest puts
together, and under the address that the guest has sent to.
-/

set_option autoImplicit false

namespace Masquerade.Session

open Packet

/-- A round leaves the replies of the mappings one after the other, then what streams
and relay send.  Each mapping takes at most one datagram and stays.  A datagram that
fits reaches the guest as a whole, and of a longer one nothing is left; all this also
where the mapping leads to the name server, and the guest has sent to the gateway. -/
theorem replies_reach_guest {start : World} (new : start.IsNew) (operations : List Operation) :
    let world := after start operations
    let calls := world.poll.kernel.callsSince world.kernel
    world.poll.gateway.mailbox.entries = world.gateway.mailbox.entries ++
      (world.gateway.mappings.rows.flatMap (fun row =>
          (datagramsOn calls row.2.socket).flatMap fun payload =>
            (row.2.answers row.1 payload).map (row.2.owner, ·)) ++
        world.pollHappenings.flatMap Happening.posts ++ world.gateway.relayPostsOn calls) ∧
    ∀ row ∈ world.gateway.mappings.rows,
      World.Directs world.gateway.subnet world.gateway.nameService row.1 row.2 ∧
      row.2.Served row.1 calls world.poll ∧
      ∀ payload ∈ datagramsOn calls row.2.socket,
        (payload.length ≤ Mapping.longestReply → ∃ deliveries,
          (row.2.answers row.1 payload).map Delivery.read = deliveries.map some ∧
          IsReply row.2 row.1 payload deliveries) ∧
        (Mapping.longestReply < payload.length → row.2.answers row.1 payload = []) := by
  intro world calls
  have sound := sound_after new operations
  obtain ⟨made, leaves, served⟩ := World.poll_leaves sound
  have same : calls = made := leaves.makes.callsSince_eq
  rw [same]
  refine ⟨leaves.mailbox, fun row member => ⟨?_, served row member, ?_⟩⟩
  · exact sound.mappings.fits row member
  · intro payload _
    exact ⟨row.2.answers_short row.1, row.2.answers_long row.1⟩

/-! ## A guest that asks the name server -/

def queried : World :=
  .plain (NameService.load
    (some [110, 97, 109, 101, 115, 101, 114, 118, 101, 114, 32, 57, 46, 57, 46, 57, 46, 57]))

def queryFlow : Flow := ⟨⟨.ofOctets 10 0 0 5, 4000⟩, ⟨.ofOctets 10 0 0 254, 53⟩⟩

def queryFrame : Bytes :=
  let datagram := udpDatagram queryFlow.guest.address queryFlow.outside.address
    (.between queryFlow.guest.port queryFlow.outside.port) [1, 2, 3]
  let frame := datagram.bind <|
    ipv4Frame ⟨Settings.gatewayMac, ⟨2, 0, 0, 0, 0, 1⟩, EthernetHeader.ipv4⟩
      (.between queryFlow.guest.address queryFlow.outside.address Transport.udp.protocol 0 64)
  frame.toOption.getD []

def queryAnswer : Bytes := List.replicate 1473 7

def query : List Operation :=
  [.register ⟨⟨1⟩, ⟨2, 0, 0, 0, 0, 1⟩⟩, .transmit ⟨1⟩ queryFrame,
    .change 0 { arrivals := [.data queryAnswer ⟨.ofOctets 9 9 9 9, 53⟩] }]

def queryMapping : Mapping :=
  ⟨⟨1⟩, ⟨2, 0, 0, 0, 0, 1⟩, 0, 0, true, ⟨.ofOctets 9 9 9 9, 53⟩⟩

theorem query_is_answered :
    queried.IsNew ∧ (queryFlow, queryMapping) ∈ (after queried query).gateway.mappings.rows ∧
      queryAnswer ∈ datagramsOn ((after queried query).poll.kernel.callsSince
        (after queried query).kernel) queryMapping.socket ∧
      ∃ deliveries,
        (queryMapping.answers queryFlow queryAnswer).map Delivery.read = deliveries.map some ∧
        IsReply queryMapping queryFlow queryAnswer deliveries := by
  have new : queried.IsNew := World.plain_isNew _
  have here : (queryFlow, queryMapping) ∈ (after queried query).gateway.mappings.rows := by
    decide +kernel
  have came : queryAnswer ∈ datagramsOn ((after queried query).poll.kernel.callsSince
      (after queried query).kernel) queryMapping.socket := by
    decide +kernel
  have fits : queryAnswer.length ≤ Mapping.longestReply := by decide +kernel
  have round := replies_reach_guest new query
  exact ⟨new, here, came, ((round.2 _ here).2.2 _ came).1 fits⟩

end Masquerade.Session
