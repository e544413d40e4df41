import Masquerade.Proofs.Gateway.Answers
import Masquerade.Proofs.Session.Replies

/-!
# Datagrams from the guest to the outside

In whatever world a frame comes, it sends a datagram on the socket of a mapping just if
it brings one of a flow that is carried.  Then it sends that one, once, and to where the
flow leads.
-/

set_option autoImplicit false

namespace Masquerade.Session

open World (Carried Directs socketsThrough)

/-- Each mapping leads to where its guest sends, or to the name server where that is the
gateway.  A frame sends on the sockets of mappings if and only if it is carried, and then
exactly once: its payload, on the socket of the mapping of its flow, to the target of
that mapping, which is the one that was there if there was one. -/
theorem datagrams_are_forwarded {start : World} (new : start.IsNew)
    (operations : List Operation) (sender : NicId) (frame : Bytes) :
    let world := after start operations
    let later := world.transmit sender frame
    let sends := sentFrom (world.socketsThrough later) (later.kernel.callsSince world.kernel)
    (∀ row ∈ world.gateway.mappings.rows,
      Directs world.gateway.subnet world.gateway.nameService row.1 row.2) ∧
    (sends ≠ [] ↔ ∃ flow payload, world.Carried frame flow payload) ∧
    ∀ flow payload, world.Carried frame flow payload →
      ∃ mapping result, later.gateway.mappings.get? flow = some mapping ∧
        (∀ old, world.gateway.mappings.get? flow = some old → mapping = old) ∧
        Directs world.gateway.subnet world.gateway.nameService flow mapping ∧
        sends = [.sendTo mapping.socket mapping.target payload result] := by
  intro world later sends
  have sound : world.Sound := sound_after new operations
  have steps := World.steps_transmit world sender frame
  have soundLater : later.Sound := sound.steps steps
  obtain ⟨subnet, _, names, _⟩ : World.SameSetUp world.gateway later.gateway := steps.sameSetUp
  refine ⟨sound.mappings.fits, ?_⟩
  rcases World.transmit_sends sound sender frame with
    ⟨idle, none⟩ | ⟨flow, payload, mapping, result, carried, only, mapped, kept, sent⟩
  · refine ⟨⟨fun some => absurd none some, ?_⟩, fun flow payload carried => ?_⟩
    · rintro ⟨flow, payload, carried⟩
      exact absurd carried (idle flow payload)
    · exact absurd carried (idle flow payload)
  · refine ⟨⟨fun _ => ⟨flow, payload, carried⟩, fun _ none => ?_⟩, fun other bytes carried => ?_⟩
    · have sent : sends = _ := sent
      rw [none] at sent
      cases sent
    · obtain ⟨rfl, rfl⟩ := only other bytes carried
      have directs := soundLater.mappings.get mapped
      rw [subnet, names] at directs
      exact ⟨mapping, result, mapped, kept, directs, sent⟩

/-! ## A guest that asks the name server -/

theorem query_is_forwarded :
    queried.IsNew ∧ ∃ flow payload, (after queried (query.take 1)).Carried queryFrame flow payload ∧
      ∃ (mapping : Mapping) (result : Except Errno Nat), sentFrom
        ((after queried (query.take 1)).socketsThrough (after queried (query.take 2)))
        ((after queried (query.take 2)).kernel.callsSince (after queried (query.take 1)).kernel) =
          [.sendTo mapping.socket mapping.target payload result] := by
  have new : queried.IsNew := World.plain_isNew _
  have sends : (sentFrom
      ((after queried (query.take 1)).socketsThrough (after queried (query.take 2)))
      ((after queried (query.take 2)).kernel.callsSince
        (after queried (query.take 1)).kernel)).isEmpty = false := by
    decide +kernel
  obtain ⟨_, some, sent⟩ := datagrams_are_forwarded new (query.take 1) ⟨1⟩ queryFrame
  obtain ⟨flow, payload, carried⟩ := some.mp fun none => by
    rw [List.isEmpty_eq_false_iff] at sends
    exact sends none
  obtain ⟨mapping, result, _, _, _, once⟩ := sent flow payload carried
  exact ⟨new, flow, payload, carried, mapping, result, once⟩

end Masquerade.Session
