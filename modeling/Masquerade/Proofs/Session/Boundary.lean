import Masquerade.Proofs.Gateway.Boundary
import Masquerade.Proofs.Gateway.Passing
import Masquerade.Proofs.Session.Frames

/-!
# The boundary of a network

Whatever is done on a network, and however the host answers, guests reach nothing but
single hosts outside of the network and, through the gateway's own address, the name
server.  A frame for another station is none of the gateway's business.
-/

set_option autoImplicit false

namespace Masquerade.Session

open Kernel (MakesOnly NamesNone)
open World (IsElsewhere PassesOn)

theorem run_namesNone {world : World} (sound : world.Sound) {operation : Operation}
    (noFrame : ∀ sender frame, operation ≠ .transmit sender frame) :
    NamesNone world.kernel (operation.run world).2.kernel :=
  (course_of_no_frame world noFrame).keepsStill (fun later => NamesNone world.kernel later.kernel)
    (fun _ made named => named.trans (Kernel.namesNone_of_makes_nothing made))
    (fun {later} _ named => named.trans later.poll_namesNone) sound (.refl _ world.kernel)

theorem run_permits {world : World} (sound : world.Sound) (operation : Operation) :
    MakesOnly (operation.run world).2.gateway.Permits world.kernel
      (operation.run world).2.kernel := by
  rcases operation.frame_or_not with ⟨sender, frame, rfl⟩ | noFrame
  · exact World.transmit_permits sound sender frame
  · exact (run_namesNone sound noFrame).mono (Gateway.permits_of_none _)

def ConnectsBeyond (subnet : Subnet) (call : Call) : Prop :=
  ∀ socket target result, call = .connect socket target result → subnet.IsBeyond target.address

theorem after_connectsBeyond {world : World} (sound : world.Sound)
    (operations : List Operation) :
    MakesOnly (ConnectsBeyond world.gateway.subnet) world.kernel
      (after world operations).kernel := by
  induction operations generalizing world with
  | nil => exact .refl _ world.kernel
  | cons operation rest ih =>
      have steps := steps_run operation world
      have later := ih (sound.steps steps)
      rw [steps.sameSetUp.subnet] at later
      refine MakesOnly.trans ((run_permits sound operation).mono ?_) later
      rintro call permitted socket target result rfl
      rw [← steps.sameSetUp.subnet]
      exact permitted

theorem leadsTo_of_mapped {start : World} (new : start.IsNew) {operations : List Operation}
    {flow : Flow} {mapping : Mapping}
    (mapped : (after start operations).gateway.mappings.get? flow = some mapping) :
    (after start operations).gateway.LeadsTo flow mapping.target := by
  have sound := sound_after new operations
  obtain ⟨before, _, frame, _, _, _, _, ⟨_, _, asked⟩, _, _⟩ := mapping_opened new mapped
  have served := isServed_of_datagram asked
  rw [(steps_after before start).sameSetUp.subnet,
    ← (steps_after operations start).sameSetUp.subnet] at served
  exact (sound.mappings.get mapped).leadsTo served

/-- The gateway's own address lies inside the network.  In every session, all that is
connected to lies outside; every mapping leads to the outside of its flow, or to the name
server if its guest sends to the gateway; and each operation sends datagrams to the targets
of mappings, on their sockets, or to the peers of the relay.  A frame for another station
is passed on if it has a usable length, and nothing else is done. -/
theorem traffic_stays_in_bounds {start : World} (new : start.IsNew)
    (operations : List Operation) :
    let world := after start operations
    world.gateway.subnet.contains world.gateway.subnet.gateway = true ∧
    (∀ call ∈ world.kernel.log, ConnectsBeyond world.gateway.subnet call) ∧
    (∀ flow mapping, world.gateway.mappings.get? flow = some mapping →
      world.gateway.LeadsTo flow mapping.target) ∧
    (∀ call ∈ start.kernel.log, call.target? = none) ∧
    (∀ operation : Operation, ∀ call ∈ (step world operation).1.calls,
      (operation.run world).2.gateway.Permits call) ∧
    ∀ sender frame, IsElsewhere frame →
      (frame.length < 34 ∨ 1522 < frame.length → world.transmit sender frame = world) ∧
      (34 ≤ frame.length → frame.length ≤ 1522 →
        PassesOn sender frame [] world.gateway.streams world (world.transmit sender frame)) := by
  intro world
  have sound : world.Sound := sound_after new operations
  refine ⟨Subnet.contains_gateway _, ?_, fun _ _ => leadsTo_of_mapped new, new.namesNone,
    fun operation call member => (run_permits sound operation).mem_callsSince member,
    fun sender frame elsewhere => ⟨fun unusable => if_pos unusable, fun atLeast atMost =>
      world.transmit_passesOn sender atLeast atMost (World.ofFrame_of_isElsewhere elsewhere)⟩⟩
  obtain ⟨calls, made, beyond⟩ := after_connectsBeyond new.sound operations
  intro call member
  have subnet : world.gateway.subnet = start.gateway.subnet :=
    (steps_after operations start).sameSetUp.subnet
  rw [made.log, List.mem_append, List.mem_reverse] at member
  rw [subnet]
  rcases member with run | first
  · exact beyond call run
  · rintro socket target result rfl
    cases new.namesNone _ first

theorem query_stays_in_bounds :
    queried.IsNew ∧ ∃ call ∈
      (step (after queried (query.take 1)) (.transmit ⟨1⟩ queryFrame)).1.calls,
      call.target? = some ⟨.ofOctets 9 9 9 9, 53⟩ ∧
        (after queried (query.take 2)).gateway.Permits call := by
  have new : queried.IsNew := World.plain_isNew _
  have sends : ∃ call ∈
      (step (after queried (query.take 1)) (.transmit ⟨1⟩ queryFrame)).1.calls,
      call.target? = some ⟨.ofOctets 9 9 9 9, 53⟩ := by
    decide +kernel
  obtain ⟨call, member, target⟩ := sends
  obtain ⟨_, _, _, _, permits, _⟩ := traffic_stays_in_bounds new (query.take 1)
  exact ⟨new, call, member, target, permits _ call member⟩

end Masquerade.Session
