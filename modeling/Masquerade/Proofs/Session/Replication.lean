import Masquerade.Proofs.Gateway.Replication
import Masquerade.Proofs.Session.Frames

/-!
# Frames are replicated once

Only registering changes the controllers of a network, so that in every session they have
different numbers.  Whatever a frame holds and whomever it is for, it is passed on to all
of them but its sender, and to all peers, exactly once.
-/

set_option autoImplicit false

namespace Masquerade

open Packet
open World (Replicates)

/-! ## Who is on the network -/

namespace World

variable {world : World}

theorem poll_nics (sound : world.Sound) : world.poll.gateway.nics = world.gateway.nics := by
  obtain ⟨_, leaves, _⟩ := poll_leaves sound
  exact leaves.nics

theorem pollAndReceive_nics (nic : NicId) (sound : world.Sound) :
    (world.pollAndReceive nic).2.gateway.nics = world.gateway.nics := by
  rw [pollAndReceive, pickUp]
  split
  · exact poll_nics sound
  · exact poll_nics sound

theorem RowOfRounds.nics {after : World} {rounds : List World} {happenings : List Happening}
    (row : RowOfRounds world rounds happenings after) (sound : world.Sound) :
    after.gateway.nics = world.gateway.nics := by
  induction row with
  | refl => rfl
  | @round world _ _ _ _ ih => exact (ih (sound.steps (steps_poll world))).trans (poll_nics sound)
  | @received world _ _ _ nic _ ih =>
      exact (ih (sound.steps (steps_pollAndReceive world nic))).trans (pollAndReceive_nics nic sound)

theorem IsNew.no_nics (new : world.IsNew) : world.gateway.nics = [] := by
  obtain ⟨settings, book, nameServiceFile, outcomes, randoms, run⟩ := new
  obtain ⟨_, _, _, _, _, same⟩ := setUp_ok run
  rw [same]

end World

namespace Session

def Operation.registration? : Operation → Option Nic
  | .register nic => some nic
  | _ => none

theorem nics_run {world : World} (sound : world.Sound) (operation : Operation) :
    (operation.run world).2.gateway.nics =
      operation.registration?.toList.foldl (fun nics nic => nic.register nics)
        world.gateway.nics := by
  cases operation with
  | register nic => rfl
  | transmit sender frame =>
      obtain ⟨_, _, leaves, _⟩ := World.transmit_leaves sound sender frame
      exact leaves.nics
  | poll rounds => exact (World.row_pollTimes rounds world).nics sound
  | receive nic => exact World.pollAndReceive_nics nic sound
  | receiveUpTo nic most => exact (World.row_receiveUpTo nic most world).nics sound
  | available nic => exact World.poll_nics sound
  | describe =>
      obtain ⟨kernel, looked, _⟩ := exists_lookAt_snd world
      rw [Operation.run, looked]
      rfl
  | macOf | phase | script | change => rfl

theorem nics_after {start : World} (new : start.IsNew) (operations : List Operation) :
    (after start operations).gateway.nics =
      Nic.registerAll (operations.filterMap Operation.registration?) := by
  induction operations using List.reverseRecOn with
  | nil => exact new.no_nics
  | append_singleton operations operation ih =>
      rw [after_append, List.filterMap_append, Nic.registerAll, List.foldl_append,
        ← Nic.registerAll, ← ih]
      have last := nics_run (sound_after new operations) operation
      cases operation <;> exact last

/-! ## Frames -/

/-- The controllers stand in the order of their first registrations, have different numbers
and the hardware addresses of their last registrations; the peers never change.  A frame
of a usable length is left for each controller but its sender, sent to each peer and
counted, all once; one of another length changes nothing. -/
theorem frames_are_replicated_once {start : World} (new : start.IsNew)
    (operations : List Operation) :
    let world := after start operations
    let registrations := operations.filterMap Operation.registration?
    (world.gateway.nics.map Nic.id).Nodup ∧
    world.gateway.nics.map Nic.id = (registrations.map Nic.id).eraseDups ∧
    (∀ nic, Nic.mac? nic world.gateway.nics = Nic.mac? nic registrations.reverse) ∧
    world.gateway.relay = start.gateway.relay ∧
    ∀ sender frame,
      (34 ≤ frame.length → frame.length ≤ 1522 →
        Replicates sender frame world (world.transmit sender frame) ∧
        ∀ nic, (Backlog.mk (world.gateway.copies sender frame)).waiting nic =
          if nic ∈ registrations.map Nic.id ∧ nic ≠ sender then [frame] else []) ∧
      (frame.length < 34 ∨ 1522 < frame.length → world.transmit sender frame = world) := by
  intro world registrations
  have sound : world.Sound := sound_after new operations
  have bounded : world.Bounded := bounded_after new operations
  have nics : world.gateway.nics = Nic.registerAll registrations := nics_after new operations
  have distinct : (world.gateway.nics.map Nic.id).Nodup := by
    rw [nics]
    exact Nic.nodup_registerAll registrations
  have ids : world.gateway.nics.map Nic.id = (registrations.map Nic.id).eraseDups := by
    rw [nics]
    exact Nic.map_id_registerAll registrations
  refine ⟨distinct, ids, fun nic => ?_, (steps_after operations start).sameSetUp.relay, ?_⟩
  · rw [nics]
    exact Nic.mac?_registerAll registrations nic
  · intro sender frame
    refine ⟨fun atLeast atMost => ⟨?_, fun nic => ?_⟩, fun unusable => if_pos unusable⟩
    · exact World.transmit_replicates sound bounded sender atLeast atMost
    · rw [World.waiting_copies distinct sender atLeast atMost, ids]
      simp only [List.mem_eraseDups]

/-! ## A network with two peers -/

/-- A network whose relay has two peers, the first of which is not reached. -/
def related : World :=
  let plain := World.plain (NameService.load none)
  { gateway :=
      { plain.gateway with
        relay := some ⟨0, [⟨.ofOctets 192 0 2 1, 9000⟩, ⟨.ofOctets 192 0 2 2, 9000⟩]⟩ }
    kernel :=
      { sockets := [{ HostSocket.fresh .datagram with port := 49152 }]
        script := ⟨[(.sendto, .failure ⟨"EHOSTUNREACH"⟩)]⟩
        randoms := []
        log := [.bind 0 0 (.ok ()), .socket .datagram (.ok 0)] } }

theorem related_isNew : related.IsNew :=
  ⟨{ peers := ["192.0.2.1:9000", "192.0.2.2:9000"] }, [], none,
    [(.sendto, .failure ⟨"EHOSTUNREACH"⟩)], [], rfl⟩

def registered : List Operation :=
  [.register ⟨⟨1⟩, ⟨2, 0, 0, 0, 0, 1⟩⟩, .register ⟨⟨2⟩, ⟨2, 0, 0, 0, 0, 2⟩⟩,
    .register ⟨⟨1⟩, ⟨2, 0, 0, 0, 0, 3⟩⟩]

def questionFrame : Bytes :=
  ethernetFrame ⟨⟨255, 255, 255, 255, 255, 255⟩, ⟨2, 0, 0, 0, 0, 3⟩, EthernetHeader.arp⟩ <|
    ArpPacket.encode <| .ethernetIpv4 ArpPacket.request ⟨2, 0, 0, 0, 0, 3⟩ (.ofOctets 10 0 0 5)
      ⟨0, 0, 0, 0, 0, 0⟩ (.ofOctets 10 0 0 254)

/-- The sender gets an answer and no copy, the other controller a copy and no answer. -/
theorem question_is_replicated_once :
    let world := after related registered
    let asked := world.transmit ⟨1⟩ questionFrame
    related.IsNew ∧ 34 ≤ questionFrame.length ∧ questionFrame.length ≤ 1522 ∧
      world.gateway.nics.map Nic.id = [⟨1⟩, ⟨2⟩] ∧
      Replicates ⟨1⟩ questionFrame world asked ∧
      asked.gateway.mailbox.waiting ⟨2⟩ = [questionFrame] ∧
      (asked.gateway.mailbox.waiting ⟨1⟩).length = 1 ∧
      questionFrame ∉ asked.gateway.mailbox.waiting ⟨1⟩ ∧
      (sentFrom [0] (asked.kernel.callsSince world.kernel)).length = 2 := by
  intro world asked
  have atLeast : 34 ≤ questionFrame.length := by decide +kernel
  have atMost : questionFrame.length ≤ 1522 := by decide +kernel
  obtain ⟨_, _, _, _, each⟩ := frames_are_replicated_once related_isNew registered
  obtain ⟨once, _⟩ := (each ⟨1⟩ questionFrame).1 atLeast atMost
  exact ⟨related_isNew, atLeast, atMost, by decide +kernel, once, by decide +kernel,
    by decide +kernel, by decide +kernel, by decide +kernel⟩

end Session

end Masquerade
