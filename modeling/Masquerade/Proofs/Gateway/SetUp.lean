import Masquerade.Gateway.SetUp
import Masquerade.Proofs.Gateway.Sound

/-!
# A new network

Setting up opens at most the socket of the relay.  Where it fails, nothing stays
open; where it succeeds, the world is sound.
-/

set_option autoImplicit false

namespace Masquerade.World

open Kernel (Makes)

structure Untouched (kernel : Kernel) : Prop where
  held : kernel.Held []
  log : kernel.log = []

theorem untouched_fresh (outcomes : List (CallKind × Outcome)) (randoms : List UInt32) :
    Untouched (Kernel.fresh.extendScript outcomes randoms) where
  held := ⟨List.nodup_nil, fun socket => by simp [Kernel.isOpen_iff, Kernel.openFlags,
    Kernel.extendScript, Kernel.fresh]⟩
  log := rfl

theorem openRelay_error {port : Option UInt16} {peers : List Endpoint} {kernel after : Kernel}
    {error : SetupError} (held : kernel.Held [])
    (run : openRelay port peers kernel = (.error error, after)) : after.Held [] := by
  unfold openRelay at run
  split at run
  · cases run
  · dsimp only at run
    split at run
    · rename_i opened
      obtain ⟨calls, made, fruitless⟩ := Kernel.openBound_error opened
      cases run
      exact held.missed made fruitless
    · cases run

theorem openRelay_ok {port : Option UInt16} {peers : List Endpoint} {kernel after : Kernel}
    {relay : Option Relay} (untouched : Untouched kernel)
    (run : openRelay port peers kernel = (.ok relay, after)) :
    after.Held (relay.toList.map Relay.socket) ∧ Numbered after := by
  have numbered : Numbered kernel := by
    intro call member
    rw [untouched.log] at member
    cases member
  unfold openRelay at run
  split at run
  · cases run
    exact ⟨untouched.held, numbered⟩
  · dsimp only at run
    split at run
    · cases run
    · rename_i socket opened bound
      obtain ⟨fresh, made⟩ := Kernel.openBound_ok bound
      have given := untouched.held.given fresh made (by simp [Call.keepsSockets])
      have named := opened.makes_localPort socket
      cases run
      refine ⟨given.kept named (by simp), ?_⟩
      have first := numbered.about made (by simp [Call.socket?]) (given.lt (List.mem_cons_self ..))
      exact first.makes named (by simp)

theorem setUp_error {settings : Settings} {book : HostBook} {nameServiceFile : Option Bytes}
    {kernel after : Kernel} {error : SetupError} (held : kernel.Held [])
    (run : setUp settings book nameServiceFile kernel = (.error error, after)) : after.Held [] := by
  unfold setUp at run
  split at run
  · cases run
    exact held
  · cases run
    exact held
  · split at run
    · rename_i failed
      cases run
      exact openRelay_error held failed
    · cases run

/-- A network that is set up begins with empty tables, and with the relay that was opened. -/
theorem setUp_ok {settings : Settings} {book : HostBook} {nameServiceFile : Option Bytes}
    {kernel after : Kernel} {gateway : Gateway}
    (run : setUp settings book nameServiceFile kernel = (.ok gateway, after)) :
    ∃ (capacities : Nat × Nat) (peers : List Endpoint) (relay : Option Relay),
      settings.capacities = .ok capacities ∧
      openRelay settings.relayPort peers kernel = (.ok relay, after) ∧
      gateway =
        { subnet := settings.subnet
          retransmitRounds := settings.retransmitRounds
          nameService := NameService.load nameServiceFile
          clock := 0
          streams := .empty capacities.1
          mappings := .empty capacities.2
          mailbox := .empty
          nics := []
          relay } := by
  unfold setUp at run
  split at run
  · cases run
  · cases run
  · rename_i sized resolved
    split at run
    · cases run
    · rename_i opened
      cases run
      exact ⟨_, _, _, sized, opened, rfl⟩

theorem sound_setUp {settings : Settings} {book : HostBook} {nameServiceFile : Option Bytes}
    {kernel after : Kernel} {gateway : Gateway} (untouched : Untouched kernel)
    (run : setUp settings book nameServiceFile kernel = (.ok gateway, after)) :
    (World.mk gateway after).Sound := by
  obtain ⟨_, _, _, _, opened, rfl⟩ := setUp_ok run
  obtain ⟨held, numbered⟩ := openRelay_ok untouched opened
  exact ⟨held, ⟨List.nodup_nil, by simp⟩, ⟨List.nodup_nil, by simp⟩, numbered⟩

theorem IsNew.sound {world : World} (new : world.IsNew) : world.Sound := by
  obtain ⟨settings, book, nameServiceFile, outcomes, randoms, run⟩ := new
  exact sound_setUp (untouched_fresh outcomes randoms) run

theorem IsNew.no_records {world : World} (new : world.IsNew) :
    world.gateway.streams.rows = [] ∧ world.gateway.mappings.rows = [] := by
  obtain ⟨settings, book, nameServiceFile, outcomes, randoms, run⟩ := new
  obtain ⟨_, _, _, _, _, same⟩ := setUp_ok run
  rw [same]
  exact ⟨rfl, rfl⟩

theorem IsNew.room_for_mapping {world : World} (new : world.IsNew) :
    0 < world.gateway.mappings.capacity := by
  obtain ⟨settings, book, nameServiceFile, outcomes, randoms, run⟩ := new
  obtain ⟨_, _, _, sized, _, same⟩ := setUp_ok run
  unfold Settings.capacities at sized
  split at sized
  · cases sized
  · split at sized
    · cases sized
    · rename_i positive
      cases sized
      rw [same]
      exact Nat.pos_of_ne_zero positive

def plain (nameService : NameService) : World where
  gateway :=
    { subnet := .standard
      retransmitRounds := 100
      nameService
      clock := 0
      streams := .empty 100
      mappings := .empty 100
      mailbox := .empty
      nics := []
      relay := none }
  kernel := .fresh

theorem plain_isNew (nameServiceFile : Option Bytes) :
    (plain (NameService.load nameServiceFile)).IsNew := ⟨{}, [], nameServiceFile, [], [], rfl⟩

end Masquerade.World
