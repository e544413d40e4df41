import Masquerade.Proofs.Gateway.SetUp
import Masquerade.Proofs.Session.Steps

/-!
# Who owns the open sockets

Whatever is done on a network, and however the host answers, the open sockets are
those that the gateway holds, each by one holder.  A socket that is held no longer
was closed in the operation that let go of it.
-/

set_option autoImplicit false

namespace Masquerade

namespace Session

theorem sound_after {start : World} (new : start.IsNew) (operations : List Operation) :
    (after start operations).Sound := new.sound.steps (steps_after operations start)

theorem close_mem_calls {world : World} (sound : world.Sound) (operation : Operation)
    {socket : SocketId}
    (had : socket ∈ world.gateway.holders ∨ world.kernel.sockets.length ≤ socket ∧
      socket < (operation.run world).2.kernel.sockets.length)
    (has : socket ∉ (operation.run world).2.gateway.holders) :
    .close socket ∈ (step world operation).1.calls := by
  have steps := steps_run operation world
  obtain ⟨calls, made⟩ := steps.makes
  have later := sound.steps steps
  have shut : ¬ (operation.run world).2.kernel.IsOpen socket :=
    fun isOpen => has ((later.held.isOpen_iff_mem socket).mp isOpen)
  have reported : (step world operation).1.calls = calls := made.callsSince_eq
  rw [reported]
  rcases had with held | ⟨new, given⟩
  · have inside := Nat.lt_of_lt_of_le (sound.held.lt held) (Kernel.length_sockets_le made)
    exact made.close_mem (Or.inl ((sound.held.isOpen_iff_mem socket).mpr held)) inside shut
  · exact made.close_mem (Or.inr new) given shut

/-- In every world that a session reaches, each open socket has exactly one holder
and each holder's socket is open; what an operation lets go of, or opens in vain, it
closes; and a network that cannot be set up leaves no socket open. -/
theorem open_sockets_have_one_holder (settings : Settings) (book : HostBook)
    (nameServiceFile : Option Bytes) (outcomes : List (CallKind × Outcome))
    (randoms : List UInt32) :
    match World.setUp settings book nameServiceFile
        (Kernel.fresh.extendScript outcomes randoms) with
    | (.error _, kernel) => ∀ socket, ¬ kernel.IsOpen socket
    | (.ok gateway, kernel) =>
      ∀ operations : List Operation,
        let world := after ⟨gateway, kernel⟩ operations
        world.gateway.holders.Nodup ∧
        (∀ socket, world.kernel.IsOpen socket ↔ socket ∈ world.gateway.holders) ∧
        ∀ (operation : Operation) (socket : SocketId),
          let later := (operation.run world).2
          (socket ∈ world.gateway.holders ∨ world.kernel.sockets.length ≤ socket ∧
            socket < later.kernel.sockets.length) →
          socket ∉ later.gateway.holders → .close socket ∈ (step world operation).1.calls := by
  have untouched := World.untouched_fresh outcomes randoms
  split
  · rename_i failed
    have held := World.setUp_error untouched.held failed
    intro socket isOpen
    have member := (held.isOpen_iff_mem socket).mp isOpen
    cases member
  · rename_i gateway kernel made
    intro operations
    have sound := (World.sound_setUp untouched made).steps (steps_after operations ⟨gateway, kernel⟩)
    refine ⟨sound.held.distinct, sound.held.isOpen_iff_mem, ?_⟩
    intro operation socket later had has
    exact close_mem_calls sound operation had has

end Session

end Masquerade
