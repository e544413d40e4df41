import Masquerade.Proofs.Gateway.Service
import Masquerade.Proofs.Session.Replies

/-!
# Rounds in a session

Whatever has happened before, and however the host answers, a round looks at its sockets
once and serves each by what the look has told about it.
-/

set_option autoImplicit false

namespace Masquerade.Session

open Kernel (LooksOnce)
open World (Idle ServesEach)

/-- In every world that a session reaches: where there are sockets, a round makes one look,
repeated only while it is interrupted, and without sockets it makes none and changes
nothing.  If the look fails, nothing else happens.  If it does not, each mapping, then each
stream and then the relay is served once, by the readiness of its own socket.  The replies
of mappings stand before what the streams send, and that before what the relay brings.
Without work nothing happens but the look. -/
theorem one_look_serves_every_socket {start : World} (new : start.IsNew)
    (operations : List Operation) :
    let world := after start operations
    let sockets := World.interests world.gateway
    let looked := (world.kernel.readiness sockets).2
    (sockets = [] → world.poll = world) ∧
    (sockets ≠ [] → LooksOnce world.kernel looked ∧
      world.poll.kernel.looksAhead = looked.looksAhead ∧
      ∀ errno, world.kernel.nextLook = .failure errno → world.poll = world.withKernel looked) ∧
    ((∀ errno, world.kernel.nextLook ≠ .failure errno) → ServesEach world looked) ∧
    (∃ calls, Leaves calls (world.gateway.replyPostsOn calls ++
      world.pollHappenings.flatMap Happening.posts ++ world.gateway.relayPostsOn calls)
      world world.poll) ∧
    (Idle world → world.poll = world.withKernel looked) := by
  intro world sockets looked
  have sound : world.Sound := sound_after new operations
  obtain ⟨calls, leaves, _⟩ := World.poll_leaves sound
  exact ⟨World.poll_of_no_sockets, world.poll_of_sockets, World.servesEach_of_nextLook sound,
    ⟨calls, leaves⟩, World.poll_of_idle sound⟩

/-- The socket of the mapping is served because something has come on it, and there was but
one look, which the second outcome of the script was for. -/
theorem query_is_served_by_one_look :
    let script : List (CallKind × Outcome) :=
      [(.poll, .failure .interrupted), (.poll, .ordinary), (.poll, .failure ⟨"ENOMEM"⟩)]
    let world := after queried (query ++ [.script script []])
    queried.IsNew ∧ World.interests world.gateway ≠ [] ∧
      World.roundTurns world.gateway world.kernel =
        [(.mapping queryFlow, ⟨true, false, false⟩)] ∧
      ServesEach world (world.kernel.readiness (World.interests world.gateway)).2 ∧
      world.poll.kernel.looksAhead = [.failure ⟨"ENOMEM"⟩] ∧
      world.poll.gateway.mailbox.entries.length = 2 := by
  intro script world
  have new : queried.IsNew := World.plain_isNew _
  have sockets : World.interests world.gateway ≠ [] := by decide +kernel
  have first : world.kernel.nextLook = .ordinary := by decide +kernel
  have succeeds : ∀ errno, world.kernel.nextLook ≠ .failure errno := by simp [first]
  obtain ⟨_, looks, serves, _⟩ :=
    one_look_serves_every_socket new (query ++ [.script script []])
  obtain ⟨once, kept, _⟩ := looks sockets
  have ahead : world.poll.kernel.looksAhead = [.failure ⟨"ENOMEM"⟩] := by
    refine (kept.trans once.used).trans ?_
    decide +kernel
  exact ⟨new, sockets, by decide +kernel, serves succeeds, ahead, by decide +kernel⟩

/-- Before there are sockets no look is made: what the script holds for one is still there
when the reply to the query waits, and so it is not served. -/
theorem no_sockets_are_not_looked_at :
    let script : List (CallKind × Outcome) := [(.poll, .failure ⟨"ENOMEM"⟩)]
    let world := after queried [.script script []]
    let later := after queried (.script script [] :: .poll 1 :: query)
    queried.IsNew ∧ world.kernel.looksAhead = [.failure ⟨"ENOMEM"⟩] ∧
      world.poll.kernel.looksAhead = [.failure ⟨"ENOMEM"⟩] ∧
      ¬ LooksOnce world.kernel world.poll.kernel ∧
      later.poll.gateway.mailbox.entries = [] ∧
      (after queried query).poll.gateway.mailbox.entries ≠ [] := by
  intro script world later
  have before : world.kernel.looksAhead = [.failure ⟨"ENOMEM"⟩] := by decide +kernel
  have still : world.poll.kernel.looksAhead = [.failure ⟨"ENOMEM"⟩] := by decide +kernel
  refine ⟨World.plain_isNew _, before, still, fun once => ?_, by decide +kernel,
    by decide +kernel⟩
  have used := once.used
  rw [before, still] at used
  cases used

end Masquerade.Session
