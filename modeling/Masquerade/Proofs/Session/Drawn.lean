import Masquerade.Proofs.Gateway.Spread
import Masquerade.Proofs.Session.History
import Masquerade.Proofs.Session.Steps

/-!
# The number with which a stream begins

A stream begins in the place that the source of random numbers gives next when the
stream is opened.  Nothing else that an opening does draws a number.
-/

set_option autoImplicit false

namespace Masquerade

/-- The place in which a stream begins is the next random number. -/
def Happening.DrawsPlace : Happening → Prop
  | .opened _ stream start _ => stream.outsideNext = start.drawRandom.1
  | .turned _ _ _ _ => True

namespace Kernel

theorem answer_randoms (kernel : Kernel) (kind : CallKind) :
    (kernel.answer kind).2.randoms = kernel.randoms := by
  unfold answer
  split <;> rfl

theorem close_randoms (kernel : Kernel) (socket : SocketId) :
    (kernel.close socket).randoms = kernel.randoms := answer_randoms kernel .fcntl

theorem openSocket_randoms (kernel : Kernel) (kind : SocketKind) :
    (kernel.openSocket kind).2.randoms = kernel.randoms := by
  have asked := kernel.answer_randoms .socket
  generalize run : kernel.openSocket kind = result
  cases openSocket_outcome run with
  | refused answered => rwa [answered] at asked
  | @givenUp _ _ between _ answered _ unset =>
      have settled := (between.withNewSocket kind).answer_randoms .fcntl
      rw [answered] at asked
      rw [unset] at settled
      exact (close_randoms ..).trans (settled.trans asked)
  | @given _ _ between _ answered _ set =>
      have settled := (between.withNewSocket kind).answer_randoms .fcntl
      rw [answered] at asked
      rw [set] at settled
      exact settled.trans asked

theorem openStream_randoms (kernel : Kernel) (target : Endpoint) :
    (kernel.openStream target).2.randoms = kernel.randoms := by
  have opening := kernel.openSocket_randoms .stream
  have tried : ∀ {socket between result after}, kernel.openSocket .stream = (.ok socket, between) →
      between.connect socket target = (result, after) → after.randoms = kernel.randoms := by
    intro socket between result after opened connected
    have connecting : (between.connect socket target).2.randoms = between.randoms :=
      between.answer_randoms .connect
    rw [opened] at opening
    rw [connected] at connecting
    exact connecting.trans opening
  generalize run : kernel.openStream target = result
  cases openStream_outcome run with
  | unopened failed => rwa [failed] at opening
  | begun opened connected => exact tried opened connected
  | stopped opened connected => exact (close_randoms ..).trans (tried opened connected)

theorem drawRandom_congr {kernel other : Kernel} (same : kernel.randoms = other.randoms) :
    kernel.drawRandom.1 = other.drawRandom.1 := by
  unfold drawRandom
  rw [same]
  split <;> rfl

end Kernel

namespace World

variable {world : World} {flow : Flow}

theorem openStream_place (absent : world.gateway.streams.get? flow = none) {sender : NicId}
    {guestMac : Mac} {segment : Segment} {stream : Stream}
    (given : (world.openStream sender guestMac flow segment).gateway.streams.get? flow =
      some stream) : stream.outsideNext = world.kernel.drawRandom.1 := by
  have randoms := world.kernel.openStream_randoms flow.outside
  generalize leads : world.openStream sender guestMac flow segment = after at given
  cases openStream_outcome leads with
  | declined | failed =>
      rw [streams_refuse] at given
      cases absent.symm.trans given
  | taken => cases absent.symm.trans given
  | added _ opened put =>
      have placed := (FlowTable.get?_insert? put flow).trans (if_pos rfl)
      cases placed.symm.trans given
      rw [opened] at randoms
      exact Kernel.drawRandom_congr randoms

theorem segmentHappenings_drawsPlace {sender : NicId} {guestMac : Mac} {segment : Segment} :
    ∀ happening ∈ world.segmentHappenings sender guestMac flow segment,
      happening.DrawsPlace := by
  intro happening member
  cases broughtBy_of_mem member with
  | turned => trivial
  | opened absent added =>
      generalize leads : world.onSegment sender guestMac flow segment = after at added
      cases onSegment_outcome leads with
      | opened => exact openStream_place absent added
      | repeated | passedOver => cases absent.symm.trans added
      | continued found => cases absent.symm.trans found
      | refused =>
          rw [streams_refuse] at added
          cases absent.symm.trans added

theorem serveHappenings_drawsPlace (turns : List (Flow × Kernel.Readiness)) (world : World) :
    ∀ happening ∈ serveHappenings turns world, happening.DrawsPlace := by
  induction turns generalizing world with
  | nil => exact fun happening none => absurd none List.not_mem_nil
  | cons turn rest ih =>
      obtain ⟨flow, ready⟩ := turn
      intro happening member
      rcases List.mem_append.mp member with here | later
      · simp only [streamHappenings] at here
        split at here
        · cases here
        · rw [List.mem_singleton.mp here]
          trivial
      · exact ih _ happening later

theorem pollHappenings_drawsPlace (world : World) :
    ∀ happening ∈ world.pollHappenings, happening.DrawsPlace := by
  simp only [pollHappenings]
  split
  · exact fun happening none => absurd none List.not_mem_nil
  · exact serveHappenings_drawsPlace _ _

end World

namespace Session

theorem history_drawsPlace (operations : List Operation) (world : World) :
    ∀ happening ∈ history world operations, happening.DrawsPlace := by
  refine history_forall (fun _ (kept : True) => kept)
    (fun world sender frame _ happening member => ?_)
    (fun world _ => World.pollHappenings_drawsPlace world) operations trivial
  obtain ⟨_, _, _, _, brought⟩ := World.asked_of_mem_transmitHappenings member
  exact World.segmentHappenings_drawsPlace happening brought

end Session

end Masquerade
