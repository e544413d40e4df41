import Masquerade.Proofs.Gateway.Made
import Masquerade.Proofs.Stream.Waiting

/-!
# What a round does to streams

If the look of a round succeeds, each stream that is there has one turn; if it fails,
none has.  Nothing is read from the socket of a stream but in these turns.
-/

set_option autoImplicit false

namespace Masquerade

open Kernel (Makes Readiness)

def readingsIn (happenings : List Happening) : List Call :=
  happenings.flatMap fun happening => happening.calls.filter Call.isReceive

namespace World

def looks (world : World) : Bool := (world.kernel.readiness (interests world.gateway)).1.isOk

/-- In the round that begins in this world the stream of a flow has its turn, with what
was found out about its socket. -/
structure HasTurn (world : World) (flow : Flow) (stream : Stream) (own : Readiness)
    (start : Kernel) : Prop where
  there : world.gateway.streams.get? flow = some stream
  look : ∃ ready looked, world.kernel.readiness (interests world.gateway) = (.ok ready, looked) ∧
    own = looked.readinessOf ⟨stream.socket, true, true⟩
  turn : ∃ now, happeningsOf flow world.pollHappenings =
    [.turned (.ready world.gateway.retransmitRounds own) now stream start]

section Turns

variable {world : World} {flow : Flow} {stream : Stream}

theorem pollHappenings_of_not_looks (fails : world.looks = false) : world.pollHappenings = [] := by
  cases world.round_outcome with
  | failed _ _ silent => exact silent
  | served look =>
      rw [looks, look] at fails
      cases fails

theorem exists_look (succeeds : world.looks = true) : ∃ ready looked,
    world.kernel.readiness (interests world.gateway) = (.ok ready, looked) := by
  cases world.round_outcome with
  | served look => exact ⟨_, _, look⟩
  | failed look =>
      rw [looks, look] at succeeds
      cases succeeds

theorem HasTurn.mem {own : Readiness} {start : Kernel}
    (turns : world.HasTurn flow stream own start) :
    ∃ now, happeningsOf flow world.pollHappenings =
        [.turned (.ready world.gateway.retransmitRounds own) now stream start] ∧
      .turned (.ready world.gateway.retransmitRounds own) now stream start ∈
        world.pollHappenings := by
  obtain ⟨now, one⟩ := turns.turn
  have here : Happening.turned (.ready world.gateway.retransmitRounds own) now stream start ∈
      happeningsOf flow world.pollHappenings := one ▸ List.mem_singleton_self _
  exact ⟨now, one, List.mem_of_mem_filter here⟩

theorem hasTurn_of_looks (sound : world.Sound) (succeeds : world.looks = true)
    (found : world.gateway.streams.get? flow = some stream) :
    ∃ own start, world.HasTurn flow stream own start := by
  obtain ⟨ready, looked, look⟩ := exists_look succeeds
  obtain ⟨now, start, turned⟩ := happeningsOf_pollHappenings sound look found
  exact ⟨_, start, found, ⟨ready, looked, look, rfl⟩, now, turned⟩

theorem hasTurn_of_mem (sound : world.Sound) {happening : Happening}
    (member : happening ∈ world.pollHappenings) :
    ∃ flow stream own start now, world.HasTurn flow stream own start ∧
      happening = .turned (.ready world.gateway.retransmitRounds own) now stream start := by
  obtain ⟨cause, now, stream, start, rfl, found⟩ := turned_of_mem_pollHappenings sound member
  have succeeds : world.looks = true := by
    by_contra fails
    rw [pollHappenings_of_not_looks (Bool.eq_false_iff.mpr fails)] at member
    cases member
  obtain ⟨own, began, turns⟩ := hasTurn_of_looks sound succeeds found
  obtain ⟨time, one⟩ := turns.turn
  have inside : Happening.turned cause now stream start ∈ happeningsOf
      (Happening.turned cause now stream start).stream.flow world.pollHappenings :=
    List.mem_filter.mpr ⟨member, decide_eq_true rfl⟩
  rw [one, List.mem_singleton] at inside
  exact ⟨_, stream, own, began, time, turns, inside⟩

end Turns

/-! ## What is read in a round -/

def ReadsIn (happenings : List Happening) (before after : World) : Prop :=
  ∃ calls, Makes calls before.kernel after.kernel ∧
    calls.filter Call.isReceive = readingsIn happenings

namespace ReadsIn

variable {first second : List Happening} {before between after : World}

theorem nothing {calls : List Call} (made : Makes calls before.kernel after.kernel)
    (silent : ∀ call ∈ calls, call.isReceive = false) : ReadsIn [] before after := by
  refine ⟨calls, made, List.filter_eq_nil_iff.mpr fun call member => ?_⟩
  rw [silent call member]
  exact Bool.false_ne_true

theorem trans (start : ReadsIn first before between) (rest : ReadsIn second between after) :
    ReadsIn (first ++ second) before after := by
  obtain ⟨early, made, reads⟩ := start
  obtain ⟨late, madeLater, readsLater⟩ := rest
  refine ⟨early ++ late, made.trans madeLater, ?_⟩
  rw [List.filter_append, reads, readsLater, readingsIn, readingsIn, readingsIn,
    List.flatMap_append]

theorem foldl {Item : Type} {serve : World → Item → World}
    (each : ∀ world item, ReadsIn [] world (serve world item)) (items : List Item)
    (world : World) : ReadsIn [] world (items.foldl serve world) := by
  induction items generalizing world with
  | nil => exact nothing (Makes.refl _) (by simp)
  | cons item rest ih => exact (each world item).trans (ih (serve world item))

end ReadsIn

theorem ReadsIn.of_takes {calls : List Call} {before after : World}
    (made : Makes calls before.kernel after.kernel)
    (takes : ∀ call ∈ calls, ∃ socket, call.TakesFrom socket) : ReadsIn [] before after := by
  refine .nothing made fun call member => ?_
  obtain ⟨socket, its⟩ := takes call member
  exact its.silent

theorem readsIn_serveMapping (world : World) (flow : Flow) (ready : Readiness) :
    ReadsIn [] world (world.serveMapping flow ready) := by
  obtain ⟨calls, made, takes⟩ := serveMapping_takes world flow ready
  exact .of_takes made takes

theorem readsIn_dropStream (world : World) (flow : Flow) :
    ReadsIn [] world (world.dropStream flow) := by
  unfold dropStream
  split
  · exact .nothing (Makes.refl _) (by simp)
  · exact .nothing (Kernel.makes_close ..) (by simp [Call.isReceive])

theorem ReadsIn.dropped {happenings : List Happening} {before after : World}
    (reads : ReadsIn happenings before after) (flow : Flow) :
    ReadsIn happenings before (after.dropStream flow) := by
  have whole := reads.trans (readsIn_dropStream after flow)
  rwa [List.append_nil] at whole

theorem readsIn_keepTurn {world : World} {flow : Flow} {owner : NicId} {stream : Stream}
    {now : Nat} {cause : Stream.Cause} {turn : Turn}
    (turned : stream.turn now world.kernel cause = turn) :
    ReadsIn [.turned cause now stream world.kernel] world (world.keepTurn flow owner turn) := by
  subst turned
  obtain ⟨calls, made, _⟩ := stream.turn_move now world.kernel cause
  refine ⟨calls, by rwa [kernel_keepTurn], ?_⟩
  rw [readingsIn, List.flatMap_singleton]
  exact congrArg (List.filter Call.isReceive) made.callsSince_eq.symm

theorem readsIn_serveStream (world : World) (flow : Flow) (ready : Readiness) :
    ReadsIn (world.streamHappenings flow ready) world (world.serveStream flow ready) := by
  generalize leads : world.serveStream flow ready = after
  cases serveStream_outcome leads with
  | idle absent =>
      rw [streamHappenings_of_none absent]
      exact .nothing (Makes.refl _) (by simp)
  | kept found turned =>
      rw [streamHappenings_of_some found]
      exact readsIn_keepTurn turned
  | dropped found turned =>
      rw [streamHappenings_of_some found]
      exact (readsIn_keepTurn turned).dropped flow

theorem readsIn_serveStreams (turns : List (Flow × Readiness)) (world : World) :
    ReadsIn (serveHappenings turns world) world
      (turns.foldl (fun world (flow, ready) => world.serveStream flow ready) world) := by
  induction turns generalizing world with
  | nil => exact .nothing (Makes.refl _) (by simp)
  | cons turn rest ih =>
      obtain ⟨flow, ready⟩ := turn
      exact (readsIn_serveStream world flow ready).trans (ih (world.serveStream flow ready))

theorem readsIn_serveRelay (world : World) (ready : List Readiness) :
    ReadsIn [] world (world.serveRelay ready) := by
  obtain ⟨calls, made, takes⟩ := serveRelay_takes world ready
  exact .of_takes made takes

/-- All that is read from streams in a round is read in their turns. -/
theorem readsIn_poll (world : World) : ReadsIn world.pollHappenings world world.poll := by
  cases world.round_outcome with
  | failed _ made silent leads =>
      rw [silent, leads]
      exact .nothing made (by simp)
  | @served ready looked _ made turns leads =>
      rw [turns, leads]
      have began : ReadsIn [] world (world.withKernel looked) := .nothing made (by simp)
      have mapped := ReadsIn.foldl (fun world (turn : Flow × Readiness) =>
          readsIn_serveMapping world turn.1 turn.2)
        (world.gateway.mappings.flows.zip ready) (world.withKernel looked)
      have served := (began.trans mapped).trans (readsIn_serveStreams
        (world.gateway.streams.flows.zip (ready.drop world.gateway.mappings.flows.length)) _)
      have whole := served.trans (readsIn_serveRelay _
        ((ready.drop world.gateway.mappings.flows.length).drop
          world.gateway.streams.flows.length))
      rw [List.append_nil] at whole
      exact whole

/-- A round reads from a socket just if this is the socket of a stream that has a turn in
which it reads. -/
theorem poll_receives_iff {world : World} (sound : world.Sound) (socket : SocketId) :
    (∃ call ∈ world.poll.kernel.callsSince world.kernel,
      call.isReceive = true ∧ call.socket? = some socket) ↔
    ∃ flow stream own start, world.HasTurn flow stream own start ∧ stream.socket = socket ∧
      stream.Reads own start := by
  obtain ⟨calls, made, reads⟩ := readsIn_poll world
  have among : ∀ call, call ∈ calls ∧ call.isReceive = true ↔
      ∃ happening ∈ world.pollHappenings, call ∈ happening.calls ∧ call.isReceive = true := by
    intro call
    rw [← List.mem_filter, reads, readingsIn, List.mem_flatMap]
    simp only [List.mem_filter]
  rw [made.callsSince_eq]
  constructor
  · rintro ⟨call, member, receives, about⟩
    obtain ⟨happening, happens, called, _⟩ := (among call).mp ⟨member, receives⟩
    obtain ⟨flow, stream, own, start, now, turns, rfl⟩ := hasTurn_of_mem sound happens
    rcases stream.onReady_calls now world.gateway.retransmitRounds own start with
      ⟨silent, _⟩ | ⟨reads, result, one⟩
    · have none : Happening.calls (.turned (.ready world.gateway.retransmitRounds own) now stream
          start) = [] := silent.callsSince_eq
      rw [none] at called
      cases called
    · have only : Happening.calls (.turned (.ready world.gateway.retransmitRounds own) now stream
          start) = [.receive stream.socket Stream.mostRead result] := one.callsSince_eq
      rw [only, List.mem_singleton] at called
      subst called
      exact ⟨flow, stream, own, start, turns, Option.some.inj about, reads⟩
  · rintro ⟨flow, stream, own, start, turns, rfl, reads⟩
    obtain ⟨now, _, happens⟩ := turns.mem
    rcases stream.onReady_calls now world.gateway.retransmitRounds own start with
      ⟨_, not⟩ | ⟨_, result, received⟩
    · exact absurd reads not
    · have only : Happening.calls (.turned (.ready world.gateway.retransmitRounds own) now stream
          start) = [.receive stream.socket Stream.mostRead result] := received.callsSince_eq
      have called : Call.receive stream.socket Stream.mostRead result ∈ calls :=
        ((among _).mpr ⟨_, happens, only ▸ List.mem_singleton_self _, rfl⟩).1
      exact ⟨_, called, rfl, rfl⟩

end World

end Masquerade
