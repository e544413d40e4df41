import Masquerade.Proofs.Kernel.Sockets

/-!
# Where calls go

Only connecting and sending a datagram name an endpoint.  Opening a socket, closing it and
receiving do not, and opening a stream names the one that it is for, whatever comes of it.
-/

set_option autoImplicit false

namespace Masquerade

def Call.target? : Call → Option Endpoint
  | .connect _ target _ => some target
  | .sendTo _ target _ _ => some target
  | _ => none

theorem Call.TakesFrom.namesNone {socket : SocketId} {call : Call}
    (takes : call.TakesFrom socket) : call.target? = none := by
  obtain ⟨most, result, rfl⟩ := takes
  rfl

namespace Kernel

def MakesOnly (allowed : Call → Prop) (before after : Kernel) : Prop :=
  ∃ calls, Makes calls before after ∧ ∀ call ∈ calls, allowed call

namespace MakesOnly

variable {allowed permitted : Call → Prop} {before between after : Kernel}

theorem refl (allowed : Call → Prop) (kernel : Kernel) : MakesOnly allowed kernel kernel :=
  ⟨[], Makes.refl kernel, by simp⟩

theorem trans (first : MakesOnly allowed before between)
    (second : MakesOnly allowed between after) : MakesOnly allowed before after := by
  obtain ⟨early, made, fine⟩ := first
  obtain ⟨late, madeLater, fineLater⟩ := second
  exact ⟨early ++ late, made.trans madeLater, List.forall_mem_append.mpr ⟨fine, fineLater⟩⟩

theorem mono (only : MakesOnly allowed before after)
    (implies : ∀ call, allowed call → permitted call) : MakesOnly permitted before after := by
  obtain ⟨calls, made, fine⟩ := only
  exact ⟨calls, made, fun call member => implies call (fine call member)⟩

theorem one {call : Call} (made : Makes [call] before after) (fine : allowed call) :
    MakesOnly allowed before after := ⟨[call], made, List.forall_mem_singleton.mpr fine⟩

theorem mem_callsSince (only : MakesOnly allowed before after) {call : Call}
    (member : call ∈ after.callsSince before) : allowed call := by
  obtain ⟨calls, made, fine⟩ := only
  rw [made.callsSince_eq] at member
  exact fine call member

theorem of_makes_nothing (allowed : Call → Prop) (made : Makes [] before after) :
    MakesOnly allowed before after := ⟨[], made, by simp⟩

/-! ## Opening sockets -/

theorem close (kernel : Kernel) (socket : SocketId) (closes : allowed (.close socket)) :
    MakesOnly allowed kernel (kernel.close socket) := .one (kernel.makes_close socket) closes

theorem openSocket (kernel : Kernel) (kind : SocketKind)
    (opens : ∀ result, allowed (.socket kind result)) (closes : ∀ socket, allowed (.close socket)) :
    MakesOnly allowed kernel (kernel.openSocket kind).2 := by
  have given : ∀ {outcome asked}, kernel.answer .socket = (outcome, asked) →
      MakesOnly allowed kernel (asked.withNewSocket kind) := fun answered =>
    (of_makes_nothing allowed (makes_of_answer answered)).trans
      (.one (makes_newSocket _ kind) (opens _))
  generalize run : kernel.openSocket kind = result
  cases openSocket_outcome run with
  | refused answered =>
      exact .one ((makes_of_answer answered).after_nothing (makes_record _ rfl)) (opens _)
  | givenUp answered _ unset =>
      have tried := (given answered).trans (of_makes_nothing allowed (makes_of_answer unset))
      exact tried.trans (.close _ _ (closes _))
  | given answered _ set =>
      exact (given answered).trans (of_makes_nothing allowed (makes_of_answer set))

theorem openStream (kernel : Kernel) (target : Endpoint)
    (opens : ∀ result, allowed (.socket .stream result)) (closes : ∀ socket, allowed (.close socket))
    (connects : ∀ socket result, allowed (.connect socket target result)) :
    MakesOnly allowed kernel (kernel.openStream target).2 := by
  have opening := MakesOnly.openSocket kernel .stream opens closes
  generalize run : kernel.openStream target = result
  cases openStream_outcome run with
  | unopened failed => rwa [failed] at opening
  | begun opened connected =>
      rw [opened] at opening
      exact opening.trans (.one (makes_connect connected) (connects _ _))
  | stopped opened connected =>
      rw [opened] at opening
      have tried := opening.trans (.one (makes_connect connected) (connects _ _))
      exact tried.trans (.close _ _ (closes _))

end MakesOnly

/-! ## Calls that name no endpoint -/

abbrev NamesNone : Kernel → Kernel → Prop := MakesOnly fun call => call.target? = none

theorem namesNone_of_makes_nothing {before after : Kernel} (made : Makes [] before after) :
    NamesNone before after := .of_makes_nothing _ made

theorem namesNone_close (kernel : Kernel) (socket : SocketId) :
    NamesNone kernel (kernel.close socket) := .close kernel socket rfl

theorem namesNone_openSocket (kernel : Kernel) (kind : SocketKind) :
    NamesNone kernel (kernel.openSocket kind).2 :=
  .openSocket kernel kind (fun _ => rfl) fun _ => rfl

theorem namesNone_openBound (kernel : Kernel) (port : UInt16) :
    NamesNone kernel (kernel.openBound port).2 := by
  have opening := kernel.namesNone_openSocket .datagram
  generalize run : kernel.openBound port = result
  cases openBound_outcome run with
  | unopened failed => rwa [failed] at opening
  | @refused socket _ after errno opened answered =>
      rw [opened] at opening
      have asked := opening.trans (namesNone_of_makes_nothing (makes_of_answer answered))
      have refused : Makes [.bind socket port (.error errno)] after
          (after.record (.bind socket port (.error errno))) := makes_record _ rfl
      exact asked.trans (.trans (.one refused rfl) (namesNone_close _ _))
  | @bound socket _ after _ opened answered =>
      rw [opened] at opening
      have asked := opening.trans (namesNone_of_makes_nothing (makes_of_answer answered))
      have named := makes_changeSocket after socket
        ({ · with port := assignedPort socket port }) fun _ => rfl
      exact asked.trans (.one (named.after_nothing (makes_record _ rfl)) rfl)

/-! ## Calls that name one -/

abbrev NamesOnly (named : Call → Prop) : Kernel → Kernel → Prop :=
  MakesOnly fun call => call.target? = none ∨ named call

theorem NamesNone.namesOnly {before after : Kernel} (none : NamesNone before after)
    (named : Call → Prop) : NamesOnly named before after := none.mono fun _ => Or.inl

/-- A stream is connected to its target or to nothing at all. -/
theorem openStream_connects (kernel : Kernel) (target : Endpoint) :
    NamesOnly (fun call => ∃ socket result, call = .connect socket target result) kernel
      (kernel.openStream target).2 :=
  .openStream kernel target (fun _ => Or.inl rfl) (fun _ => Or.inl rfl) fun socket result =>
    Or.inr ⟨socket, result, rfl⟩

end Kernel

end Masquerade
