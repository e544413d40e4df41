import Masquerade.Proofs.Gateway.Ignored
import Masquerade.Proofs.Session.Acknowledging

/-!
# Segments without effect

Whatever has happened before, a segment with bytes or the last mark that is out of place is
passed on and has no effect of its own.  A start for a stream that is there has none either
where it asks for a stream; one that acknowledges, in its place, still moves numbers of the
stream.
-/

set_option autoImplicit false

namespace Masquerade.Session

open World (PassesOn)

variable {frame : Bytes} {guest : Mac} {flow : Flow} {segment : Segment} {stream : Stream}

/-! ## Segments out of place -/

/-- A segment out of place changes no stream, this one included, is not answered, and makes
no call but those that relay it; at most it counts as a use of the stream.  None of its other
marks, its acknowledgment and its options matter to that. -/
theorem segments_out_of_place_are_passed_over {start : World} (new : start.IsNew)
    (operations : List Operation) (sender : NicId)
    (submits : Submits (after start operations).gateway.subnet frame guest flow segment)
    (found : (after start operations).gateway.streams.get? flow = some stream)
    (carries : segment.payload ≠ [] ∨ segment.has .fin = true)
    (misplaced : segment.header.sequence ≠ stream.guestNext) :
    let world := after start operations
    let later := world.transmit sender frame
    PassesOn sender frame []
      (if segment.opens then world.gateway.streams else world.gateway.streams.touch flow)
      world later ∧
    (∀ other, later.gateway.streams.get? other = world.gateway.streams.get? other) ∧
    later.gateway.streams.rows.Perm world.gateway.streams.rows := by
  intro world later
  have distinct := (sound_after new operations).streams.distinct
  have passes : PassesOn sender frame [] _ world later :=
    World.passesOn_of_misplaced sender submits found distinct
      (Stream.not_admits_iff.mpr ⟨carries, misplaced⟩)
  have table : later.gateway.streams =
      if segment.opens then world.gateway.streams else world.gateway.streams.touch flow :=
    congrArg Gateway.streams passes.gateway
  refine ⟨passes, fun other => ?_, ?_⟩
  · rw [table]
    split
    · rfl
    · exact FlowTable.get?_touch ..
  · rw [table]
    split
    · exact List.Perm.refl _
    · exact FlowTable.rows_touch_perm flow distinct

/-- What the guest of the conversation has sent before, now with the last mark and with an
acknowledgment of more than there is. -/
def repeatedFrame : Bytes := guestFrame 1001 305420900 [.fin, .ack] [104, 105]

theorem repeated_bytes_are_passed_over :
    conversed.IsNew ∧ ∃ guest segment stream,
      Submits (after conversed conversation).gateway.subnet repeatedFrame guest conversationFlow
        segment ∧
      (after conversed conversation).gateway.streams.get? conversationFlow = some stream ∧
      segment.payload = [104, 105] ∧ segment.header.sequence ≠ stream.guestNext ∧
      stream.unacknowledged = [1, 2, 3] ∧
      ((after conversed conversation).transmit ⟨1⟩ repeatedFrame).gateway.streams.get?
        conversationFlow = some stream := by
  have heard : ((after conversed conversation).hearing ⟨1⟩ repeatedFrame conversationFlow).any
      (fun heard => heard.2.1.payload = [104, 105] ∧
        heard.2.1.header.sequence ≠ heard.1.guestNext ∧ heard.1.unacknowledged = [1, 2, 3]) =
      true := by
    decide +kernel
  obtain ⟨⟨stream, segment, still⟩, found, which⟩ := (Option.any_eq_true ..).mp heard
  obtain ⟨payload, misplaced, waits⟩ := of_decide_eq_true which
  obtain ⟨there, ⟨guest, asked⟩, _⟩ := World.hears_of_hearing found
  have new : conversed.IsNew := World.plain_isNew none
  have submits := submits_iff.mpr asked
  have carries : segment.payload ≠ [] := fun none => by
    rw [payload] at none
    cases none
  have kept := (segments_out_of_place_are_passed_over new conversation ⟨1⟩ submits there
    (Or.inl carries) misplaced).2.1 conversationFlow
  exact ⟨new, guest, segment, stream, submits, there, payload, misplaced, waits,
    kept.trans there⟩

/-! ## Starts for streams that are there -/

/-- In any world: a start for a stream that is there is not answered, opens no socket and
makes no call but those that relay it, and it changes no other stream.  It leaves its own
stream as it is, bytes that wait included, unless it acknowledges and is in place; then it
moves the numbers and the clock of the guest. -/
theorem repeated_starts_are_passed_over (world : World) (sender : NicId)
    (submits : Submits world.gateway.subnet frame guest flow segment)
    (found : world.gateway.streams.get? flow = some stream)
    (starts : segment.has .syn = true) (noReset : segment.has .rst = false) :
    let later := world.transmit sender frame
    let still := stream.afterStart segment
    PassesOn sender frame []
      (if segment.has .ack then (world.gateway.streams.set flow still).touch flow
      else world.gateway.streams) world later ∧
    (∀ other, later.gateway.streams.get? other =
      if flow = other then some still else world.gateway.streams.get? other) ∧
    (segment.has .ack = false ∨ ¬ stream.Admits segment → still = stream) ∧
    { still with
      guestSequence := stream.guestSequence
      guestAcknowledged := stream.guestAcknowledged
      guestClock := stream.guestClock } = stream := by
  intro later still
  have passes : PassesOn sender frame [] _ world later :=
    World.passesOn_of_start sender submits found starts noReset
  refine ⟨passes, fun other => ?_, fun unnoted => ?_, stream.afterStart_same segment⟩
  · rw [passes.gateway, Gateway.passing]
    cases marked : segment.has .ack with
    | true =>
        rw [if_pos rfl, FlowTable.get?_touch, FlowTable.get?_set, found]
        rfl
    | false =>
        have same : still = stream := Stream.afterStart_of_unmarked marked
        rw [if_neg Bool.false_ne_true, same]
        split
        · rename_i here
          rw [← here, found]
        · rfl
  · rcases unnoted with unmarked | misplaced
    · exact Stream.afterStart_of_unmarked unmarked
    · exact if_neg fun noted => misplaced noted.2

def requestFrame : Bytes := guestFrame 1000 0 [.syn] []

theorem repeated_request_is_passed_over :
    conversed.IsNew ∧ ∃ guest segment stream,
      Submits (after conversed conversation).gateway.subnet requestFrame guest conversationFlow
        segment ∧
      (after conversed conversation).gateway.streams.get? conversationFlow = some stream ∧
      segment.has .syn = true ∧ segment.has .rst = false ∧ segment.has .ack = false ∧
      ((after conversed conversation).transmit ⟨1⟩ requestFrame).gateway.streams.get?
        conversationFlow = some stream := by
  have heard : ((after conversed conversation).hearing ⟨1⟩ requestFrame conversationFlow).any
      (fun heard => heard.2.1.has .syn = true ∧ heard.2.1.has .rst = false ∧
        heard.2.1.has .ack = false) = true := by
    decide +kernel
  obtain ⟨⟨stream, segment, still⟩, found, which⟩ := (Option.any_eq_true ..).mp heard
  obtain ⟨starts, noReset, unmarked⟩ := of_decide_eq_true which
  obtain ⟨there, ⟨guest, asked⟩, _⟩ := World.hears_of_hearing found
  have new : conversed.IsNew := World.plain_isNew none
  have submits := submits_iff.mpr asked
  obtain ⟨_, streams, same, _⟩ := repeated_starts_are_passed_over _ ⟨1⟩ submits there starts
    noReset
  have kept := streams conversationFlow
  rw [if_pos rfl, same (Or.inl unmarked)] at kept
  exact ⟨new, guest, segment, stream, submits, there, starts, noReset, unmarked, kept⟩

/-- A start that acknowledges is not passed over: of an answer that the guest has acknowledged,
less is acknowledged afterwards, and the stream does not read any more. -/
theorem acknowledging_start_takes_effect :
    conversed.IsNew ∧ ∃ guest segment stream still,
      Submits (after conversed acknowledgedConversation).gateway.subnet
        (guestFrame 1003 9999 [.syn, .ack] []) guest conversationFlow segment ∧
      segment.has .syn = true ∧ segment.has .rst = false ∧
      (after conversed acknowledgedConversation).gateway.streams.get? conversationFlow =
        some stream ∧
      ((after conversed acknowledgedConversation).transmit ⟨1⟩
        (guestFrame 1003 9999 [.syn, .ack] [])).gateway.streams.get? conversationFlow =
        some still ∧
      stream.guestAcknowledged = stream.outsideNext ∧
      still.guestAcknowledged ≠ still.outsideNext := by
  have heard : ((after conversed acknowledgedConversation).hearing ⟨1⟩
      (guestFrame 1003 9999 [.syn, .ack] []) conversationFlow).any
      (fun heard => heard.2.1.has .syn = true ∧ heard.2.1.has .rst = false ∧
        heard.1.guestAcknowledged = heard.1.outsideNext ∧
        heard.2.2.guestAcknowledged ≠ heard.2.2.outsideNext) = true := by
    decide +kernel
  obtain ⟨⟨stream, segment, still⟩, found, which⟩ := (Option.any_eq_true ..).mp heard
  obtain ⟨starts, noReset, caughtUp, fallenBack⟩ := of_decide_eq_true which
  obtain ⟨there, ⟨guest, asked⟩, stays⟩ := World.hears_of_hearing found
  exact ⟨World.plain_isNew none, guest, segment, stream, still, submits_iff.mpr asked, starts,
    noReset, there, stays, caughtUp, fallenBack⟩

end Masquerade.Session
