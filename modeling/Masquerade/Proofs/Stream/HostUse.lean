import Masquerade.Proofs.Kernel.LeftAlone
import Masquerade.Proofs.Stream.Move

/-!
# What a turn does with the host

A turn uses the host through the socket of its stream only, and through few functions: a
segment of the guest makes it look whether the socket takes bytes, send and shut down, and
readiness makes it take the error off the socket and receive.  What each of these keeps,
every turn keeps.
-/

set_option autoImplicit false

namespace Masquerade.Stream

open Kernel (LeavesAlone Readiness)

/-- A row of the uses of a socket that a segment of the guest can lead to. -/
inductive Speaks (socket : SocketId) (before : Kernel) : Kernel → Prop
  | nothing : Speaks socket before before
  | looked {kernel : Kernel} (earlier : Speaks socket before kernel) :
      Speaks socket before (kernel.isWritable socket).2
  | sent {kernel : Kernel} (earlier : Speaks socket before kernel) (payload : Bytes) :
      Speaks socket before (kernel.send socket payload).2
  | shut {kernel : Kernel} (earlier : Speaks socket before kernel) :
      Speaks socket before (kernel.shutdownWrite socket).2

inductive Listens (socket : SocketId) (before : Kernel) : Kernel → Prop
  | nothing : Listens socket before before
  | tookError {kernel : Kernel} (earlier : Listens socket before kernel) :
      Listens socket before (kernel.takeError socket).2
  | received {kernel : Kernel} (earlier : Listens socket before kernel) (most : Nat) :
      Listens socket before (kernel.receive socket most).2

variable (stream : Stream) (now rounds : Nat) (segment : Segment) (ready : Readiness)
  {before kernel : Kernel}

/-! ## Segments of the guest -/

section Speaks

variable (earlier : Speaks stream.socket before kernel)
include earlier

theorem speaks_offer (payload : Bytes) :
    Speaks stream.socket before (stream.offer payload kernel).2 := by
  have looked := earlier.looked
  unfold offer
  split
  · exact earlier
  · split
    · rename_i found
      rwa [found] at looked
    · rename_i found
      rw [found] at looked
      have sent := looked.sent payload
      split
      · rename_i taken
        rwa [taken] at sent
      · rename_i failed
        rw [failed] at sent
        split <;> exact sent

theorem speaks_onFin (header : Packet.TcpHeader) :
    Speaks stream.socket before (stream.onFin now header kernel).kernel := by
  unfold onFin
  dsimp only
  split <;> exact earlier.shut

theorem speaks_onPayload :
    Speaks stream.socket before (stream.onPayload now segment kernel).kernel := by
  have offered := speaks_offer stream earlier segment.payload
  unfold onPayload
  split
  · rename_i held
    rwa [held] at offered
  · rename_i failed
    rwa [failed] at offered
  · rename_i count _ taken
    rw [taken] at offered
    dsimp only
    split
    · exact speaks_onFin (stream.advance count) now offered segment.header
    · exact offered

end Speaks

theorem speaks_onSegment (kernel : Kernel) :
    Speaks stream.socket kernel (stream.onSegment now segment kernel).kernel := by
  have silent : Speaks (stream.heard segment).socket kernel kernel := .nothing
  rw [← stream.heard_socket segment]
  unfold onSegment
  split
  · exact silent
  · dsimp only
    split
    · exact silent
    · split
      · exact silent
      · split
        · exact speaks_onPayload (stream.heard segment) now segment silent
        · split
          · exact speaks_onFin (stream.heard segment) now silent segment.header
          · unfold onAcknowledgment
            split <;> exact silent

/-! ## Readiness of the socket -/

theorem listens_onConnecting (kernel : Kernel) :
    Listens stream.socket kernel (stream.onConnecting now ready kernel).kernel := by
  have looked : Listens stream.socket kernel (kernel.takeError stream.socket).2 :=
    .tookError .nothing
  unfold onConnecting
  split
  · exact .nothing
  · split <;> rename_i found <;> rwa [found] at looked

theorem listens_findError (kernel : Kernel) :
    Listens stream.socket kernel (stream.findError ready kernel).2 := by
  have looked : Listens stream.socket kernel (kernel.takeError stream.socket).2 :=
    .tookError .nothing
  unfold findError
  split
  · split <;> rename_i found <;> rwa [found] at looked
  · exact .nothing

theorem listens_onReadable (earlier : Listens stream.socket before kernel) :
    Listens stream.socket before (stream.onReadable now kernel).kernel := by
  have received := earlier.received mostRead
  unfold onReadable
  split
  · rename_i ended
    rwa [ended] at received
  · rename_i came
    rwa [came] at received
  · rename_i failed
    rw [failed] at received
    split <;> exact received

theorem listens_onConnected (kernel : Kernel) :
    Listens stream.socket kernel (stream.onConnected now rounds ready kernel).kernel := by
  have looked := listens_findError stream ready kernel
  unfold onConnected
  split
  · rename_i found
    rwa [found] at looked
  · rename_i found
    rw [found] at looked
    split
    · unfold onWaiting
      split <;> exact looked
    · split
      · exact listens_onReadable stream now looked
      · exact looked

theorem listens_onReady (kernel : Kernel) :
    Listens stream.socket kernel (stream.onReady now rounds ready kernel).kernel := by
  unfold onReady
  split
  · exact listens_onConnecting stream now ready kernel
  · exact listens_onConnected stream now rounds ready kernel
  · exact .nothing
  · exact .nothing

/-! ## Other sockets are left alone -/

section LeftAlone

variable {socket other : SocketId} {before after : Kernel}

theorem Speaks.leavesAlone (speaks : Speaks socket before after) (away : socket ≠ other) :
    LeavesAlone other before after := by
  induction speaks with
  | nothing => exact .refl other before
  | looked _ ih => exact ih.trans (Kernel.leavesAlone_isWritable other socket _)
  | sent _ payload ih => exact ih.trans (Kernel.leavesAlone_send _ away payload)
  | shut _ ih => exact ih.trans (Kernel.leavesAlone_shutdownWrite _ away)

theorem Listens.leavesAlone (listens : Listens socket before after) (away : socket ≠ other) :
    LeavesAlone other before after := by
  induction listens with
  | nothing => exact .refl other before
  | tookError _ ih => exact ih.trans (Kernel.leavesAlone_takeError _ away)
  | received _ most ih => exact ih.trans (Kernel.leavesAlone_receive _ away most)

/-- Whatever gives a stream its turn, nothing is done with any socket but its own. -/
theorem leavesAlone_turn (stream : Stream) (now : Nat) (kernel : Kernel)
    (away : stream.socket ≠ other) (cause : Cause) :
    LeavesAlone other kernel (stream.turn now kernel cause).kernel := by
  cases cause with
  | segment segment => exact (stream.speaks_onSegment now segment kernel).leavesAlone away
  | ready rounds ready => exact (stream.listens_onReady now rounds ready kernel).leavesAlone away

end LeftAlone

end Masquerade.Stream
