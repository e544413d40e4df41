import Masquerade.Proofs.Kernel.Targets

/-!
# Offers

Bytes are offered to the kernel on a stream or in a datagram, whether or not it takes them.
How many offers there are in some calls adds up over what makes them; opening and closing
sockets is none.
-/

set_option autoImplicit false

namespace Masquerade

def Call.isOffer : Call → Bool
  | .send _ _ _ => true
  | .sendTo _ _ _ _ => true
  | _ => false

namespace Kernel

def OffersAtMost (most : Nat) (before after : Kernel) : Prop :=
  ∃ calls, Makes calls before after ∧ calls.countP Call.isOffer ≤ most

namespace OffersAtMost

variable {most more : Nat} {before between after : Kernel}

theorem refl (most : Nat) (kernel : Kernel) : OffersAtMost most kernel kernel :=
  ⟨[], Makes.refl kernel, Nat.zero_le most⟩

theorem trans (first : OffersAtMost most before between)
    (second : OffersAtMost more between after) : OffersAtMost (most + more) before after := by
  obtain ⟨early, made, few⟩ := first
  obtain ⟨late, madeLater, fewLater⟩ := second
  refine ⟨early ++ late, made.trans madeLater, ?_⟩
  rw [List.countP_append]
  exact Nat.add_le_add few fewLater

theorem of_silent (silent : MakesOnly (fun call => call.isOffer = false) before after) :
    OffersAtMost 0 before after := by
  obtain ⟨calls, made, none⟩ := silent
  refine ⟨calls, made, Nat.le_zero.mpr (List.countP_eq_zero.mpr fun call member => ?_)⟩
  rw [none call member]
  exact Bool.false_ne_true

theorem of_makes_nothing (made : Makes [] before after) : OffersAtMost 0 before after :=
  ⟨[], made, Nat.le_refl 0⟩

theorem close (kernel : Kernel) (socket : SocketId) :
    OffersAtMost 0 kernel (kernel.close socket) := .of_silent (.close kernel socket rfl)

theorem openDatagram (kernel : Kernel) : OffersAtMost 0 kernel kernel.openDatagram.2 :=
  .of_silent (.openSocket kernel .datagram (fun _ => rfl) fun _ => rfl)

theorem openStream (kernel : Kernel) (target : Endpoint) :
    OffersAtMost 0 kernel (kernel.openStream target).2 :=
  .of_silent (.openStream kernel target (fun _ => rfl) (fun _ => rfl) fun _ _ => rfl)

theorem sendTo (kernel : Kernel) (socket : SocketId) (target : Endpoint) (bytes : Bytes) :
    OffersAtMost 1 kernel (kernel.sendTo socket target bytes).2 :=
  ⟨_, makes_sendTo rfl, Nat.le_refl 1⟩

end OffersAtMost

end Kernel

end Masquerade
