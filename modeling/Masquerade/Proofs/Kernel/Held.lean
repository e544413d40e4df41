import Masquerade.Proofs.Kernel.Sockets

/-!
# Holding sockets

A list of sockets is held in a kernel when the open sockets are exactly those of
the list, each named once.  Opening a socket adds it to what is held, closing one
takes it away, and nothing else changes what is held.
-/

set_option autoImplicit false

namespace Masquerade.Kernel

/-- Exactly these sockets are open, and none is named twice. -/
structure Held (kernel : Kernel) (holders : List SocketId) : Prop where
  distinct : holders.Nodup
  isOpen_iff_mem : ∀ socket, kernel.IsOpen socket ↔ socket ∈ holders

theorem isOpen_lt {kernel : Kernel} {socket : SocketId} (isOpen : kernel.IsOpen socket) :
    socket < kernel.sockets.length := by
  obtain ⟨found, here, _⟩ := isOpen
  exact (List.getElem?_eq_some_iff.mp here).1

theorem isOpen_congr {before after : Kernel} (same : after.openFlags = before.openFlags)
    (socket : SocketId) : after.IsOpen socket ↔ before.IsOpen socket := by
  rw [isOpen_iff, isOpen_iff, same]

theorem length_sockets_le {calls : List Call} {before after : Kernel}
    (made : Makes calls before after) : before.sockets.length ≤ after.sockets.length := by
  have grows : ∀ (calls : List Call) (flags : List Bool),
      flags.length ≤ (calls.foldl (fun flags call => call.mark flags) flags).length := by
    intro calls
    induction calls with
    | nil => exact fun flags => Nat.le_refl _
    | cons call rest ih =>
        intro flags
        refine Nat.le_trans ?_ (ih (call.mark flags))
        unfold Call.mark
        split <;> simp
  rw [← length_openFlags, ← length_openFlags, made.flags]
  exact grows calls before.openFlags

/-! ## What was open and is not -/

theorem close_of_mark_false {calls : List Call} {flags : List Bool} {socket : SocketId}
    (shut : (calls.foldl (fun flags call => call.mark flags) flags)[socket]? = some false) :
    flags[socket]? = some false ∨ .close socket ∈ calls := by
  induction calls generalizing flags with
  | nil => exact Or.inl shut
  | cons call rest ih =>
      rcases ih shut with before | later
      · by_cases closes : call = .close socket
        · exact Or.inr (closes ▸ List.mem_cons_self ..)
        · left
          dsimp only at before
          unfold Call.mark at before
          split at before
          · rw [List.getElem?_append] at before
            split at before
            · exact before
            · simp [List.getElem?_singleton] at before
          · rename_i handle
            have away : handle ≠ socket := fun same => closes (same ▸ rfl)
            rwa [List.getElem?_set_ne away] at before
          · exact before
      · exact Or.inr (List.mem_cons_of_mem _ later)

theorem Makes.close_mem {calls : List Call} {before after : Kernel} {socket : SocketId}
    (made : Makes calls before after)
    (was : before.IsOpen socket ∨ before.sockets.length ≤ socket)
    (given : socket < after.sockets.length) (shut : ¬ after.IsOpen socket) :
    .close socket ∈ calls := by
  rw [isOpen_iff] at shut
  have flag : after.openFlags[socket]? = some false := by
    rw [← length_openFlags] at given
    rw [List.getElem?_eq_getElem given] at shut ⊢
    simpa using shut
  rw [made.flags] at flag
  rcases close_of_mark_false flag with before | closed
  · rcases was with wasOpen | later
    · rw [isOpen_iff, before] at wasOpen
      cases wasOpen
    · rw [← length_openFlags] at later
      rw [List.getElem?_eq_none later] at before
      cases before
  · exact closed

/-! ## Closed for good -/

theorem not_isOpen_close (kernel : Kernel) (socket : SocketId) :
    ¬ (kernel.close socket).IsOpen socket := by
  have flags : (kernel.close socket).openFlags = kernel.openFlags.set socket false :=
    (makes_close kernel socket).flags
  rw [isOpen_iff, flags, List.getElem?_set, if_pos rfl]
  split <;> simp

theorem mark_of_shut {flags : List Bool} {socket : SocketId}
    (shut : flags[socket]? = some false) (call : Call) :
    (call.mark flags)[socket]? = some false := by
  obtain ⟨inside, _⟩ := List.getElem?_eq_some_iff.mp shut
  unfold Call.mark
  split
  · rw [List.getElem?_append_left inside]
    exact shut
  · rw [List.getElem?_set]
    split
    · rename_i same
      subst same
      exact if_pos inside
    · exact shut
  · exact shut

/-- A socket that was closed is never open again. -/
theorem Makes.not_isOpen {calls : List Call} {before after : Kernel} {socket : SocketId}
    (made : Makes calls before after) (given : socket < before.sockets.length)
    (shut : ¬ before.IsOpen socket) : ¬ after.IsOpen socket := by
  have stays : ∀ (calls : List Call) (flags : List Bool), flags[socket]? = some false →
      (calls.foldl (fun flags call => call.mark flags) flags)[socket]? = some false := by
    intro calls
    induction calls with
    | nil => exact fun _ shut => shut
    | cons call rest ih => exact fun flags shut => ih (call.mark flags) (mark_of_shut shut call)
  rw [isOpen_iff] at shut
  have flag : before.openFlags[socket]? = some false := by
    rw [← length_openFlags] at given
    rw [List.getElem?_eq_getElem given] at shut ⊢
    simpa using shut
  rw [isOpen_iff, made.flags, stays calls _ flag]
  simp

/-! ## What changes what is held -/

namespace Held

variable {before after : Kernel} {holders : List SocketId}

theorem perm {others : List SocketId} (held : before.Held holders) (same : holders.Perm others) :
    before.Held others :=
  ⟨same.nodup_iff.mp held.distinct,
    fun socket => (held.isOpen_iff_mem socket).trans same.mem_iff⟩

theorem lt (held : before.Held holders) {socket : SocketId} (member : socket ∈ holders) :
    socket < before.sockets.length := isOpen_lt ((held.isOpen_iff_mem socket).mpr member)

theorem of_same_flags (held : before.Held holders) (same : after.openFlags = before.openFlags) :
    after.Held holders :=
  ⟨held.distinct, fun socket => (isOpen_congr same socket).trans (held.isOpen_iff_mem socket)⟩

theorem kept {calls : List Call} (held : before.Held holders) (made : Makes calls before after)
    (keep : ∀ call ∈ calls, call.keepsSockets = true) : after.Held holders :=
  held.of_same_flags (made.flags_of_keepsSockets keep)

theorem missed {calls : List Call} (held : before.Held holders) (made : Makes calls before after)
    (fruitless : Call.Fruitless before.sockets.length calls) : after.Held holders := by
  rcases fruitless.flags before.length_openFlags with ⟨same, _⟩ | extra
  · exact held.of_same_flags (made.flags.trans same)
  · refine ⟨held.distinct, fun socket => ?_⟩
    rw [← held.isOpen_iff_mem, isOpen_iff, isOpen_iff, made.flags, extra, List.getElem?_append]
    split
    · exact Iff.rfl
    · rename_i beyond
      rw [List.getElem?_eq_none (Nat.le_of_not_lt beyond)]
      simp [List.getElem?_singleton]

theorem given {kind : SocketKind} {socket : SocketId} {calls : List Call}
    (held : before.Held holders) (fresh : socket = before.sockets.length)
    (made : Makes (.socket kind (.ok socket) :: calls) before after)
    (keep : ∀ call ∈ calls, call.keepsSockets = true) : after.Held (socket :: holders) := by
  have flags : after.openFlags = before.openFlags ++ [true] := by
    rw [made.flags, List.foldl_cons, Call.foldl_mark_of_keepsSockets keep]
    rfl
  constructor
  · refine List.nodup_cons.mpr ⟨fun member => ?_, held.distinct⟩
    exact Nat.lt_irrefl _ (fresh ▸ held.lt member)
  · intro other
    rw [isOpen_iff, flags, List.mem_cons, ← held.isOpen_iff_mem, isOpen_iff, fresh,
      List.getElem?_append, length_openFlags]
    split
    · rename_i inside
      have away : other ≠ before.sockets.length := Nat.ne_of_lt inside
      simp [away]
    · rename_i beyond
      have past : before.sockets.length ≤ other := Nat.le_of_not_lt beyond
      have nothing : before.openFlags[other]? = none := List.getElem?_eq_none (by simpa using past)
      have first : other - before.sockets.length = 0 ↔ other = before.sockets.length :=
        ⟨fun zero => Nat.le_antisymm (Nat.le_of_sub_eq_zero zero) past,
          fun same => same ▸ Nat.sub_self _⟩
      rw [nothing, List.getElem?_singleton]
      simp [first]

theorem closed {socket : SocketId} (held : before.Held (socket :: holders)) :
    (before.close socket).Held holders := by
  obtain ⟨absent, distinct⟩ := List.nodup_cons.mp held.distinct
  refine ⟨distinct, fun other => ?_⟩
  have flags : (before.close socket).openFlags = before.openFlags.set socket false :=
    (makes_close before socket).flags
  have inside := held.lt (List.mem_cons_self ..)
  rw [isOpen_iff, flags, List.getElem?_set, length_openFlags]
  split
  · rename_i here
    subst here
    simpa [inside] using absent
  · rename_i away
    rw [← isOpen_iff, held.isOpen_iff_mem, List.mem_cons, or_iff_right fun same => away same.symm]

end Held

end Masquerade.Kernel
