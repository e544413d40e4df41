import Masquerade.Proofs.Text

/-!
# Lines and words

The lines of a text are the one row of stretches without a line feed that gives the text when
line feeds are put between them.  The first word of a line stands behind its leading blanks and
ends at the next blank or with the line; the other words are those of what is behind it.  The
blanks around a line make no difference to its words.
-/

set_option autoImplicit false

namespace Masquerade.Text

theorem splitAll_eq_splitOnP (isBreak : Char → Bool) (chars : List Char) :
    splitAll isBreak chars = chars.splitOnP isBreak := by
  induction chars with
  | nil => rfl
  | cons char rest ih =>
      rw [splitAll, ih, List.splitOnP_cons_eq_if_modifyHead]
      cases stretches : rest.splitOnP isBreak with
      | nil => exact absurd stretches (List.splitOnP_ne_nil isBreak rest)
      | cons stretch others => cases isBreak char <;> rfl

/-! ## Lines -/

/-- Line feeds stand between these rows in a text, and nowhere else. -/
structure AreLines (chars : List Char) (rows : List (List Char)) : Prop where
  joined : ['\n'].intercalate rows = chars
  unbroken : ∀ row ∈ rows, '\n' ∉ row
  nonempty : rows ≠ []

theorem lines_eq_splitOn (chars : List Char) : lines chars = chars.splitOn '\n' := by
  rw [lines, splitAll_eq_splitOnP, List.splitOn_eq_splitOnP]

theorem unbroken_lines (chars : List Char) : ∀ row ∈ lines chars, '\n' ∉ row := by
  induction chars with
  | nil => simp [lines, splitAll]
  | cons char rest ih =>
      rw [lines, splitAll]
      cases stretches : splitAll (· == '\n') rest with
      | nil => exact absurd stretches (splitAll_ne_nil _ rest)
      | cons stretch others =>
          have free : ∀ row ∈ stretch :: others, '\n' ∉ row := stretches ▸ ih
          dsimp only
          split
          · exact List.forall_mem_cons.mpr ⟨List.not_mem_nil, free⟩
          · rename_i noBreak
            have away : '\n' ≠ char := fun same => noBreak (beq_iff_eq.mpr same.symm)
            obtain ⟨first, later⟩ := List.forall_mem_cons.mp free
            refine List.forall_mem_cons.mpr ⟨?_, later⟩
            simpa [away] using first

theorem lines_eq_iff {chars : List Char} {rows : List (List Char)} :
    lines chars = rows ↔ AreLines chars rows := by
  constructor
  · rintro rfl
    refine ⟨?_, unbroken_lines chars, splitAll_ne_nil _ chars⟩
    rw [lines_eq_splitOn]
    exact List.intercalate_splitOn '\n'
  · rintro ⟨rfl, unbroken, nonempty⟩
    rw [lines_eq_splitOn]
    exact List.splitOn_intercalate '\n' unbroken nonempty

/-! ## Words -/

/-- Behind its leading blanks a line has this word, and behind the word this rest. -/
structure LeadsWith (line word rest : List Char) : Prop where
  behindBlanks : ∃ lead, line = lead ++ (word ++ rest) ∧ ∀ char ∈ lead, isBlank char = true
  nonempty : word ≠ []
  solid : ∀ char ∈ word, isBlank char = false
  ends : ∀ char ∈ rest.head?, isBlank char = true

theorem words_append_cons {char : Char} (blank : isBlank char = true) (front rest : List Char) :
    words (front ++ char :: rest) = words front ++ words rest := by
  simp only [words, splitAll_eq_splitOnP]
  rw [List.splitOnP_append_cons front rest blank, List.filter_append]

theorem words_behind {lead : List Char} (blank : ∀ char ∈ lead, isBlank char = true)
    (rest : List Char) : words (lead ++ rest) = words rest := by
  induction lead with
  | nil => rfl
  | cons char lead ih =>
      obtain ⟨first, later⟩ := List.forall_mem_cons.mp blank
      have cut : words (char :: (lead ++ rest)) = words (lead ++ rest) :=
        words_append_cons first [] (lead ++ rest)
      exact cut.trans (ih later)

theorem words_of_blank {line : List Char} (blank : ∀ char ∈ line, isBlank char = true) :
    words line = [] := by
  have nothing := words_behind blank []
  rwa [List.append_nil] at nothing

theorem words_before {trail : List Char} (blank : ∀ char ∈ trail, isBlank char = true)
    (front : List Char) : words (front ++ trail) = words front := by
  cases trail with
  | nil => rw [List.append_nil]
  | cons char trail =>
      obtain ⟨first, later⟩ := List.forall_mem_cons.mp blank
      rw [words_append_cons first, words_of_blank later, List.append_nil]

theorem words_trim (line : List Char) : words (trim line) = words line := by
  obtain ⟨⟨lead, trail, split, before, behind⟩, _, _⟩ := isTrimmed_trim line
  calc words (trim line)
      = words (lead ++ trim line) := (words_behind before _).symm
    _ = words (lead ++ trim line ++ trail) := (words_before behind _).symm
    _ = words line := by rw [← split]

theorem words_of_solid {word : List Char} (nonempty : word ≠ [])
    (solid : ∀ char ∈ word, isBlank char = false) : words word = [word] := by
  rw [words, splitAll_eq_splitOnP, List.splitOnP_eq_singleton solid]
  exact List.filter_cons_of_pos (by simpa using nonempty)

theorem LeadsWith.words_eq {line word rest : List Char} (leads : LeadsWith line word rest) :
    words line = word :: words rest := by
  obtain ⟨⟨lead, rfl, blank⟩, nonempty, solid, ends⟩ := leads
  rw [words_behind blank]
  cases rest with
  | nil => rw [List.append_nil, words_of_solid nonempty solid]; rfl
  | cons char rest =>
      have first : isBlank char = true := ends char rfl
      have cut : words (char :: rest) = words rest := words_append_cons first [] rest
      rw [words_append_cons first, words_of_solid nonempty solid, cut]
      rfl

theorem blank_or_leadsWith (line : List Char) :
    (∀ char ∈ line, isBlank char = true) ∨ ∃ word rest, LeadsWith line word rest := by
  obtain ⟨lead, split, blank, first⟩ := exists_trimStart line
  cases core : trimStart line with
  | nil =>
      rw [core, List.append_nil] at split
      exact Or.inl (split ▸ blank)
  | cons start behind =>
      rw [core] at split first
      have solid : isBlank start = false := first start rfl
      refine Or.inr ⟨(start :: behind).takeWhile (!isBlank ·),
        (start :: behind).dropWhile (!isBlank ·), ⟨lead, ?_, blank⟩, ?_, ?_, ?_⟩
      · rw [List.takeWhile_append_dropWhile]
        exact split
      · simp [solid]
      · intro char member
        simpa using List.all_eq_true.mp List.all_takeWhile char member
      · intro char begins
        have stopped := List.head?_dropWhile_not (!isBlank ·) (start :: behind)
        rw [Option.mem_def.mp begins] at stopped
        simpa using stopped

theorem words_eq_cons_iff {line word : List Char} {others : List (List Char)} :
    words line = word :: others ↔ ∃ rest, LeadsWith line word rest ∧ words rest = others := by
  constructor
  · intro found
    rcases blank_or_leadsWith line with blank | ⟨first, rest, leads⟩
    · rw [words_of_blank blank] at found
      cases found
    · rw [leads.words_eq] at found
      obtain ⟨rfl, rfl⟩ := List.cons.inj found
      exact ⟨rest, leads, rfl⟩
  · rintro ⟨rest, leads, rfl⟩
    exact leads.words_eq

end Masquerade.Text
