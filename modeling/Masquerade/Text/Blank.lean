/-!
# Blank characters, lines and words

The characters that Unicode calls white space, and what is built on them: text
without its outer blanks, the lines of a file and the words of a line.
-/

set_option autoImplicit false

namespace Masquerade.Text

/-- The characters with the property `White_Space`. -/
def isBlank (char : Char) : Bool :=
  let code := char.toNat
  (9 ≤ code && code ≤ 13) || code == 0x20 || code == 0x85 || code == 0xA0 || code == 0x1680 ||
    (0x2000 ≤ code && code ≤ 0x200A) || code == 0x2028 || code == 0x2029 || code == 0x202F ||
    code == 0x205F || code == 0x3000

def trimStart (chars : List Char) : List Char :=
  chars.dropWhile isBlank

def trim (chars : List Char) : List Char :=
  (trimStart (trimStart chars).reverse).reverse

/-- The stretches between the characters that satisfy `isBreak`, empty ones
included; a text without such a character is one stretch. -/
def splitAll (isBreak : Char → Bool) : List Char → List (List Char)
  | [] => [[]]
  | char :: rest =>
    match splitAll isBreak rest with
    | [] => [[char]]
    | stretch :: stretches =>
      if isBreak char then [] :: stretch :: stretches else (char :: stretch) :: stretches

/-- The lines of a file, each without its line feed.  A final line feed leaves
an empty line behind it. -/
def lines (chars : List Char) : List (List Char) :=
  splitAll (· == '\n') chars

def words (chars : List Char) : List (List Char) :=
  (splitAll isBlank chars).filter (fun stretch => !stretch.isEmpty)

def cutFirst (mark : Char) : List Char → Option (List Char × List Char)
  | [] => none
  | char :: rest =>
    if char = mark then some ([], rest)
    else (cutFirst mark rest).map fun (before, after) => (char :: before, after)

def cutLast (mark : Char) (chars : List Char) : Option (List Char × List Char) :=
  (cutFirst mark chars.reverse).map fun (after, before) => (before.reverse, after.reverse)

/-! ## What the operations mean -/

theorem splitAll_ne_nil (isBreak : Char → Bool) (chars : List Char) :
    splitAll isBreak chars ≠ [] := by
  cases chars with
  | nil => simp [splitAll]
  | cons char rest =>
    simp only [splitAll]
    split
    · simp
    · split <;> simp

theorem cutFirst_eq_some_iff (mark : Char) (chars before after : List Char) :
    cutFirst mark chars = some (before, after) ↔
      chars = before ++ mark :: after ∧ mark ∉ before := by
  induction chars generalizing before with
  | nil => simp [cutFirst]
  | cons char rest ih =>
    by_cases found : char = mark
    · subst found
      cases before with
      | nil => simp [cutFirst]
      | cons head tail =>
        simp only [cutFirst, if_pos, List.cons_append, List.cons.injEq, List.mem_cons, not_or]
        constructor
        · intro impossible; simp at impossible
        · rintro ⟨⟨same, _⟩, different, _⟩; exact absurd same different
    · simp only [cutFirst, if_neg found, Option.map_eq_some_iff]
      cases before with
      | nil =>
        simp only [List.nil_append, List.cons.injEq, List.not_mem_nil, not_false_eq_true, and_true]
        constructor
        · rintro ⟨⟨_, _⟩, _, impossible⟩; simp at impossible
        · rintro ⟨same, _⟩; exact absurd same found
      | cons head tail =>
        simp only [List.cons_append, List.cons.injEq, List.mem_cons, not_or]
        constructor
        · rintro ⟨⟨found', after'⟩, cut, same⟩
          simp only [Prod.mk.injEq, List.cons.injEq] at same
          obtain ⟨⟨rfl, rfl⟩, rfl⟩ := same
          obtain ⟨rfl, absent⟩ := (ih _).mp cut
          exact ⟨⟨rfl, rfl⟩, fun same => found same.symm, absent⟩
        · rintro ⟨⟨rfl, rfl⟩, _, absent⟩
          exact ⟨(tail, after), (ih tail).mpr ⟨rfl, absent⟩, rfl⟩

end Masquerade.Text
