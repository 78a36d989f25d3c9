/-!
# Patterns with wildcards

In a pattern one character stands for any character and another one for any text, and a backslash
takes the meaning from the character after it. The mask of a query and the pattern of `LIKE` are
both of this kind and differ in the two characters, so that a character may be a wildcard in one of
them and plain in the other. `Wildcards.Matches` says which texts a pattern describes, and there is
one lemma for each way in which a pattern can begin.
-/

namespace ContextQuery.Text

/-- The characters of a text that no backslash stands before, other than the backslashes that do
stand before one. -/
def unescaped : List Char → List Char
  | '\\' :: _ :: cs => unescaped cs
  | c :: cs => c :: unescaped cs
  | [] => []

theorem unescaped_cons {c : Char} (noBackslash : c ≠ '\\') (cs : List Char) :
    unescaped (c :: cs) = c :: unescaped cs :=
  unescaped.eq_2 c cs fun _ _ same => absurd same noBackslash

/-- The two characters of a pattern that have a meaning. The backslash is neither. -/
structure Wildcards where
  anyChar : Char
  anyText : Char
  distinct : anyChar ≠ anyText := by decide
  anyChar_ne : anyChar ≠ '\\' := by decide
  anyText_ne : anyText ≠ '\\' := by decide

namespace Wildcards

/-- The pattern describes the text. A backslash at the end of a pattern stands before nothing, and
such a pattern describes no text. -/
inductive Matches (w : Wildcards) : List Char → List Char → Prop where
  | nil : Matches w [] []
  | escaped (c : Char) {p s : List Char} (rest : Matches w p s) : Matches w ('\\' :: c :: p) (c :: s)
  | anyChar (c : Char) {p s : List Char} (rest : Matches w p s) :
      Matches w (w.anyChar :: p) (c :: s)
  | anyText (skipped : List Char) {p s : List Char} (rest : Matches w p s) :
      Matches w (w.anyText :: p) (skipped ++ s)
  | char {c : Char} {p s : List Char} (noBackslash : c ≠ '\\')
      (plain : c ≠ w.anyChar ∧ c ≠ w.anyText) (rest : Matches w p s) : Matches w (c :: p) (c :: s)

variable {w : Wildcards} {p s : List Char}

/-- The empty pattern describes the empty text alone. -/
theorem matches_nil : w.Matches [] s ↔ s = [] := by
  constructor
  · intro matched
    cases matched
    rfl
  · rintro rfl
    exact .nil

/-- A character after a backslash stands for itself, whatever character it is. -/
theorem matches_escaped {c : Char} :
    w.Matches ('\\' :: c :: p) s ↔ ∃ rest, s = c :: rest ∧ w.Matches p rest := by
  constructor
  · intro matched
    generalize same : '\\' :: c :: p = q at matched
    cases matched with
    | nil => cases same
    | escaped d rest =>
        cases same
        exact ⟨_, rfl, rest⟩
    | anyChar d rest => exact absurd (List.cons.inj same).1.symm w.anyChar_ne
    | anyText skipped rest => exact absurd (List.cons.inj same).1.symm w.anyText_ne
    | char noBackslash plain rest => exact absurd (List.cons.inj same).1.symm noBackslash
  · rintro ⟨rest, rfl, matched⟩
    exact .escaped c matched

theorem matches_anyChar :
    w.Matches (w.anyChar :: p) s ↔ ∃ c rest, s = c :: rest ∧ w.Matches p rest := by
  constructor
  · intro matched
    generalize same : w.anyChar :: p = q at matched
    cases matched with
    | nil => cases same
    | escaped d rest => exact absurd (List.cons.inj same).1 w.anyChar_ne
    | anyChar d rest =>
        obtain ⟨-, rfl⟩ := List.cons.inj same
        exact ⟨d, _, rfl, rest⟩
    | anyText skipped rest => exact absurd (List.cons.inj same).1 w.distinct
    | char noBackslash plain rest => exact absurd (List.cons.inj same).1.symm plain.1
  · rintro ⟨c, rest, rfl, matched⟩
    exact .anyChar c matched

theorem matches_anyText :
    w.Matches (w.anyText :: p) s ↔ ∃ skipped rest, s = skipped ++ rest ∧ w.Matches p rest := by
  constructor
  · intro matched
    generalize same : w.anyText :: p = q at matched
    cases matched with
    | nil => cases same
    | escaped d rest => exact absurd (List.cons.inj same).1 w.anyText_ne
    | anyChar d rest => exact absurd (List.cons.inj same).1.symm w.distinct
    | anyText skipped rest =>
        obtain ⟨-, rfl⟩ := List.cons.inj same
        exact ⟨skipped, _, rfl, rest⟩
    | char noBackslash plain rest => exact absurd (List.cons.inj same).1.symm plain.2
  · rintro ⟨skipped, rest, rfl, matched⟩
    exact .anyText skipped matched

/-- A character without a meaning stands for itself. -/
theorem matches_char {c : Char} (noBackslash : c ≠ '\\') (plain : c ≠ w.anyChar ∧ c ≠ w.anyText) :
    w.Matches (c :: p) s ↔ ∃ rest, s = c :: rest ∧ w.Matches p rest := by
  constructor
  · intro matched
    generalize same : c :: p = q at matched
    cases matched with
    | nil => cases same
    | escaped d rest => exact absurd (List.cons.inj same).1 noBackslash
    | anyChar d rest => exact absurd (List.cons.inj same).1 plain.1
    | anyText skipped rest => exact absurd (List.cons.inj same).1 plain.2
    | char noBackslash plain rest =>
        cases same
        exact ⟨_, rfl, rest⟩
  · rintro ⟨rest, rfl, matched⟩
    exact .char noBackslash plain matched

end Wildcards

end ContextQuery.Text
