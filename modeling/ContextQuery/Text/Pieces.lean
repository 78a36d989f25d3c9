/-!
# Pieces of a text

A text cut at each place where one character stands. What is between two such places is a piece, the
empty text too, so there is one piece more than there are places; put together again with the
character between neighbours, the pieces are the text. A text may also be cut once, where the first
character stands that is not of a class.
-/

namespace ContextQuery.Text

/-- The pieces of a text between the places where `separator` stands. -/
def pieces (separator : Char) : List Char → List (List Char)
  | [] => [[]]
  | c :: cs =>
    if c = separator then [] :: pieces separator cs
    else match pieces separator cs with
      | [] => [[c]]
      | p :: ps => (c :: p) :: ps

theorem pieces_ne_nil (separator : Char) (cs : List Char) : pieces separator cs ≠ [] := by
  cases cs with
  | nil => simp [pieces]
  | cons c cs =>
    unfold pieces
    split
    · simp
    · split <;> simp

/-- Nothing is lost between the pieces. -/
theorem intercalate_pieces (separator : Char) (cs : List Char) :
    [separator].intercalate (pieces separator cs) = cs := by
  induction cs with
  | nil => simp [pieces, List.intercalate]
  | cons c cs ih =>
    obtain ⟨p, ps, hp⟩ := List.exists_cons_of_ne_nil (pieces_ne_nil separator cs)
    rw [hp] at ih
    unfold pieces
    split
    · next h =>
      subst h
      rw [hp, List.intercalate_cons_cons, ih]
      rfl
    · rw [hp]
      cases ps with
      | nil => simpa using ih
      | cons q qs => simpa using ih

/-- Characters before the first place of the separator belong to the first piece. -/
theorem pieces_append {separator : Char} {w : List Char} (free : separator ∉ w) {cs p : List Char}
    {ps : List (List Char)} (cut : pieces separator cs = p :: ps) :
    pieces separator (w ++ cs) = (w ++ p) :: ps := by
  induction w with
  | nil => exact cut
  | cons c w ih =>
    obtain ⟨other, free⟩ := List.ne_and_not_mem_of_not_mem_cons free
    rw [List.cons_append, pieces, if_neg (Ne.symm other), ih free]
    rfl

/-- Texts without the separator are the pieces of what they make with it between neighbours. -/
theorem pieces_intercalate {separator : Char} {w : List Char} {ws : List (List Char)}
    (free : ∀ v ∈ w :: ws, separator ∉ v) :
    pieces separator ([separator].intercalate (w :: ws)) = w :: ws := by
  induction ws generalizing w with
  | nil =>
    have alone := @pieces_append separator w (free w List.mem_cons_self) [] [] [] rfl
    simpa using alone
  | cons v vs ih =>
    have rest := ih fun u member => free u (List.mem_cons_of_mem w member)
    have cut : pieces separator (separator :: [separator].intercalate (v :: vs)) =
        [] :: v :: vs := by
      rw [pieces, if_pos rfl, rest]
    have whole := pieces_append (free w List.mem_cons_self) cut
    rw [List.intercalate_cons_cons]
    simpa using whole

/-- Characters of a class are taken up to the first that is not of it. -/
theorem span_append {p : Char → Bool} {ds cs : List Char} (taken : ∀ d ∈ ds, p d = true)
    (stop : ∀ c ∈ cs.head?, p c = false) :
    (ds ++ cs).takeWhile p = ds ∧ (ds ++ cs).dropWhile p = cs := by
  rw [List.takeWhile_append_of_pos taken, List.dropWhile_append_of_pos taken]
  cases cs with
  | nil => exact ⟨List.append_nil ds, rfl⟩
  | cons c cs =>
    have other := stop c rfl
    rw [List.takeWhile_cons_of_neg (by rw [other]; decide),
      List.dropWhile_cons_of_neg (by rw [other]; decide)]
    exact ⟨List.append_nil ds, rfl⟩

end ContextQuery.Text
