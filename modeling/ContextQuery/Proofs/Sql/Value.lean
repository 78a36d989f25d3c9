import ContextQuery.Sql.Literal

/-!
# The value of a literal

What stands between the quotes of a string literal is read with each pair of quotes as one. Of the
bodies that `literalBody` writes, `value?` finds the characters again, so that no two values are
written in the same way. A body that has a value has its quotes in runs of even length.
-/

namespace ContextQuery.Sql

/-- The value of a literal with this body; `none` if one of the quotes in it stands alone. -/
def value? : List Char → Option (List Char)
  | [] => some []
  | '\'' :: '\'' :: cs => (value? cs).map ('\'' :: ·)
  | '\'' :: _ => none
  | c :: cs => (value? cs).map (c :: ·)

theorem value?_cons {c : Char} (plain : c ≠ '\'') (cs : List Char) :
    value? (c :: cs) = (value? cs).map (c :: ·) :=
  value?.eq_4 c cs (fun _ quote _ => plain quote) plain

/-- A value is found in the body that is written for it. -/
theorem value?_literalBody (value : List Char) : value? (literalBody value) = some value := by
  induction value with
  | nil => rfl
  | cons c cs ih =>
      by_cases quote : c = '\''
      · subst quote
        show (value? (literalBody cs)).map _ = _
        rw [ih]
        rfl
      · rw [literalBody_cons quote, value?_cons quote, ih]
        rfl

/-- Different texts have different literals. -/
theorem literalBody_injective {v w : List Char} (same : literalBody v = literalBody w) : v = w := by
  have value := value?_literalBody v
  rw [same, value?_literalBody] at value
  exact (Option.some.inj value).symm

/-! ## Runs of quotes -/

/-- Wherever quotes stand next to each other, from the first to the last of them, their number is
even. -/
def PairsQuotes (cs : List Char) : Prop :=
  ∀ (before : List Char) (n : Nat) (after : List Char),
    cs = before ++ (List.replicate n '\'' ++ after) → before.getLast? ≠ some '\'' →
      after.head? ≠ some '\'' → n % 2 = 0

/-- What comes after a character other than a quote has a value if the whole has one. -/
theorem exists_value?_of_append :
    ∀ {before rest value : List Char}, value? (before ++ rest) = some value →
      before.getLast? ≠ some '\'' → ∃ v, value? rest = some v
  | [], _, value, read, _ => ⟨value, read⟩
  | [c], rest, value, read, last => by
      have plain : c ≠ '\'' := fun quote => last (congrArg some quote)
      rw [List.singleton_append, value?_cons plain] at read
      obtain ⟨v, read, -⟩ := Option.map_eq_some_iff.mp read
      exact ⟨v, read⟩
  | c :: d :: cs, rest, value, read, last => by
      by_cases quote : c = '\''
      · -- the first of a pair
        subst quote
        by_cases quote : d = '\''
        · subst quote
          obtain ⟨v, read, -⟩ := Option.map_eq_some_iff.mp read
          refine exists_value?_of_append read fun quote => last ?_
          rw [List.getLast?_cons, List.getLast?_cons, quote]
          rfl
        · rw [List.cons_append, List.cons_append, value?] at read
          · cases read
          · exact fun ds same => quote (List.cons.inj same).1
      · rw [List.cons_append, value?_cons quote] at read
        obtain ⟨v, read, -⟩ := Option.map_eq_some_iff.mp read
        refine exists_value?_of_append read fun quote => last ?_
        rw [List.getLast?_cons, quote]
        rfl

/-- Quotes that no other quote follows are an even number. -/
theorem even_of_value? {after : List Char} (ends : after.head? ≠ some '\'') :
    ∀ {n : Nat} {value : List Char},
      value? (List.replicate n '\'' ++ after) = some value → n % 2 = 0
  | 0, _, _ => rfl
  | 1, _, read => by
      rw [List.replicate_one, List.singleton_append, value?] at read
      · cases read
      · rintro cs rfl
        exact ends rfl
  | n + 2, _, read => by
      obtain ⟨v, read, -⟩ := Option.map_eq_some_iff.mp read
      have even := even_of_value? ends read
      omega

/-- Where a body has a value, no quote in it is without its pair. -/
theorem pairsQuotes_of_value? {cs value : List Char} (read : value? cs = some value) :
    PairsQuotes cs := by
  rintro before n after rfl last ends
  obtain ⟨v, run⟩ := exists_value?_of_append read last
  exact even_of_value? ends run

end ContextQuery.Sql
