/-!
# String literals

Inside a standard-conforming string literal every character stands for itself, and only the single
quote has to be written twice.
-/

namespace ContextQuery.Sql

/-- A character as it is written inside a literal. -/
def literalChar (c : Char) : List Char :=
  if c = '\'' then ['\'', '\''] else [c]

/-- Characters as they are written inside a literal. -/
def literalBody (cs : List Char) : List Char :=
  cs.flatMap literalChar

@[simp] theorem literalBody_append (s t : List Char) :
    literalBody (s ++ t) = literalBody s ++ literalBody t :=
  List.flatMap_append

theorem literalBody_cons {c : Char} (plain : c ≠ '\'') (cs : List Char) :
    literalBody (c :: cs) = c :: literalBody cs := by
  simp [literalBody, literalChar, plain]

/-- A body between its quotes. -/
def quoted (body : String) : String :=
  "'" ++ body ++ "'"

end ContextQuery.Sql
