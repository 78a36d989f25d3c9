import ContextQuery.Query.Canonical
import ContextQuery.Query.Parser

/-!
# One query or two

A search takes up to two queries. Two are combined so that a row has to meet both: the first is read,
loses its sort and is written again in canonical form, and the text of the second is put beside it,
each between parentheses. The whole is then read as one query, so a fault in the second is reported
by its position there.
-/

namespace ContextQuery.Query

/-- The text that says both the first query and the second. -/
def combinedText (first : Query) (second : String) : String :=
  "(" ++ first.withoutSort.canonical ++ ") AND (" ++ second ++ ")"

/-- Reads up to two queries as one; `none` where there is neither. -/
def combine : Option String → Option String → Except ParseError (Option Query)
  | none, none => .ok none
  | some q, none => do return some (← parse q)
  | none, some q => do return some (← parse q)
  | some first, some second => do
    let q ← parse first
    return some (← parse (combinedText q second))

end ContextQuery.Query
