/-!
# Conditions

A condition of an SQL statement as a tree over the conditions that fields give, which are units here.
Its text has the parentheses that `NOT`, `AND` and `OR` need, and no others.
-/

namespace ContextQuery.Sql

/-- A condition. -/
inductive Condition where
  | atom (sql : String)
  | falsum
  | and (left right : Condition)
  | or (left right : Condition)
  | andNot (left right : Condition)
  | not (c : Condition)
  deriving DecidableEq, Repr

/-- The text of a condition. -/
def Condition.text : Condition → String
  | .atom sql => sql
  | .falsum => "FALSE"
  | .and l r => "(" ++ l.text ++ " AND " ++ r.text ++ ")"
  | .or l r => "(" ++ l.text ++ " OR " ++ r.text ++ ")"
  | .andNot l r => "(" ++ l.text ++ " AND NOT " ++ r.text ++ ")"
  | .not c => "NOT (" ++ c.text ++ ")"

end ContextQuery.Sql
