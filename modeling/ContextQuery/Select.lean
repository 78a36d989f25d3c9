import ContextQuery.Query.Basic
import ContextQuery.Registry
import ContextQuery.SchemaName
import ContextQuery.Sql.Condition

/-!
# From queries to statements

A query against a registry says which rows are wanted and in which order. The condition is that of
the fields, joined as the query joins its clauses; a field may put no condition, which counts as true
and is not written. Proximity and modifiers of sort keys other than the two directions cannot be said.
-/

namespace ContextQuery

/-- Why a query cannot be turned into a statement. -/
inductive SelectError where
  | unknownIndex (index : String)
  | unsupportedOperator (op : BooleanOp)
  | unsupportedSortModifier (modifier : String)
  | clause (error : ClauseError)
  | table (fault : NameFault)
  deriving DecidableEq, Repr

/-- The wording of an error. -/
def SelectError.message : SelectError → String
  | .unknownIndex index => "Unsupported CQL index: " ++ index
  | .unsupportedOperator op => "Unsupported operator " ++ op.name
  | .unsupportedSortModifier modifier => "Unsupported sort modifier: " ++ modifier
  | .clause error => error.message
  | .table fault => fault.message

/-- A condition for both operands of an operator, where an absent operand is true; proximity has
none. -/
def BooleanOp.join (op : BooleanOp) (left right : Option Sql.Condition) :
    Except SelectError (Option Sql.Condition) :=
  match op, left, right with
  | .and, some l, some r => .ok (some (.and l r))
  | .and, l, none => .ok l
  | .and, none, r => .ok r
  | .or, some l, some r => .ok (some (.or l r))
  | .or, _, _ => .ok none
  | .not, some l, some r => .ok (some (.andNot l r))
  | .not, none, some r => .ok (some (.not r))
  | .not, _, none => .ok (some .falsum)
  | .prox, _, _ => .error (.unsupportedOperator .prox)

namespace Query

variable (answer : Clause → Except SelectError (Option String))

/-- The condition of a query, from what its clauses are answered: a condition, or none, or that there
is an error. Where an answer comes from makes no difference here. -/
def condition : Query → Except SelectError (Option Sql.Condition)
  | .clause c => do return (← answer c).map .atom
  | .boolean op _ left right => do
    let l ← left.condition
    let r ← right.condition
    op.join l r
  | .sorted subtree _ => subtree.condition
  | .scoped _ _ subtree => subtree.condition

/-- The text of the condition of a query; `none` where it has none. -/
def whereText (q : Query) : Except SelectError (Option String) := do
  return (← q.condition answer).map (·.text)

end Query

namespace Registry

/-- The field under a name, which has to be there. -/
def resolve (r : Registry) (index : String) : Except SelectError Field :=
  match r.find? index with
  | some field => .ok field
  | none => .error (.unknownIndex index)

/-- The condition of a clause, as its field gives it. -/
def clauseCondition (r : Registry) (c : Clause) : Except SelectError (Option String) := do
  let field ← r.resolve c.index
  match field.condition c with
  | .ok sql => return sql
  | .error e => throw (.clause e)

/-- The direction of a sort key: descending if one of its modifiers says so. -/
def direction : List Modifier → Except SelectError String
  | [] => .ok "ASC"
  | m :: ms =>
    if m.name == "sort.ascending" then direction ms
    else if m.name == "sort.descending" then do
      let _ ← direction ms
      return "DESC"
    else .error (.unsupportedSortModifier m.name)

/-- The column of a sort key. -/
def sortColumn (r : Registry) (key : SortKey) : Except SelectError String := do
  return (← r.resolve key.base).column

/-- The column of a sort key with its direction. -/
def sortTerm (r : Registry) (key : SortKey) : Except SelectError String := do
  let column ← r.sortColumn key
  return column ++ " " ++ (← direction key.modifiers)

/-- Texts with a comma and a space between neighbours. -/
def commaSeparated : List String → String
  | [] => ""
  | [s] => s
  | s :: ss => s ++ ", " ++ commaSeparated ss

/-- The text of the condition of a query; `none` where it has none, or where there is no query. -/
def whereText (r : Registry) : Option Query → Except SelectError (Option String)
  | none => .ok none
  | some q => q.whereText r.clauseCondition

/-- The sort keys of a query as columns with directions; `none` where it is not sorted. -/
def orderText (r : Registry) (q : Option Query) : Except SelectError (Option String) :=
  match q.bind Query.sortKeys? with
  | none => .ok none
  | some keys => do return some (commaSeparated (← keys.mapM r.sortTerm))

/-- The sort keys of a query as columns; `none` where it is not sorted. -/
def orderColumns (r : Registry) (q : Option Query) : Except SelectError (Option String) :=
  match q.bind Query.sortKeys? with
  | none => .ok none
  | some keys => do return some (commaSeparated (← keys.mapM r.sortColumn))

/-- A part of a statement after the words that introduce it; nothing where there is no such part. -/
def introduced (words : String) : Option String → String
  | none => ""
  | some sql => words ++ sql

/-- The statement that selects from a table the rows of a query, in its order. -/
def select (r : Registry) (table : String) (q : Option Query) : Except SelectError String := do
  let table ← (checkTableName table).mapError .table
  let condition ← r.whereText q
  let order ← r.orderText q
  return "SELECT * FROM " ++ table ++
    introduced " WHERE " condition ++ introduced " ORDER BY " order

end Registry

end ContextQuery
