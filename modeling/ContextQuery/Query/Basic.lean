import ContextQuery.Text.Ascii

/-!
# Query trees

A query is made of search clauses (`index relation term`), joined by boolean operators, possibly
sorted, possibly scoped by namespace declarations. The type admits more trees than a query text can
say; what every tree that was read from a text satisfies is a theorem about the reader.
-/

namespace ContextQuery

/-- The boolean operators, all of one precedence. -/
inductive BooleanOp where
  | and
  | or
  | not
  | prox
  deriving DecidableEq, Repr

namespace BooleanOp

/-- How the operator is written. -/
def keyword : BooleanOp → String
  | .and => "and"
  | .or => "or"
  | .not => "not"
  | .prox => "prox"

/-- How a message names the operator. -/
def name : BooleanOp → String
  | .and => "AND"
  | .or => "OR"
  | .not => "NOT"
  | .prox => "PROX"

/-- The operator that a word stands for, in any case. -/
def ofWord? (word : String) : Option BooleanOp :=
  let w := Text.foldCase word
  if w == "and" then some .and
  else if w == "or" then some .or
  else if w == "not" then some .not
  else if w == "prox" then some .prox
  else none

end BooleanOp

/-- `/name`, or `/name` with a comparison and a value. -/
structure Modifier where
  name : String
  comparison : Option String := none
  value : Option String := none
  deriving DecidableEq, Repr

/-- A comparison sign or a named relation, with its modifiers. -/
structure Relation where
  base : String
  modifiers : List Modifier := []
  deriving DecidableEq, Repr

/-- A search clause. The term keeps its backslashes: what they mask is for the field to say. -/
structure Clause where
  index : String
  relation : Relation
  term : String
  deriving DecidableEq, Repr

/-- An index to sort by, with modifiers such as the direction. -/
structure SortKey where
  base : String
  modifiers : List Modifier := []
  deriving DecidableEq, Repr

/-- A query. -/
inductive Query where
  | clause (c : Clause)
  | boolean (op : BooleanOp) (modifiers : List Modifier) (left right : Query)
  | sorted (subtree : Query) (keys : List SortKey)
  | scoped (name : Option String) (uri : String) (subtree : Query)
  deriving DecidableEq, Repr

/-- The index of a term that is written alone. -/
def serverChoice : String :=
  "cql.serverChoice"

/-- An older name of the same index. -/
def olderServerChoice : String :=
  "srw.serverChoice"

/-- The clause that a term written alone stands for. -/
def Clause.ofTerm (term : String) : Clause :=
  ⟨serverChoice, ⟨"=", []⟩, term⟩

/-- The clause may be written as its term alone. -/
def Clause.isServerChoice (c : Clause) : Bool :=
  (Text.sameFolded c.index serverChoice || Text.sameFolded c.index olderServerChoice) &&
    c.relation.base == "=" && c.relation.modifiers.isEmpty

namespace Query

/-- The query without its sort, looked for below the namespace declarations only. -/
def withoutSort : Query → Query
  | .sorted subtree _ => subtree
  | .scoped name uri subtree => .scoped name uri subtree.withoutSort
  | q => q

/-- The sort keys, looked for below the namespace declarations only. -/
def sortKeys? : Query → Option (List SortKey)
  | .sorted _ keys => some keys
  | .scoped _ _ subtree => subtree.sortKeys?
  | _ => none

end Query

end ContextQuery
