import ContextQuery.Field.Mask
import ContextQuery.Field.Numeral
import ContextQuery.Field.Timestamp
import ContextQuery.Field.Uuid
import ContextQuery.Query.Canonical

/-!
# Fields

A field is a column that can be searched, with the type that says what its search clauses mean.
`Field.condition` turns a clause into an SQL condition on the column, or into no condition at all, or
refuses it. What a type looks at first decides which of two faults is reported: the value before the
relation.
-/

namespace ContextQuery

/-- How far a text field compares: not at all, with whole texts, or also with patterns. -/
inductive Matching where
  | disabled
  | exact
  | like
  deriving DecidableEq, Repr

/-- The ways in which a text field can be searched. `language` names the text search configuration
where full-text search is on. -/
structure TextSearch where
  matching : Matching := .disabled
  language : Option String := none
  deriving DecidableEq, Repr

namespace TextSearch

/-- Whole texts can be compared. -/
def isExact (t : TextSearch) : Bool :=
  t.matching != .disabled

/-- Patterns can be matched. -/
def isLike (t : TextSearch) : Bool :=
  t.matching == .like

/-- Whole texts can be compared, besides what is possible already. -/
def withExact (t : TextSearch) : TextSearch :=
  { t with matching := if t.matching = .like then .like else .exact }

/-- Patterns can be matched, besides what is possible already. -/
def withLike (t : TextSearch) : TextSearch :=
  { t with matching := .like }

/-- Full-text search in the named configuration. -/
def withFullText (t : TextSearch) (language : String) : TextSearch :=
  { t with language := some language }

/-- The configuration used where none is named. -/
def defaultLanguage : String :=
  "simple"

/-- The name of the configuration as the body of a literal. -/
def languageBody? (t : TextSearch) : Option String :=
  t.language.map fun l => String.ofList (Sql.literalBody l.toList)

end TextSearch

/-- The types of fields. -/
inductive FieldType where
  | alwaysMatches
  | boolean
  | number
  | uuid
  | timestamp
  | text (search : TextSearch)
  deriving DecidableEq, Repr

/-- A column with its type. -/
structure Field where
  column : String
  kind : FieldType
  deriving DecidableEq, Repr

/-- Why a field refuses a clause. -/
inductive ClauseFault where
  | unsupportedOperator
  | noNullTest
  | badBoolean
  | badNumeric
  | badUuid
  | mask (fault : Mask.Fault)
  deriving DecidableEq, Repr

/-- The wording of a fault, without the clause. -/
def ClauseFault.message : ClauseFault → String
  | .unsupportedOperator => "Unsupported operator"
  | .noNullTest => "= \"\" (not null test) is not supported"
  | .badBoolean => "Bad boolean"
  | .badNumeric => "Bad numeric"
  | .badUuid => "Invalid UUID"
  | .mask fault => fault.message

/-- A refused clause, or a term that is no timestamp. -/
inductive ClauseError where
  | refused (fault : ClauseFault) (clause : Clause)
  | notATimestamp (value : String) (fault : Timestamp.Fault)
  deriving DecidableEq, Repr

/-- The wording of an error. A refused clause is quoted in canonical form. -/
def ClauseError.message : ClauseError → String
  | .refused fault clause => fault.message ++ " for: " ++ clause.canonical
  | .notATimestamp value _ => "invalid timestamp '" ++ value ++ "'"

/-! ## Relations and terms -/

namespace Clause

/-- The condition that an empty term asks for: `=` for a value, and `<>` for none where `nullTest`
admits that. -/
def nullCondition? (c : Clause) (column : String) (nullTest : Bool) : Option String :=
  if !c.term.isEmpty then none
  else if c.relation.base == "=" then some (column ++ " IS NOT NULL")
  else if c.relation.base == "<>" && nullTest then some (column ++ " IS NULL")
  else none

/-- The SQL operator of a relation between values without an order. -/
def equalityOperator (c : Clause) : Except ClauseError String :=
  if c.relation.base == "==" || c.relation.base == "=" then .ok "="
  else if c.relation.base == "<>" then .ok "<>"
  else .error (.refused .unsupportedOperator c)

/-- The SQL operator of a relation between values with an order. -/
def orderOperator (c : Clause) : Except ClauseError String :=
  if ["<", ">", "<=", ">="].contains c.relation.base then .ok c.relation.base
  else c.equalityOperator

/-- The term as the body of a literal, to be compared as a whole. -/
def exactBody (c : Clause) : Except ClauseError String :=
  match Mask.exact c.term with
  | .ok body => .ok body
  | .error fault => .error (.refused (.mask fault) c)

/-- The term as a `LIKE` pattern. -/
def likePattern (c : Clause) : Except ClauseError Mask.LikePattern :=
  match Mask.like c.term with
  | .ok pattern => .ok pattern
  | .error fault => .error (.refused (.mask fault) c)

end Clause

/-! ## The types -/

namespace Field

/-- A condition on a value that is written as `literal?` says, if the term has one. -/
def compare (column : String) (c : Clause) (literal? : Except ClauseError String)
    (operator? : Except ClauseError String) : Except ClauseError (Option String) :=
  match c.nullCondition? column false with
  | some sql => .ok (some sql)
  | none => do
    let literal ← literal?
    let operator ← operator?
    return some (column ++ operator ++ literal)

/-- The constant that the term of a clause on a boolean field names. -/
def booleanLiteral (c : Clause) : Except ClauseError String :=
  if Text.sameFolded c.term "true" then .ok "TRUE"
  else if Text.sameFolded c.term "false" then .ok "FALSE"
  else .error (.refused .badBoolean c)

/-- The term of a clause on a number field, as it is. -/
def numberLiteral (c : Clause) : Except ClauseError String :=
  if Numeral.isNumeral c.term then .ok c.term else .error (.refused .badNumeric c)

/-- The literal of a clause on a UUID field. -/
def uuidLiteral (c : Clause) : Except ClauseError String :=
  match Uuid.canonical? c.term with
  | some s => .ok (Sql.quoted s)
  | none => .error (.refused .badUuid c)

/-- The literal of a clause on a timestamp field. -/
def timestampLiteral (c : Clause) : Except ClauseError String :=
  match Timestamp.canonical c.term with
  | .ok s => .ok (Sql.quoted s)
  | .error fault => .error (.notATimestamp c.term fault)

/-- The full-text function for a relation, if it has one. -/
def fullTextFunction? (base : String) : Option String :=
  if base == "=" || base == "adj" then some "phraseto_tsquery"
  else if base == "all" then some "plainto_tsquery"
  else none

/-- The full-text condition of a clause, if the search has a language and the relation a function. -/
def fullTextCondition? (column : String) (search : TextSearch) (c : Clause) :
    Option (Except ClauseError String) := do
  let language ← search.languageBody?
  let function ← fullTextFunction? c.relation.base
  return do
    let body ← c.exactBody
    return "to_tsvector(" ++ Sql.quoted language ++ ", " ++ column ++ ") @@ " ++ function ++ "(" ++
      Sql.quoted language ++ ", " ++ Sql.quoted body ++ ")"

/-- The pattern condition of a clause, if the search admits patterns and the term needs one. -/
def likeCondition? (column : String) (search : TextSearch) (c : Clause) :
    Except ClauseError (Option String) :=
  if search.isLike && ["=", "==", "<>"].contains c.relation.base then do
    let pattern ← c.likePattern
    if pattern.wildcards then
      let operator := if c.relation.base == "<>" then " NOT LIKE " else " LIKE "
      return some (column ++ operator ++ Sql.quoted pattern.body)
    else return none
  else .ok none

/-- The condition of a clause on a text field: for an empty term a null test, then full-text search,
then a pattern, then comparison. -/
def textCondition (column : String) (search : TextSearch) (c : Clause) :
    Except ClauseError (Option String) :=
  match c.nullCondition? column search.isExact with
  | some sql =>
    if search.isExact then .ok (some sql) else .error (.refused .noNullTest c)
  | none =>
    match fullTextCondition? column search c with
    | some condition => return some (← condition)
    | none =>
      if !search.isExact then .error (.refused .unsupportedOperator c)
      else do
        match ← likeCondition? column search c with
        | some sql => return some sql
        | none =>
          let operator ← c.equalityOperator
          let body ← c.exactBody
          return some (column ++ " " ++ operator ++ " " ++ Sql.quoted body)

/-- The condition that a clause puts on the field; `none` where it puts none. -/
def condition (f : Field) (c : Clause) : Except ClauseError (Option String) :=
  match f.kind with
  | .alwaysMatches => .ok none
  | .boolean => compare f.column c (booleanLiteral c) c.equalityOperator
  | .number => compare f.column c (numberLiteral c) c.orderOperator
  | .uuid => compare f.column c (uuidLiteral c) c.equalityOperator
  | .timestamp => compare f.column c (timestampLiteral c) c.orderOperator
  | .text search => textCondition f.column search c

end Field

end ContextQuery
