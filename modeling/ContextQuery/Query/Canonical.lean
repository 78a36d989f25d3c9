import ContextQuery.Query.Basic
import ContextQuery.Text.Pieces
import ContextQuery.Token.Lexer

/-!
# The canonical text of a query

Every query has one text, written by these rules and meant to be read back as the same tree: names
and terms are quoted only where they must be, operands of a boolean operator always stand in
parentheses, and so does the query under a namespace declaration. Error messages quote clauses in
this form, and two queries are combined by joining their texts.
-/

namespace ContextQuery

namespace Canonical

/-- All characters may stand in a bare word. -/
def isBareText (s : String) : Bool :=
  s.toList.all Lexer.isBare

/-- The text, between double quotes if it would not be read back as one bare word. -/
def symbol (s : String) : String :=
  if s.isEmpty || isReserved s || !isBareText s then "\"" ++ s ++ "\"" else s

/-- Bare words with one space between neighbours, of which only the first may be reserved. -/
def isPhrase (cs : List Char) : Bool :=
  let isWord (w : List Char) : Bool := !w.isEmpty && w.all Lexer.isBare
  match Text.pieces ' ' cs with
  | [] => false
  | first :: more => isWord first && more.all fun w => isWord w && !isReserved (String.ofList w)

/-- The last backslash has no character to go with. -/
def endsUnpaired (cs : List Char) : Bool :=
  (cs.reverse.takeWhile (· == '\\')).length % 2 == 1

/-- A term after a relation. One that ends in an unpaired backslash cannot stand between quotes; if
it is a phrase it can do without. -/
def term (s : String) : String :=
  if endsUnpaired s.toList && isPhrase s.toList then s else symbol s

end Canonical

/-- The canonical text of a modifier. -/
def Modifier.canonical (m : Modifier) : String :=
  "/" ++ Canonical.symbol m.name ++
    match m.comparison, m.value with
    | some comparison, some value => comparison ++ Canonical.symbol value
    | _, _ => ""

/-- The canonical text of a list of modifiers. -/
def Canonical.modifiers : List Modifier → String
  | [] => ""
  | m :: ms => m.canonical ++ modifiers ms

/-- The canonical text of a clause: its term alone where that says it all. -/
def Clause.canonical (c : Clause) : String :=
  if c.isServerChoice then Canonical.symbol c.term
  else
    Canonical.symbol c.index ++ " " ++ c.relation.base ++ Canonical.modifiers c.relation.modifiers ++
      " " ++ Canonical.term c.term

/-- The canonical text of sort keys, each after a space. -/
def Canonical.sortKeys : List SortKey → String
  | [] => ""
  | k :: ks => " " ++ symbol k.base ++ modifiers k.modifiers ++ sortKeys ks

/-- The canonical text of a query. -/
def Query.canonical : Query → String
  | .clause c => c.canonical
  | .boolean op ms left right =>
    "(" ++ left.canonical ++ ") " ++ op.keyword ++ Canonical.modifiers ms ++ " (" ++
      right.canonical ++ ")"
  | .sorted subtree keys => subtree.canonical ++ " sortby" ++ Canonical.sortKeys keys
  | .scoped name uri subtree =>
    ">" ++ (match name with | some n => Canonical.symbol n ++ "=" | none => "") ++
      "\"" ++ uri ++ "\" (" ++ subtree.canonical ++ ")"

end ContextQuery
