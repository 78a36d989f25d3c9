import ContextQuery.Proofs.Field.Widened
import ContextQuery.Proofs.Query.Completeness
import ContextQuery.Proofs.Select.Atoms
import ContextQuery.Query.Combine

/-!
# Searching for one text

Any text whatever can be searched for: there is a query that a text field answers by comparing its
column with the literal of that text (`Registry.whereText_exactQuery`). The text goes through the
lexer, which pairs its backslashes and keeps them, through the field, which may first ask whether
the term has wildcards, and through the mask, which takes the backslashes off again.
-/

namespace ContextQuery

open Grammar

/-- The query text that asks for one text under an index. -/
def exactQuery (index value : String) : String :=
  index ++ " == \"" ++ String.ofList (Mask.escape value.toList) ++ "\""

/-- The clause that it holds. -/
def exactClause (index value : String) : Clause :=
  ⟨index, ⟨"==", []⟩, String.ofList (Mask.escape value.toList)⟩

/-- The condition that a column holds one text. -/
def exactCondition (column value : String) : String :=
  column ++ " = '" ++ String.ofList (Sql.literalBody value.toList) ++ "'"

/-! ## Reading the query -/

theorem splits_exactQuery {index : String} (word : IsBareWord index) (value : String) :
    Splits (exactQuery index value).toList
      [.word index, .comparison .exact, .quoted (exactClause index value).term] := by
  have quotable : isQuotable (exactClause index value).term.toList = true := by
    rw [exactClause, String.toList_ofList]
    exact Mask.isQuotable_escape value.toList
  have term := splits_space (splits_quoted quotable (@Splits.blank [] rfl))
  have sign := splits_space (splits_sign .exact (endsSign_cons (by decide) (by decide)) term)
  have whole := splits_word word (endsWord_cons (by decide)) sign
  simpa [exactQuery, exactClause, Comparison.symbol] using whole

/-- The query text holds the clause and nothing else, whatever the text that it asks for. -/
theorem parse_exactQuery {index : String} (word : IsBareWord index) (value : String) :
    Query.parse (exactQuery index value) = .ok (.clause (exactClause index value)) := by
  have stated : Says [.word index, .comparison .exact, .quoted (exactClause index value).term]
      (exactClause index value) :=
    .inFull rfl (.sign .exact) .none (.quoted _)
  exact Query.parse_of_splits (splits_exactQuery word value) (.unsorted (.operand (.clause stated)))
    (Nat.zero_le _)

/-! ## Answering the clause -/

/-- Masking is undone: the literal has the text for its value. -/
theorem exactBody_exactClause (index value : String) :
    (exactClause index value).exactBody = .ok (String.ofList (Sql.literalBody value.toList)) :=
  Clause.exactBody_eq_ok_iff_exact.mpr (Mask.exact_escape value.toList)

/-- A field that compares does so with this clause, whether or not it also matches patterns. -/
theorem textCondition_exactClause {search : TextSearch} (exact : search.isExact = true)
    (column index value : String) :
    Field.textCondition column search (exactClause index value) =
      .ok (some (exactCondition column value)) := by
  have noTest : (exactClause index value).nullCondition? column true = none := by
    unfold Clause.nullCondition?
    split
    · rfl
    · rfl
  have noSearch : Field.fullTextCondition? column search (exactClause index value) = none := by
    unfold Field.fullTextCondition?
    cases search.languageBody? with
    | none => rfl
    | some language => rfl
  have read := exactBody_exactClause index value
  -- a term for one text has no wildcards, so a field that matches patterns goes on to compare
  have answers : Field.Answers column search (exactClause index value) _ :=
    .comparison exact noTest noSearch (Field.likeCondition?_of_exactBody read) rfl read
  have opening : " = '" = " " ++ "=" ++ " " ++ "'" := rfl
  rw [Field.textCondition_of_answers answers]
  simp only [exactCondition, Sql.quoted, opening, String.append_assoc]

theorem whereText_exactClause {r : Registry} {index column : String} {search : TextSearch}
    (found : r.find? index = some ⟨column, .text search⟩) (exact : search.isExact = true)
    (value : String) :
    r.whereText (some (.clause (exactClause index value))) =
      .ok (some (exactCondition column value)) := by
  have answered : r.clauseCondition (exactClause index value) =
      .ok (some (exactCondition column value)) :=
    Registry.clauseCondition_eq_ok.mpr
      ⟨_, found, textCondition_exactClause exact column index value⟩
  show Query.whereText r.clauseCondition _ = _
  rw [Query.whereText, Query.condition, answered]
  rfl

theorem exactCondition_injective {column v w : String}
    (same : exactCondition column v = exactCondition column w) : v = w := by
  have characters := congrArg String.toList same
  simp only [exactCondition, String.toList_append, String.toList_ofList] at characters
  have bodies := List.append_cancel_left (List.append_cancel_right characters)
  exact String.toList_inj.mp (Sql.literalBody_injective bodies)

/-- **Exact search.** A text field that compares, registered under an index that is a plain word, can
be searched for every text: the query is read, and answered by comparing the column with a literal
that has the text for its value. So different texts are answered by different conditions. -/
theorem Registry.whereText_exactQuery (r : Registry) (index column : String) (search : TextSearch)
    (word : IsBareWord index) (found : r.find? index = some ⟨column, .text search⟩)
    (exact : search.isExact = true) :
    (∀ value, ∃ q, Query.combine (some (exactQuery index value)) none = .ok (some q) ∧
      r.whereText (some q) = .ok (some (exactCondition column value))) ∧
    (∀ value : String, Sql.value? (Sql.literalBody value.toList) = some value.toList) ∧
    (∀ value value', value ≠ value' →
      exactCondition column value ≠ exactCondition column value') := by
  refine ⟨?_, ?_, ?_⟩
  · intro value
    refine ⟨.clause (exactClause index value), ?_, whereText_exactClause found exact value⟩
    show (Query.parse (exactQuery index value) >>= fun q => pure (some q)) = _
    rw [parse_exactQuery word]
    rfl
  · intro value
    exact Sql.value?_literalBody value.toList
  · intro value value' different same
    exact different (exactCondition_injective same)

/-- A text with a wildcard, two backslashes and both quotes, in a field that also matches
patterns. -/
theorem Registry.whereText_exactQuery_of_catalogue :
    IsBareWord "title" ∧
    catalogue.find? "title" = some ⟨"title", .text { matching := .like }⟩ ∧
    (⟨.like, none⟩ : TextSearch).isExact = true ∧
    exactQuery "title" "o'*\\\\\"" = "title == \"o'\\*\\\\\\\\\\\"\"" ∧
    exactCondition "title" "o'*\\\\\"" = "title = 'o''*\\\\\"'" ∧
    ∃ q, Query.combine (some (exactQuery "title" "o'*\\\\\"")) none = .ok (some q) ∧
      catalogue.whereText (some q) = .ok (some (exactCondition "title" "o'*\\\\\"")) := by
  have word : IsBareWord "title" := ⟨by decide, by decide⟩
  have found : catalogue.find? "title" = some ⟨"title", .text { matching := .like }⟩ := by
    decide +kernel
  have search := whereText_exactQuery catalogue "title" "title" { matching := .like } word found rfl
  exact ⟨word, found, rfl, by decide +kernel, by decide +kernel, search.1 _⟩

end ContextQuery
