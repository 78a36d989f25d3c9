import ContextQuery.Field.Basic
import ContextQuery.Proofs.Except

/-!
# How a text field answers

A text field answers a clause in one of four ways: with a null test, with a full-text search, with a
pattern or with a comparison. `Field.Answers` has a rule for each, and they are all that there are
(`Field.textCondition_eq_ok_iff`).
-/

namespace ContextQuery

/-! ## Terms -/

namespace Clause

variable {c : Clause}

/-- A clause with a term is no null test. -/
theorem nullCondition?_of_ne (nonempty : c.term ≠ "") (column : String) (nullTest : Bool) :
    c.nullCondition? column nullTest = none := by
  unfold nullCondition?
  simp [nonempty]

theorem exactBody_eq_ok_iff_exact {body : String} :
    c.exactBody = .ok body ↔ Mask.exact c.term = .ok body := by
  unfold exactBody
  cases Mask.exact c.term with
  | ok other => simp
  | error fault => simp

theorem likePattern_eq_ok_iff_like {pattern : Mask.LikePattern} :
    c.likePattern = .ok pattern ↔ Mask.like c.term = .ok pattern := by
  unfold likePattern
  cases Mask.like c.term with
  | ok other => simp
  | error fault => simp

end Clause

/-! ## Clauses -/

namespace Field

/-- The ways in which a text field answers a clause with a condition. -/
inductive Answers (column : String) (search : TextSearch) (c : Clause) : String → Prop where
  | nullTest {sql : String} (exact : search.isExact = true)
      (tests : c.nullCondition? column true = some sql) : Answers column search c sql
  | fullText {sql : String} (noTest : c.nullCondition? column search.isExact = none)
      (searches : fullTextCondition? column search c = some (.ok sql)) : Answers column search c sql
  | pattern {sql : String} (exact : search.isExact = true)
      (noTest : c.nullCondition? column true = none)
      (noSearch : fullTextCondition? column search c = none)
      (fits : likeCondition? column search c = .ok (some sql)) : Answers column search c sql
  | comparison {operator body : String} (exact : search.isExact = true)
      (noTest : c.nullCondition? column true = none)
      (noSearch : fullTextCondition? column search c = none)
      (noPattern : likeCondition? column search c = .ok none)
      (operates : c.equalityOperator = .ok operator) (read : c.exactBody = .ok body) :
      Answers column search c (column ++ " " ++ operator ++ " " ++ Sql.quoted body)

variable {column sql : String} {search : TextSearch} {c : Clause}

/-- Each condition of a text field comes from one of the four ways. -/
theorem answers_of_textCondition (answered : textCondition column search c = .ok (some sql)) :
    Answers column search c sql := by
  unfold textCondition at answered
  split at answered
  · -- a null test is answered by a field that compares, and by no other
    next tests =>
    by_cases exact : search.isExact = true
    · rw [if_pos exact] at answered
      cases answered
      exact .nullTest exact (exact ▸ tests)
    · rw [if_neg exact] at answered
      cases answered
  · next noTest =>
    split at answered
    · next searches =>
      obtain ⟨condition, rfl, same⟩ := bind_pure_eq_ok.mp answered
      cases same
      exact .fullText noTest searches
    · next noSearch =>
      by_cases exact : search.isExact = true
      · rw [exact, Bool.not_true, if_neg Bool.false_ne_true] at answered
        rw [exact] at noTest
        obtain ⟨pattern?, liked, answered⟩ := bind_eq_ok.mp answered
        cases pattern? with
        | some pattern =>
            cases answered
            exact .pattern exact noTest noSearch liked
        | none =>
            obtain ⟨operator, operates, answered⟩ := bind_eq_ok.mp answered
            obtain ⟨body, read, same⟩ := bind_pure_eq_ok.mp answered
            cases same
            exact .comparison exact noTest noSearch liked operates read
      · rw [Bool.not_eq_true] at exact
        rw [exact, Bool.not_false, if_pos rfl] at answered
        cases answered

theorem textCondition_of_answers (answers : Answers column search c sql) :
    textCondition column search c = .ok (some sql) := by
  unfold textCondition
  cases answers with
  | nullTest exact tests =>
      rw [exact, tests]
      rfl
  | fullText noTest searches =>
      rw [noTest, searches]
      rfl
  | pattern exact noTest noSearch fits =>
      rw [exact, noTest, noSearch, fits]
      rfl
  | comparison exact noTest noSearch noPattern operates read =>
      rw [exact, noTest, noSearch, noPattern, operates, read]
      rfl

/-- A text field gives exactly the conditions that one of the four ways gives. -/
theorem textCondition_eq_ok_iff :
    textCondition column search c = .ok (some sql) ↔ Answers column search c sql :=
  ⟨answers_of_textCondition, textCondition_of_answers⟩

end Field

end ContextQuery
