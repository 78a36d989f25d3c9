import ContextQuery.Proofs.Select.Atoms
import ContextQuery.Proofs.Sql.Precedence

/-!
# A condition means what its query means

A query has a value of its own once its clauses have: `and` and `or` are conjunction and
disjunction, `not` says that the left operand holds and the right one does not, and a clause that
puts no condition is true. The text of the condition of a query is read with that value, and a query
without a condition is true (`Query.whereText_means`). Whatever answers the clauses, fields of the
six types or others, makes no difference.
-/

namespace ContextQuery

open Sql

/-! ## The value of a query -/

/-- The value of both operands together; proximity has none. -/
def BooleanOp.truth? (op : BooleanOp) (left right : Truth) : Option Truth :=
  match op with
  | .and => some (left.and right)
  | .or => some (left.or right)
  | .not => some (left.and right.not)
  | .prox => none

/-- The value of a query, where conditions of clauses have the values that `ν` gives them. A clause
without an answer has none. -/
def Query.truth? (answer : Clause → Except SelectError (Option String)) (ν : String → Truth) :
    Query → Option Truth
  | .clause c =>
    match answer c with
    | .ok (some sql) => some (ν sql)
    | .ok none => some .true
    | .error _ => none
  | .boolean op _ left right => do
    let v ← left.truth? answer ν
    let w ← right.truth? answer ν
    op.truth? v w
  | .sorted subtree _ => subtree.truth? answer ν
  | .scoped _ _ subtree => subtree.truth? answer ν

/-- The value of a condition that may be absent. -/
def valueOf (ν : String → Truth) (c : Option Condition) : Truth :=
  c.elim .true (Condition.value ν)

/-- Joining conditions joins values, whichever of the two are absent. -/
theorem BooleanOp.truth?_of_join {op : BooleanOp} {left right joined : Option Condition}
    (h : op.join left right = .ok joined) (ν : String → Truth) :
    op.truth? (valueOf ν left) (valueOf ν right) = some (valueOf ν joined) := by
  cases op <;> cases left <;> cases right <;> cases h <;>
    simp [BooleanOp.truth?, valueOf, Condition.value, Truth.not]

variable {answer : Clause → Except SelectError (Option String)}

theorem Query.truth?_of_condition {q : Query} {c : Option Condition}
    (compiled : q.condition answer = .ok c) (ν : String → Truth) :
    q.truth? answer ν = some (valueOf ν c) := by
  induction q generalizing c with
  | clause clause =>
      obtain ⟨said, answered, rfl⟩ := bind_pure_eq_ok.mp compiled
      unfold truth?
      rw [answered]
      cases said with
      | none => rfl
      | some sql => rfl
  | boolean op ms left right ihl ihr =>
      obtain ⟨l, compiledLeft, compiled⟩ := bind_eq_ok.mp compiled
      obtain ⟨r, compiledRight, joined⟩ := bind_eq_ok.mp compiled
      unfold truth?
      rw [ihl compiledLeft, ihr compiledRight]
      exact op.truth?_of_join joined ν
  | sorted subtree keys ih => exact ih compiled
  | «scoped» name uri subtree ih => exact ih compiled

/-! ## The value of the text -/

theorem Sql.Condition.mem_atoms_of_mem_pieces {c : Condition} {sql : String}
    (member : Piece.atom sql ∈ c.pieces) : sql ∈ c.atoms := by
  induction c with
  | atom other =>
      cases List.mem_singleton.mp member
      exact List.mem_cons_self
  | falsum => cases List.mem_singleton.mp member
  | and l r ihl ihr | or l r ihl ihr | andNot l r ihl ihr =>
      simp only [pieces, List.cons_append, List.mem_append, List.mem_cons, List.not_mem_nil,
        reduceCtorEq, false_or, or_false] at member
      rw [atoms, List.mem_append]
      exact member.imp ihl ihr
  | not c ih =>
      simp only [pieces, List.cons_append, List.mem_append, List.mem_cons, List.not_mem_nil,
        reduceCtorEq, false_or, or_false] at member
      exact ih member

/-- **Meaning.** A query that has no condition is true, whatever its clauses are worth. Otherwise
the text of its condition is made of conditions of its clauses, the words of SQL and parentheses,
and precedence reads it with the value of the query and no other. -/
theorem Query.whereText_means (answer : Clause → Except SelectError (Option String)) (q : Query)
    (text : Option String) (written : q.whereText answer = .ok text) :
    (text = none → ∀ ν, q.truth? answer ν = some .true) ∧
    (∀ sql, text = some sql → ∃ ps, Sql.spell ps = sql ∧
      (∀ a, Piece.atom a ∈ ps → ∃ c ∈ q.clauses, answer c = .ok (some a)) ∧
      ∀ ν, ∃ v, q.truth? answer ν = some v ∧ ∀ w, Sql.Reads ν .disjunction ps w ↔ w = v) := by
  obtain ⟨c, compiled, rfl⟩ := bind_pure_eq_ok.mp written
  refine ⟨?_, ?_⟩
  · intro absent ν
    rw [Option.map_eq_none_iff.mp absent] at compiled
    exact truth?_of_condition compiled ν
  · intro sql present
    obtain ⟨c, rfl, rfl⟩ := Option.map_eq_some_iff.mp present
    refine ⟨c.pieces, c.spell_pieces, ?_, ?_⟩
    · intro a member
      exact exists_clause_of_mem_atoms compiled (Condition.mem_atoms_of_mem_pieces member)
    · intro ν
      refine ⟨c.value ν, truth?_of_condition compiled ν, ?_⟩
      intro w
      refine ⟨fun reads => reads.unique (c.reads_pieces ν), ?_⟩
      rintro rfl
      exact c.reads_pieces ν

/-- The clauses of this query may both be unknown for a row, as where the price is not known. -/
theorem Query.whereText_means_for_difference :
    Query.whereText Registry.catalogue.clauseCondition
        (.boolean .not [] (.clause ⟨"title", ⟨"=", []⟩, "a*"⟩) (.clause ⟨"cost", ⟨">", []⟩, "1"⟩)) =
      .ok (some "(title LIKE 'a%' AND NOT price>1)") ∧
    ∃ ps, Sql.spell ps = "(title LIKE 'a%' AND NOT price>1)" ∧
      (∀ a, Piece.atom a ∈ ps → ∃ c ∈ Query.clauses (.boolean .not []
          (.clause ⟨"title", ⟨"=", []⟩, "a*"⟩) (.clause ⟨"cost", ⟨">", []⟩, "1"⟩)),
        Registry.catalogue.clauseCondition c = .ok (some a)) ∧
      ∀ ν, ∃ v, Query.truth? Registry.catalogue.clauseCondition ν (.boolean .not []
          (.clause ⟨"title", ⟨"=", []⟩, "a*"⟩) (.clause ⟨"cost", ⟨">", []⟩, "1"⟩)) = some v ∧
        ∀ w, Sql.Reads ν .disjunction ps w ↔ w = v := by
  have written : Query.whereText Registry.catalogue.clauseCondition
      (.boolean .not [] (.clause ⟨"title", ⟨"=", []⟩, "a*"⟩) (.clause ⟨"cost", ⟨">", []⟩, "1"⟩)) =
      .ok (some "(title LIKE 'a%' AND NOT price>1)") := by
    decide +kernel
  exact ⟨written, (Query.whereText_means _ _ _ written).2 _ rfl⟩

end ContextQuery
