import ContextQuery.Proofs.Except
import ContextQuery.Proofs.Schema.Names
import ContextQuery.Select

/-!
# What conditions and statements are made of

The condition of a query joins conditions that fields gave for its clauses. Joining may leave some
out, and makes none up (`Query.exists_clause_of_mem_atoms`). A statement is made of the name of a
table, the condition and the sort keys (`Registry.select_eq_ok`).
-/

namespace ContextQuery

/-- The conditions that a condition is made of. -/
def Sql.Condition.atoms : Sql.Condition → List String
  | .atom sql => [sql]
  | .falsum => []
  | .and l r => l.atoms ++ r.atoms
  | .or l r => l.atoms ++ r.atoms
  | .andNot l r => l.atoms ++ r.atoms
  | .not c => c.atoms

/-- The clauses of a query. -/
def Query.clauses : Query → List Clause
  | .clause c => [c]
  | .boolean _ _ left right => left.clauses ++ right.clauses
  | .sorted subtree _ => subtree.clauses
  | .scoped _ _ subtree => subtree.clauses

/-- The conditions in a condition that may be absent. -/
def atomsOf (c : Option Sql.Condition) : List String :=
  c.elim [] Sql.Condition.atoms

/-- An operator brings in no condition that its operands do not have. -/
theorem BooleanOp.mem_atoms_of_join {op : BooleanOp} {left right joined : Option Sql.Condition}
    (h : op.join left right = .ok joined) {sql : String} (member : sql ∈ atomsOf joined) :
    sql ∈ atomsOf left ∨ sql ∈ atomsOf right := by
  rw [← List.mem_append]
  cases op <;> cases left <;> cases right <;> cases h <;>
    simp_all [atomsOf, Sql.Condition.atoms]

/-- The conditions in the condition of a query are answers to clauses of it. -/
theorem Query.exists_clause_of_mem_atoms {answer : Clause → Except SelectError (Option String)}
    {q : Query} {c : Option Sql.Condition} (compiled : q.condition answer = .ok c) {sql : String}
    (member : sql ∈ atomsOf c) : ∃ clause ∈ q.clauses, answer clause = .ok (some sql) := by
  induction q generalizing c with
  | clause clause =>
      obtain ⟨said, answered, rfl⟩ := bind_pure_eq_ok.mp compiled
      refine ⟨clause, List.mem_cons_self, ?_⟩
      cases said with
      | none => exact absurd member List.not_mem_nil
      | some text =>
          rw [List.mem_singleton.mp member]
          exact answered
  | boolean op ms left right ihl ihr =>
      obtain ⟨l, compiledLeft, compiled⟩ := bind_eq_ok.mp compiled
      obtain ⟨r, compiledRight, joined⟩ := bind_eq_ok.mp compiled
      rcases op.mem_atoms_of_join joined member with member | member
      · obtain ⟨clause, among, answered⟩ := ihl compiledLeft member
        exact ⟨clause, List.mem_append_left _ among, answered⟩
      · obtain ⟨clause, among, answered⟩ := ihr compiledRight member
        exact ⟨clause, List.mem_append_right _ among, answered⟩
  | sorted subtree keys ih => exact ih compiled member
  | «scoped» name uri subtree ih => exact ih compiled member

namespace Registry

theorem resolve_eq_ok {r : Registry} {index : String} {field : Field} :
    r.resolve index = .ok field ↔ r.find? index = some field := by
  unfold resolve
  cases r.find? index with
  | none => simp
  | some other => simp

theorem clauseCondition_eq_ok {r : Registry} {c : Clause} {sql : Option String} :
    r.clauseCondition c = .ok sql ↔
      ∃ field, r.find? c.index = some field ∧ field.condition c = .ok sql := by
  unfold clauseCondition
  simp only [bind_eq_ok, resolve_eq_ok]
  refine exists_congr fun field => and_congr_right fun _ => ?_
  cases field.condition c with
  | error e => simp
  | ok answer => simp [pure_eq_ok]

/-- A statement is its table and what the query gives for its two clauses, one by one. -/
theorem select_eq_ok {r : Registry} {table sql : String} {q : Option Query} :
    r.select table q = .ok sql ↔ isTableName table = true ∧
      ∃ condition order, r.whereText q = .ok condition ∧ r.orderText q = .ok order ∧
        "SELECT * FROM " ++ table ++ introduced " WHERE " condition ++
          introduced " ORDER BY " order = sql := by
  unfold select
  simp only [bind_eq_ok, mapError_eq_ok, checkTableName_eq_ok, pure_eq_ok]
  constructor
  · rintro ⟨name, ⟨isTable, rfl⟩, condition, compiled, order, ordered, written⟩
    exact ⟨isTable, condition, order, compiled, ordered, written⟩
  · rintro ⟨isTable, condition, order, compiled, ordered, written⟩
    exact ⟨table, ⟨isTable, rfl⟩, condition, compiled, order, ordered, written⟩

/-- A registry of two fields, with and without a column of their own, to show results on. -/
def catalogue : Registry :=
  (empty.insert "title" ⟨"", .text { matching := .like }⟩).insert "cost" ⟨"price", .number⟩

end Registry

end ContextQuery
