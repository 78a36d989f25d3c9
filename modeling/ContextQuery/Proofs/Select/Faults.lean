import ContextQuery.Proofs.Select.Atoms

/-!
# What keeps a query from a condition

A query has no condition just when one of its parts is at fault: a clause whose index has no field,
a clause that its field refuses, or proximity. No part is left out of this, although joining may
drop the condition of an operand. Of several faults the first one is reported, where operands come
before their operator and the left one before the right one (`Query.whereText_reports_first_fault`).
Fields of the six types and others are handlers here, which answer the clauses under one index.
-/

namespace ContextQuery

/-! ## Parts of a query -/

namespace Query

/-- The query and all queries in it, operands before their operator and from left to right. -/
def parts : Query → List Query
  | .clause c => [.clause c]
  | .boolean op ms left right => left.parts ++ right.parts ++ [.boolean op ms left right]
  | .sorted subtree keys => subtree.parts ++ [.sorted subtree keys]
  | .scoped name uri subtree => subtree.parts ++ [.scoped name uri subtree]

variable (answer : Clause → Except SelectError (Option String))

/-- The error that the query is by itself, whatever its operands are. -/
def ownError? : Query → Option SelectError
  | .clause c =>
    match answer c with
    | .error e => some e
    | .ok _ => none
  | .boolean .prox _ _ _ => some (.unsupportedOperator .prox)
  | _ => none

variable {answer}

/-- Joining two conditions fails for the operator alone. -/
theorem reports_join (op : BooleanOp) (ms : List Modifier) (left right : Query)
    (l r : Option Sql.Condition) :
    Reports (op.join l r) ((boolean op ms left right).ownError? answer) := by
  cases op with
  | prox => rfl
  | and | or | not => cases l <;> cases r <;> exact ⟨_, rfl⟩

theorem reports_answer (c : Clause) : Reports (answer c) ((clause c).ownError? answer) := by
  show Reports (answer c) (match answer c with | .error e => some e | .ok _ => none)
  cases answer c with
  | error e => rfl
  | ok sql => exact ⟨sql, rfl⟩

/-- Compiling a query reports the first error among its parts. -/
theorem reports_condition (q : Query) :
    Reports (q.condition answer) (q.parts.findSome? (ownError? answer)) := by
  induction q with
  | clause c =>
      rw [parts, List.findSome?_singleton]
      exact (reports_answer c).bind_pure
  | boolean op ms left right ihl ihr =>
      rw [parts, List.findSome?_append, List.findSome?_append, Option.or_assoc]
      refine ihl.bind fun l => ihr.bind fun r => ?_
      rw [List.findSome?_singleton]
      exact reports_join op ms left right l r
  | sorted subtree keys ih =>
      rw [parts, List.findSome?_append, List.findSome?_singleton]
      show Reports (subtree.condition answer) (Option.or _ none)
      rw [Option.or_none]
      exact ih
  | «scoped» name uri subtree ih =>
      rw [parts, List.findSome?_append, List.findSome?_singleton]
      show Reports (subtree.condition answer) (Option.or _ none)
      rw [Option.or_none]
      exact ih

theorem reports_whereText (q : Query) :
    Reports (q.whereText answer) (q.parts.findSome? (ownError? answer)) :=
  q.reports_condition.bind_pure

end Query

/-! ## Faults -/

/-- The handler of an index: it answers a clause with a condition, or with none, or refuses it. -/
abbrev Handler : Type :=
  Clause → Except SelectError (Option String)

/-- The answer of the handler that is registered for the index of the clause. -/
def answerBy (handler? : String → Option Handler) (c : Clause) :
    Except SelectError (Option String) :=
  match handler? c.index with
  | some handle => handle c
  | none => .error (.unknownIndex c.index)

/-- The fields of a registry as handlers. -/
def Registry.handler? (r : Registry) (index : String) : Option Handler :=
  (r.find? index).map fun field c => (field.condition c).mapError SelectError.clause

theorem Registry.clauseCondition_eq_answerBy (r : Registry) :
    r.clauseCondition = answerBy r.handler? := by
  funext c
  unfold clauseCondition resolve answerBy handler?
  cases r.find? c.index with
  | none => rfl
  | some field =>
      dsimp only [Option.map]
      rw [ok_bind]
      cases field.condition c with
      | ok sql => rfl
      | error e => rfl

/-- What can be wrong with a part of a query by itself, and the error for it. -/
inductive Fault (handler? : String → Option Handler) : Query → SelectError → Prop where
  | unknownIndex {c : Clause} (unknown : handler? c.index = none) :
      Fault handler? (.clause c) (.unknownIndex c.index)
  | refused {c : Clause} {handle : Handler} {e : SelectError}
      (known : handler? c.index = some handle) (refuses : handle c = .error e) :
      Fault handler? (.clause c) e
  | proximity (ms : List Modifier) (left right : Query) :
      Fault handler? (.boolean .prox ms left right) (.unsupportedOperator .prox)

variable {handler? : String → Option Handler}

theorem answerBy_eq_ok {c : Clause} {sql : Option String} : answerBy handler? c = .ok sql ↔
    ∃ handle, handler? c.index = some handle ∧ handle c = .ok sql := by
  unfold answerBy
  cases handler? c.index with
  | none => simp
  | some handle => simp

/-- A part has an error of its own just when it is at fault, and that is the error. -/
theorem Query.ownError?_eq_some_iff {part : Query} {e : SelectError} :
    part.ownError? (answerBy handler?) = some e ↔ Fault handler? part e := by
  constructor
  · intro own
    unfold ownError? at own
    split at own
    · next c =>
      split at own
      · next answered =>
        cases own
        unfold answerBy at answered
        split at answered
        · next handle known => exact .refused known answered
        · next unknown =>
          cases answered
          exact .unknownIndex unknown
      · cases own
    · cases own
      exact .proximity _ _ _
    · cases own
  · intro fault
    cases fault with
    | unknownIndex unknown => simp [ownError?, answerBy, unknown]
    | refused known refuses => simp [ownError?, answerBy, known, refuses]
    | proximity ms left right => rfl

theorem Query.forall_ownError?_eq_none_iff {q : Query} :
    (∀ part ∈ q.parts, part.ownError? (answerBy handler?) = none) ↔
      (∀ op ms left right, boolean op ms left right ∈ q.parts → op ≠ .prox) ∧
      ∀ c, clause c ∈ q.parts →
        ∃ handle, handler? c.index = some handle ∧ ∃ sql, handle c = .ok sql := by
  constructor
  · intro clean
    refine ⟨?_, ?_⟩
    · rintro op ms left right member rfl
      cases clean _ member
    · intro c member
      obtain ⟨sql, answered⟩ := (reports_answer c).isOk_iff.mpr (clean _ member)
      obtain ⟨handle, known, accepts⟩ := answerBy_eq_ok.mp answered
      exact ⟨handle, known, sql, accepts⟩
  · rintro ⟨noProx, answered⟩ part member
    rw [Option.eq_none_iff_forall_ne_some]
    intro e own
    cases ownError?_eq_some_iff.mp own with
    | unknownIndex unknown =>
        obtain ⟨handle, known, -⟩ := answered _ member
        rw [unknown] at known
        cases known
    | refused known refuses =>
        obtain ⟨handle, known', sql, accepts⟩ := answered _ member
        rw [known] at known'
        cases known'
        rw [refuses] at accepts
        cases accepts
    | proximity ms left right => exact noProx _ ms left right member rfl

/-- **Faults.** A query has a condition, or is seen to need none, just when no operator in it is
proximity and each of its clauses has a handler that accepts it, wherever the clause stands.
Otherwise the error is that of the first part at fault. The handlers of a registry are its fields. -/
theorem Query.whereText_reports_first_fault (handler? : String → Option Handler) (q : Query) :
    ((∃ text, q.whereText (answerBy handler?) = .ok text) ↔
      (∀ op ms left right, boolean op ms left right ∈ q.parts → op ≠ .prox) ∧
      ∀ c, clause c ∈ q.parts →
        ∃ handle, handler? c.index = some handle ∧ ∃ sql, handle c = .ok sql) ∧
    (∀ e, q.whereText (answerBy handler?) = .error e ↔
      ∃ before part after, q.parts = before ++ part :: after ∧ Fault handler? part e ∧
        ∀ p ∈ before, ∀ e', ¬ Fault handler? p e') ∧
    ∀ r : Registry, r.whereText (some q) = q.whereText (answerBy r.handler?) := by
  have reports := @reports_whereText (answerBy handler?) q
  refine ⟨?_, ?_, ?_⟩
  · rw [reports.isOk_iff, List.findSome?_eq_none_iff, forall_ownError?_eq_none_iff]
  · intro e
    rw [reports.eq_error_iff, List.findSome?_eq_some_iff]
    refine exists_congr fun before => exists_congr fun part => exists_congr fun after => ?_
    rw [ownError?_eq_some_iff]
    refine and_congr_right fun _ => and_congr_right fun _ => forall₂_congr fun p _ => ?_
    rw [Option.eq_none_iff_forall_ne_some]
    exact forall_congr' fun e' => not_congr ownError?_eq_some_iff
  · intro r
    show q.whereText r.clauseCondition = _
    rw [r.clauseCondition_eq_answerBy]

end ContextQuery
