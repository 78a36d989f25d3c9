import Mathlib
import ContextQuery.Proofs.Field.Contained
import ContextQuery.Proofs.Select.Atoms
import ContextQuery.Proofs.Registry
import ContextQuery.Query.Combine

/-!
# No text of a query leaves its literal

A statement is put together from the table, the conditions of the fields and the columns to sort by.
All of these are contained, and so is everything in between. Hence a reader of the statement ends
outside every literal, and what it has read outside is plain, whatever the texts of the queries
(`Registry.select_confines_texts`).
-/

namespace ContextQuery

open Sql

/-- No column of the registry needs quotes. -/
def Registry.HasPlainColumns (r : Registry) : Prop :=
  ∀ entry ∈ r.entries, entry.2.column.toList.all isColumnChar = true

/-! ## Conditions -/

namespace Sql.Condition

/-- Joining conditions adds only words and parentheses. -/
theorem contained_text {c : Condition} (atoms : ∀ sql ∈ c.atoms, Contained sql.toList) :
    Contained c.text.toList := by
  have close : Contained ")".toList := Contained.of_all rfl
  have opening : Contained "(".toList := Contained.of_all rfl
  have pair {l r : Condition} {sign : String} (left : Contained l.text.toList)
      (between : Contained sign.toList) (right : Contained r.text.toList) :
      Contained ("(" ++ l.text ++ sign ++ r.text ++ ")").toList := by
    simp only [String.toList_append]
    exact (((opening.append left).append between).append right).append close
  induction c with
  | atom sql => exact atoms sql List.mem_cons_self
  | falsum => exact Contained.of_all rfl
  | and l r ihl ihr =>
      exact pair (ihl fun sql member => atoms sql (List.mem_append_left _ member))
        (Contained.of_all rfl)
        (ihr fun sql member => atoms sql (List.mem_append_right _ member))
  | or l r ihl ihr =>
      exact pair (ihl fun sql member => atoms sql (List.mem_append_left _ member))
        (Contained.of_all rfl)
        (ihr fun sql member => atoms sql (List.mem_append_right _ member))
  | andNot l r ihl ihr =>
      exact pair (ihl fun sql member => atoms sql (List.mem_append_left _ member))
        (Contained.of_all rfl)
        (ihr fun sql member => atoms sql (List.mem_append_right _ member))
  | not c ih =>
      have word : Contained "NOT (".toList := Contained.of_all rfl
      simp only [text, String.toList_append]
      exact (word.append (ih atoms)).append close

end Sql.Condition

namespace Registry

variable {r : Registry}

theorem HasPlainColumns.column (plain : r.HasPlainColumns) {name : String} {field : Field}
    (found : r.find? name = some field) : field.column.toList.all isColumnChar = true := by
  exact plain _ (mem_of_find? found)

/-- The condition of a query is contained, whatever the query. -/
theorem contained_whereText (plain : r.HasPlainColumns) {q : Option Query} {sql : String}
    (compiled : r.whereText q = .ok (some sql)) : Contained sql.toList := by
  cases q with
  | none => cases compiled
  | some q =>
      -- each condition in the text is one that a field gave for a clause
      obtain ⟨c, joined, written⟩ := bind_pure_eq_ok.mp compiled
      obtain ⟨c, rfl, rfl⟩ := Option.map_eq_some_iff.mp written
      refine Sql.Condition.contained_text fun atom member => ?_
      obtain ⟨clause, _, said⟩ := Query.exists_clause_of_mem_atoms joined member
      obtain ⟨field, found, said⟩ := clauseCondition_eq_ok.mp said
      exact Field.contained_condition (plain.column found) said

/-! ## Orders -/

theorem contained_direction {ms : List Modifier} {sql : String} (said : direction ms = .ok sql) :
    Contained sql.toList := by
  induction ms generalizing sql with
  | nil =>
      cases said
      exact Contained.of_all rfl
  | cons m ms ih =>
      unfold direction at said
      split at said
      · exact ih said
      · split at said
        · obtain ⟨_, _, rfl⟩ := bind_pure_eq_ok.mp said
          exact Contained.of_all rfl
        · cases said

theorem contained_sortTerm (plain : r.HasPlainColumns) {key : SortKey} {sql : String}
    (said : r.sortTerm key = .ok sql) : Contained sql.toList := by
  obtain ⟨column, found, said⟩ := bind_eq_ok.mp said
  obtain ⟨direction, directed, rfl⟩ := bind_pure_eq_ok.mp said
  obtain ⟨field, resolved, rfl⟩ := bind_pure_eq_ok.mp found
  have space : Contained " ".toList := Contained.of_all rfl
  simp only [String.toList_append]
  exact ((contained_column (plain.column (resolve_eq_ok.mp resolved))).append space).append
    (contained_direction directed)

theorem contained_commaSeparated {ss : List String} (all : ∀ s ∈ ss, Contained s.toList) :
    Contained (commaSeparated ss).toList := by
  fun_induction commaSeparated ss with
  | case1 => exact Contained.of_all rfl
  | case2 s => exact all s List.mem_cons_self
  | case3 s ss more ih =>
      have comma : Contained ", ".toList := Contained.of_all rfl
      simp only [String.toList_append]
      exact ((all s List.mem_cons_self).append comma).append
        (ih fun t member => all t (List.mem_cons_of_mem s member))

/-- The order of a query is contained, whatever its sort keys. -/
theorem contained_orderText (plain : r.HasPlainColumns) {q : Option Query} {sql : String}
    (ordered : r.orderText q = .ok (some sql)) : Contained sql.toList := by
  unfold orderText at ordered
  split at ordered
  · cases ordered
  · obtain ⟨terms, traversed, said⟩ := bind_pure_eq_ok.mp ordered
    cases said
    refine contained_commaSeparated fun s member => ?_
    obtain ⟨key, _, said⟩ := exists_of_mem_mapM traversed member
    exact contained_sortTerm plain said

/-! ## Statements -/

theorem all_isColumnChar_of_isIdentifier {cs : List Char} (identifier : isIdentifier cs = true) :
    cs.all isColumnChar = true := by
  refine List.all_eq_true.mpr fun c member => ?_
  have part := all_isIdentifierPart_of_isIdentifier identifier c member
  simp only [isIdentifierPart, isColumnChar, Bool.or_eq_true] at part ⊢
  exact .inl part

theorem contained_table {table : String} (isTable : isTableName table = true) :
    Contained table.toList := by
  apply contained_column
  have split : table.toList.takeWhile (· != '.') ++ table.toList.dropWhile (· != '.') =
      table.toList := List.takeWhile_append_dropWhile
  have point := List.head?_dropWhile_not (· != '.') table.toList
  unfold isTableName at isTable
  rw [← split, List.all_append, Bool.and_eq_true]
  split at isTable
  · next none =>
    rw [none]
    exact ⟨all_isColumnChar_of_isIdentifier isTable, rfl⟩
  · next c second some =>
    rw [Bool.and_eq_true] at isTable
    rw [some] at point ⊢
    have dot : c = '.' := by simpa using point
    rw [List.all_cons, Bool.and_eq_true, dot]
    exact ⟨all_isColumnChar_of_isIdentifier isTable.1, rfl,
      all_isColumnChar_of_isIdentifier isTable.2⟩

theorem contained_introduced {words : String} {part : Option String}
    (before : Contained words.toList) (after : ∀ sql, part = some sql → Contained sql.toList) :
    Contained (introduced words part).toList := by
  cases part with
  | none => exact Contained.of_all rfl
  | some sql =>
      unfold introduced
      rw [String.toList_append]
      exact before.append (after sql rfl)

/-- A statement is contained, whatever its query. -/
theorem contained_select (plain : r.HasPlainColumns) {table sql : String} {q : Option Query}
    (selected : r.select table q = .ok sql) : Contained sql.toList := by
  obtain ⟨isTable, condition, order, compiled, ordered, rfl⟩ := select_eq_ok.mp selected
  have source : Contained table.toList := contained_table isTable
  have start : Contained "SELECT * FROM ".toList := Contained.of_all rfl
  have wanted : Contained (introduced " WHERE " condition).toList := by
    refine contained_introduced (Contained.of_all rfl) ?_
    rintro sql rfl
    exact contained_whereText plain compiled
  have sorting : Contained (introduced " ORDER BY " order).toList := by
    refine contained_introduced (Contained.of_all rfl) ?_
    rintro sql rfl
    exact contained_orderText plain ordered
  simp only [String.toList_append]
  exact ((start.append source).append wanted).append sorting

/-- A reader of any statement ends outside every literal, and has read nothing outside them that
opens a comment or ends a statement. -/
theorem outside_select {r : Registry} (plain : r.HasPlainColumns) {table sql : String}
    {q : Option Query} (selected : r.select table q = .ok sql) :
    ∃ text, Sql.outside sql.toList = some text ∧ (∀ c ∈ text, isStatementChar c = true) ∧
      ¬ ['-', '-'] <:+: text ∧ ¬ ['/', '*'] <:+: text ∧ ';' ∉ text := by
  obtain ⟨text, read, admitted⟩ := (contained_select plain selected).outside_eq
  exact ⟨text, read, admitted.chars, admitted.no_comment⟩

/-- **Confinement.** Whatever the texts of the queries and the name of the table, a reader of the
statement made from them ends outside every string literal. Outside it has read letters, digits and
the signs of the statement only, with no comment and no end of a statement among them. That the query
was read from texts is no part of the reason: every query is confined (`outside_select`). -/
theorem select_confines_texts (r : Registry) (plain : r.HasPlainColumns)
    (first second : Option String) (table sql : String) (q : Option Query)
    (_combined : Query.combine first second = .ok q) (selected : r.select table q = .ok sql) :
    ∃ text, Sql.outside sql.toList = some text ∧ (∀ c ∈ text, isStatementChar c = true) ∧
      ¬ ['-', '-'] <:+: text ∧ ¬ ['/', '*'] <:+: text ∧ ';' ∉ text :=
  outside_select plain selected

/-- A quote and a pattern in one text and a negative number in the other. -/
theorem select_confines_quote_and_sign :
    catalogue.HasPlainColumns ∧
    Query.combine (some "title = \"o'*\"") (some "cost > -1.5e-3") =
      .ok (some (.boolean .and [] (.clause ⟨"title", ⟨"=", []⟩, "o'*"⟩)
        (.clause ⟨"cost", ⟨">", []⟩, "-1.5e-3"⟩))) ∧
    catalogue.select "shelf.book" (some (.boolean .and [] (.clause ⟨"title", ⟨"=", []⟩, "o'*"⟩)
        (.clause ⟨"cost", ⟨">", []⟩, "-1.5e-3"⟩))) =
      .ok "SELECT * FROM shelf.book WHERE (title LIKE 'o''%' AND price>-1.5e-3)" ∧
    ∃ text, Sql.outside
        "SELECT * FROM shelf.book WHERE (title LIKE 'o''%' AND price>-1.5e-3)".toList = some text ∧
      (∀ c ∈ text, isStatementChar c = true) ∧
      ¬ ['-', '-'] <:+: text ∧ ¬ ['/', '*'] <:+: text ∧ ';' ∉ text := by
  have plain : catalogue.HasPlainColumns := by
    unfold HasPlainColumns
    decide +kernel
  have combined : Query.combine (some "title = \"o'*\"") (some "cost > -1.5e-3") =
      .ok (some (.boolean .and [] (.clause ⟨"title", ⟨"=", []⟩, "o'*"⟩)
        (.clause ⟨"cost", ⟨">", []⟩, "-1.5e-3"⟩))) := by
    cbv
  have selected : catalogue.select "shelf.book"
      (some (.boolean .and [] (.clause ⟨"title", ⟨"=", []⟩, "o'*"⟩)
        (.clause ⟨"cost", ⟨">", []⟩, "-1.5e-3"⟩))) =
      .ok "SELECT * FROM shelf.book WHERE (title LIKE 'o''%' AND price>-1.5e-3)" := by
    decide +kernel
  exact ⟨plain, combined, selected,
    select_confines_texts catalogue plain _ _ _ _ _ combined selected⟩

end Registry

end ContextQuery
