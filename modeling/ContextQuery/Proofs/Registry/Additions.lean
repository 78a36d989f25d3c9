import Mathlib.Data.List.Induction
import Mathlib.Data.List.Perm.Basic
import ContextQuery.Proofs.Registry
import ContextQuery.Select

/-!
# Adding fields one after the other

A registry is made by adding fields to an empty one. Of the fields added under names with the same
small letters it has the last, and its indexes are the small letters of all names
(`Registry.adding_keeps_last`). Since a registry is what its lookups find (`Registry.ext_lookup`),
two additions under other small letters can be made in either order (`Registry.adding_swap`), and
nothing that is asked of the registry tells which came first.
-/

namespace ContextQuery

open Text (lowercase)

/-- A field, and the name to add it under. -/
structure Addition where
  name : String
  field : Field
  deriving DecidableEq, Repr

namespace Addition

/-- The small letters of the name. -/
def key (a : Addition) : String :=
  lowercase a.name

/-- The field as the registry has it: with a column of its own, or named like its index. -/
def registered (a : Addition) : Field :=
  a.field.orColumn a.key

/-- Of the additions with these small letters, the last. -/
def IsLast (additions : List Addition) (key : String) (a : Addition) : Prop :=
  ∃ before after, additions = before ++ a :: after ∧ a.key = key ∧ ∀ later ∈ after, later.key ≠ key

/-- One addition more is the last with its small letters, and is no matter to others. -/
theorem isLast_concat {additions : List Addition} {b : Addition} {key : String} {a : Addition} :
    IsLast (additions ++ [b]) key a ↔
      if key = b.key then a = b else IsLast additions key a := by
  constructor
  · rintro ⟨before, after, split, same, last⟩
    rcases after.eq_nil_or_concat' with rfl | ⟨after, c, rfl⟩
    · obtain ⟨-, isLast⟩ := List.append_inj' split rfl
      cases isLast
      rw [if_pos same.symm]
    · rw [← List.cons_append, ← List.append_assoc] at split
      obtain ⟨earlier, isLast⟩ := List.append_inj' split rfl
      cases isLast
      rw [List.forall_mem_append, List.forall_mem_singleton] at last
      rw [if_neg last.2.symm]
      exact ⟨before, after, earlier, same, last.1⟩
  · intro found
    by_cases here : key = b.key
    · rw [if_pos here] at found
      subst found
      exact ⟨additions, [], rfl, here.symm, nofun⟩
    · rw [if_neg here] at found
      obtain ⟨before, after, rfl, same, last⟩ := found
      refine ⟨before, after ++ [b], by simp, same, ?_⟩
      rw [List.forall_mem_append, List.forall_mem_singleton]
      exact ⟨last, Ne.symm here⟩

/-- The field keeps its type, and its column if it has one. -/
theorem registered_eq_iff {a : Addition} {field : Field} :
    a.registered = field ↔ field.kind = a.field.kind ∧
      field.column = if a.field.column = "" then a.key else a.field.column := by
  have own : a.registered =
      ⟨if a.field.column = "" then a.key else a.field.column, a.field.kind⟩ := by
    unfold registered Field.orColumn
    by_cases none : a.field.column = ""
    · rw [if_pos (String.isEmpty_iff.mpr none), if_pos none]
    · rw [if_neg (mt String.isEmpty_iff.mp none), if_neg none]
  rw [own]
  constructor
  · rintro rfl
    exact ⟨rfl, rfl⟩
  · rintro ⟨kind, column⟩
    rw [← kind, ← column]

end Addition

namespace Registry

/-! ## Registries as what they find -/

theorem mem_entries_iff {r : Registry} {key : String} {field : Field} :
    (key, field) ∈ r.entries ↔ r.entries.lookup key = some field := by
  constructor
  · intro member
    obtain ⟨before, after, split⟩ := List.append_of_mem member
    refine List.lookup_eq_some_iff.mpr ⟨before, after, split, fun entry earlier => ?_⟩
    -- what stands before it has a smaller key
    have sorted := r.sorted
    rw [split, List.pairwise_append] at sorted
    have smaller := sorted.2.2 entry earlier (key, field) List.mem_cons_self
    rw [bne_iff_ne]
    rintro rfl
    exact String.lt_irrefl _ smaller
  · intro found
    obtain ⟨before, after, split, -⟩ := List.lookup_eq_some_iff.mp found
    rw [split]
    exact List.mem_append_right before List.mem_cons_self

theorem nodup_entries (r : Registry) : r.entries.Nodup := by
  refine r.sorted.imp fun {a b} smaller => ?_
  rintro rfl
  exact String.lt_irrefl _ smaller

/-- Registries that find the same are the same. -/
theorem ext_lookup {r r' : Registry} (same : ∀ key, r.entries.lookup key = r'.entries.lookup key) :
    r = r' := by
  have members (entry : String × Field) : entry ∈ r.entries ↔ entry ∈ r'.entries := by
    rw [← Prod.eta entry, mem_entries_iff, mem_entries_iff, same]
  have perm := (List.perm_ext_iff_of_nodup r.nodup_entries r'.nodup_entries).mpr members
  have entries : r.entries = r'.entries :=
    perm.eq_of_pairwise
      (fun a b _ _ before after => absurd (String.lt_trans before after) (String.lt_irrefl _))
      r.sorted r'.sorted
  cases r
  cases r'
  cases entries
  rfl

/-! ## One addition -/

/-- The registry with one field more. -/
def add (r : Registry) (a : Addition) : Registry :=
  r.insert a.name a.field

theorem lookup_add (r : Registry) (a : Addition) (key : String) :
    (r.add a).entries.lookup key =
      if key = a.key then some a.registered else r.entries.lookup key :=
  lookup_insertEntry _ _ _ _

/-- A name with the same small letters finds the added field, and any other what it found before. -/
theorem find?_add (r : Registry) (a : Addition) (name : String) :
    (r.add a).find? name = if lowercase name = a.key then some a.registered else r.find? name :=
  r.lookup_add a (lowercase name)

theorem mem_map_fst_insertEntry {key index : String} {field : Field}
    {entries : List (String × Field)} :
    index ∈ (insertEntry key field entries).map Prod.fst ↔
      index = key ∨ index ∈ entries.map Prod.fst := by
  induction entries with
  | nil => simp [insertEntry]
  | cons entry rest ih =>
      obtain ⟨other, f⟩ := entry
      unfold insertEntry
      by_cases before : key < other
      · rw [if_pos before, List.map_cons, List.mem_cons]
      · rw [if_neg before]
        by_cases replaced : key = other
        · rw [if_pos replaced, List.map_cons, List.mem_cons, List.map_cons, List.mem_cons, replaced]
          exact or_self_left.symm
        · rw [if_neg replaced, List.map_cons, List.mem_cons, ih, List.map_cons, List.mem_cons]
          exact or_left_comm

theorem mem_indexes_add {r : Registry} {a : Addition} {index : String} :
    index ∈ (r.add a).indexes ↔ index = a.key ∨ index ∈ r.indexes :=
  mem_map_fst_insertEntry

/-- Additions under other small letters can be made in either order. -/
theorem add_add_comm (r : Registry) {a b : Addition} (other : a.key ≠ b.key) :
    (r.add a).add b = (r.add b).add a := by
  refine ext_lookup fun key => ?_
  rw [lookup_add, lookup_add, lookup_add, lookup_add]
  by_cases isFirst : key = a.key
  · rw [if_pos isFirst, if_neg fun isSecond => other (isFirst.symm.trans isSecond), if_pos isFirst]
  · rw [if_neg isFirst, if_neg isFirst]

/-! ## All additions -/

/-- The registry that the fields were added to, one after the other. -/
def adding (additions : List Addition) : Registry :=
  additions.foldl add empty

theorem adding_concat (additions : List Addition) (a : Addition) :
    adding (additions ++ [a]) = (adding additions).add a := by
  rw [adding, List.foldl_append]
  rfl

/-- A name finds the last of the additions with its small letters. -/
theorem find?_adding {additions : List Addition} {name : String} {field : Field} :
    (adding additions).find? name = some field ↔
      ∃ a, Addition.IsLast additions (lowercase name) a ∧ a.registered = field := by
  induction additions using List.reverseRecOn with
  | nil =>
      refine iff_of_false nofun ?_
      rintro ⟨a, ⟨before, after, split, -⟩, -⟩
      simp at split
  | append_singleton additions b ih =>
      rw [adding_concat, find?_add]
      simp only [Addition.isLast_concat]
      by_cases here : lowercase name = b.key
      · simp [here]
      · simp only [if_neg here, ih]

/-- The indexes are the small letters of all names. -/
theorem mem_indexes_adding {additions : List Addition} {index : String} :
    index ∈ (adding additions).indexes ↔ ∃ a ∈ additions, a.key = index := by
  induction additions using List.reverseRecOn with
  | nil => exact iff_of_false List.not_mem_nil (by simp)
  | append_singleton additions b ih =>
      rw [adding_concat, mem_indexes_add, ih]
      simp [or_comm, or_and_right, exists_or, eq_comm]

theorem sorted_indexes (r : Registry) : r.indexes.Pairwise (· < ·) :=
  List.pairwise_map.mpr r.sorted

theorem length_indexes (r : Registry) : r.indexes.length = r.size :=
  List.length_map _

/-- Neighbours with other small letters can be exchanged, whatever is added before and after. -/
theorem adding_swap (before after : List Addition) {a b : Addition} (other : a.key ≠ b.key) :
    adding (before ++ a :: b :: after) = adding (before ++ b :: a :: after) := by
  rw [adding, adding, List.foldl_append, List.foldl_append, List.foldl_cons, List.foldl_cons,
    List.foldl_cons, List.foldl_cons, add_add_comm _ other]

/-! ## What is asked of a registry -/

/-- The registries answer alike whatever is asked of them: for a name, or for a query that was read
from texts, which no registry has a part in. -/
structure SameAnswers (r r' : Registry) : Prop where
  find? : ∀ name, r.find? name = r'.find? name
  indexes : r.indexes = r'.indexes
  size : r.size = r'.size
  whereText : ∀ q, r.whereText q = r'.whereText q
  orderText : ∀ q, r.orderText q = r'.orderText q
  orderColumns : ∀ q, r.orderColumns q = r'.orderColumns q
  select : ∀ table q, r.select table q = r'.select table q

theorem SameAnswers.refl (r : Registry) : r.SameAnswers r :=
  ⟨fun _ => rfl, rfl, rfl, fun _ => rfl, fun _ => rfl, fun _ => rfl, fun _ _ => rfl⟩

/-- **The last field added is the one found.** A name finds the last field added under a name with
its small letters, with the column that it carried, or the small letters if it carried none. The
indexes are the small letters of all names, each once and in order. Which of two additions in a row
comes first makes no difference to any answer, if their small letters differ. -/
theorem adding_keeps_last (additions : List Addition) :
    (∀ name field, (adding additions).find? name = some field ↔
      ∃ before a after, additions = before ++ a :: after ∧ lowercase a.name = lowercase name ∧
        (∀ later ∈ after, lowercase later.name ≠ lowercase name) ∧
        field.kind = a.field.kind ∧
        field.column = if a.field.column = "" then lowercase name else a.field.column) ∧
    (∀ name, (adding additions).find? name = none ↔
      ∀ a ∈ additions, lowercase a.name ≠ lowercase name) ∧
    (adding additions).indexes.Pairwise (· < ·) ∧
    (∀ index, index ∈ (adding additions).indexes ↔ ∃ a ∈ additions, lowercase a.name = index) ∧
    (adding additions).size = (adding additions).indexes.length ∧
    ∀ before a b after, additions = before ++ a :: b :: after →
      lowercase a.name ≠ lowercase b.name →
      SameAnswers (adding additions) (adding (before ++ b :: a :: after)) := by
  refine ⟨fun name field => ?_, fun name => ?_, sorted_indexes _, fun index => mem_indexes_adding,
    (length_indexes _).symm, ?_⟩
  · rw [find?_adding]
    constructor
    · rintro ⟨a, ⟨before, after, split, same, last⟩, found⟩
      obtain ⟨kind, column⟩ := Addition.registered_eq_iff.mp found
      rw [same] at column
      exact ⟨before, a, after, split, same, last, kind, column⟩
    · rintro ⟨before, a, after, split, same, last, kind, column⟩
      rw [← same] at column
      exact ⟨a, ⟨before, after, split, same, last⟩, Addition.registered_eq_iff.mpr ⟨kind, column⟩⟩
  · rw [find?_eq_none_iff, mem_indexes_adding]
    simp [Addition.key]
  · rintro before a b after rfl other
    rw [adding_swap before after other]
    exact .refl _

/-- A field that is replaced under other letters, and one with a column of its own between. -/
def replacedTitle : List Addition :=
  [⟨"Title", ⟨"", .text { matching := .like }⟩⟩, ⟨"cost", ⟨"price", .number⟩⟩,
    ⟨"TITLE", ⟨"", .boolean⟩⟩]

theorem adding_keeps_last_of_replacedTitle :
    (adding replacedTitle).find? "tItLe" = some ⟨"title", .boolean⟩ ∧
    (adding replacedTitle).find? "isbn" = none ∧
    SameAnswers (adding replacedTitle)
      (adding [⟨"Title", ⟨"", .text { matching := .like }⟩⟩, ⟨"TITLE", ⟨"", .boolean⟩⟩,
        ⟨"cost", ⟨"price", .number⟩⟩]) := by
  obtain ⟨found, missing, -, -, -, swapped⟩ := adding_keeps_last replacedTitle
  refine ⟨?_, ?_, ?_⟩
  · refine (found _ _).mpr ⟨replacedTitle.take 2, _, [], rfl, ?_, nofun, rfl, ?_⟩
    · decide +kernel
    · decide +kernel
  · refine (missing _).mpr ?_
    decide +kernel
  · exact swapped [_] _ _ [] rfl (by decide +kernel)

end Registry

end ContextQuery
