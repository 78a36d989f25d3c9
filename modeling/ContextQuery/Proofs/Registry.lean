import ContextQuery.Registry

/-!
# Looking fields up

After an insertion the new field is found under every name with the same small letters, and all other
names are looked up as before (`Registry.find?_insert`). A name that is new adds one index to those
that there are (`Registry.indexes_insert_perm`).
-/

namespace ContextQuery

open Text (lowercase)

/-- The field with this column, if it has none. -/
def Field.orColumn (f : Field) (column : String) : Field :=
  if f.column.isEmpty then { f with column } else f

namespace Registry

/-! ## Entries -/

theorem lookup_cons_eq_ite (key : String) (field : Field) (rest : List (String × Field))
    (k : String) :
    ((key, field) :: rest).lookup k = if k = key then some field else rest.lookup k := by
  rw [List.lookup_cons]
  by_cases same : k = key
  · rw [if_pos same, beq_iff_eq.mpr same]
  · rw [if_neg same, beq_eq_false_iff_ne.mpr same]

/-- An added entry is found at its own key, and every other key finds what it found before. -/
theorem lookup_insertEntry (key : String) (field : Field) (entries : List (String × Field))
    (k : String) :
    (insertEntry key field entries).lookup k =
      if k = key then some field else entries.lookup k := by
  induction entries with
  | nil => exact lookup_cons_eq_ite key field [] k
  | cons entry rest ih =>
      obtain ⟨other, f⟩ := entry
      unfold insertEntry
      by_cases before : key < other
      · rw [if_pos before]
        exact lookup_cons_eq_ite _ _ _ _
      · rw [if_neg before]
        by_cases replaced : key = other
        · subst replaced
          rw [if_pos rfl, lookup_cons_eq_ite, lookup_cons_eq_ite]
          by_cases same : k = key
          · rw [if_pos same, if_pos same]
          · rw [if_neg same, if_neg same, if_neg same]
        · rw [if_neg replaced, lookup_cons_eq_ite, lookup_cons_eq_ite, ih]
          by_cases same : k = other
          · rw [if_pos same, if_neg fun isKey => replaced (isKey.symm.trans same), if_pos same]
          · rw [if_neg same, if_neg same]

theorem map_fst_insertEntry_perm {key : String} {entries : List (String × Field)}
    (new : key ∉ entries.map Prod.fst) (field : Field) :
    ((insertEntry key field entries).map Prod.fst).Perm (key :: entries.map Prod.fst) := by
  induction entries with
  | nil => exact .refl _
  | cons entry rest ih =>
      obtain ⟨other, f⟩ := entry
      rw [List.map_cons, List.mem_cons, not_or] at new
      unfold insertEntry
      by_cases before : key < other
      · rw [if_pos before]
        exact .refl _
      · rw [if_neg before, if_neg new.1]
        exact ((ih new.2).cons other).trans (.swap key other _)

/-! ## Registries -/

/-- A name finds the field that was added under it, in any case and with its column, and any other
name finds what it found before. -/
theorem find?_insert (r : Registry) (name : String) (field : Field) (other : String) :
    (r.insert name field).find? other =
      if lowercase other = lowercase name then some (field.orColumn (lowercase name))
      else r.find? other :=
  lookup_insertEntry _ _ _ _

theorem mem_of_find? {r : Registry} {name : String} {field : Field}
    (found : r.find? name = some field) : (lowercase name, field) ∈ r.entries := by
  obtain ⟨before, after, split, -⟩ := List.lookup_eq_some_iff.mp found
  rw [split]
  exact List.mem_append_right before List.mem_cons_self

/-- A name finds nothing exactly where it is not among the indexes. -/
theorem find?_eq_none_iff {r : Registry} {name : String} :
    r.find? name = none ↔ lowercase name ∉ r.indexes := by
  unfold find? indexes
  rw [List.lookup_eq_none_iff, List.mem_map]
  constructor
  · rintro others ⟨entry, member, same⟩
    exact bne_iff_ne.mp (others entry member) same.symm
  · intro new entry member
    rw [bne_iff_ne]
    exact fun same => new ⟨entry, member, same.symm⟩

theorem indexes_insert_perm {r : Registry} {name : String} (new : lowercase name ∉ r.indexes)
    (field : Field) : (r.insert name field).indexes.Perm (lowercase name :: r.indexes) :=
  map_fst_insertEntry_perm new _

end Registry

end ContextQuery
