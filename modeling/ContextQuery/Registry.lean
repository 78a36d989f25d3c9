import ContextQuery.Field.Basic
import ContextQuery.Text.Lowercase

/-!
# The registry of fields

A registry maps index names, without regard to case, to fields. It is kept in the order of the
lower-cased names, each of which occurs once; the last field added under a name is the one found.
-/

namespace ContextQuery

/-- Fields under lower-cased index names, in the order of the names. -/
structure Registry where
  entries : List (String × Field)
  sorted : entries.Pairwise fun a b => a.1 < b.1

namespace Registry

/-- No fields. -/
def empty : Registry :=
  ⟨[], .nil⟩

/-- The entries with one more, in the place of an entry under the same key if there is one. -/
def insertEntry (key : String) (field : Field) : List (String × Field) → List (String × Field)
  | [] => [(key, field)]
  | (k, f) :: rest =>
    if key < k then (key, field) :: (k, f) :: rest
    else if key = k then (key, field) :: rest
    else (k, f) :: insertEntry key field rest

theorem mem_insertEntry {key : String} {field : Field} {entries : List (String × Field)}
    {e : String × Field} (h : e ∈ insertEntry key field entries) :
    e = (key, field) ∨ e ∈ entries := by
  induction entries with
  | nil => simpa [insertEntry] using h
  | cons head rest ih =>
    obtain ⟨k, f⟩ := head
    unfold insertEntry at h
    split at h
    · simpa using h
    · split at h
      · simp only [List.mem_cons] at h ⊢
        exact h.imp id .inr
      · simp only [List.mem_cons] at h ⊢
        rcases h with h | h
        · exact .inr (.inl h)
        · exact (ih h).imp id .inr

theorem sorted_insertEntry (key : String) (field : Field) {entries : List (String × Field)}
    (h : entries.Pairwise fun a b => a.1 < b.1) :
    (insertEntry key field entries).Pairwise fun a b => a.1 < b.1 := by
  induction entries with
  | nil => simp [insertEntry]
  | cons head rest ih =>
    obtain ⟨k, f⟩ := head
    rw [List.pairwise_cons] at h
    unfold insertEntry
    split
    · next hlt =>
      refine List.pairwise_cons.2 ⟨fun e he => ?_, List.pairwise_cons.2 h⟩
      rcases List.mem_cons.1 he with rfl | he
      · exact hlt
      · exact String.lt_trans hlt (h.1 e he)
    · next hlt =>
      split
      · next heq =>
        subst heq
        exact List.pairwise_cons.2 h
      · next hne =>
        refine List.pairwise_cons.2 ⟨fun e he => ?_, ih h.2⟩
        rcases mem_insertEntry he with rfl | he
        · exact Std.lt_of_le_of_ne (String.not_lt.1 hlt) fun hk => hne hk.symm
        · exact h.1 e he

/-- The registry with a field added under a name. A field without a column takes the lower-cased
name for its column. -/
def insert (r : Registry) (name : String) (field : Field) : Registry :=
  let key := Text.lowercase name
  let field := if field.column.isEmpty then { field with column := key } else field
  ⟨insertEntry key field r.entries, sorted_insertEntry key field r.sorted⟩

/-- The field under a name. -/
def find? (r : Registry) (name : String) : Option Field :=
  r.entries.lookup (Text.lowercase name)

/-- The lower-cased names, in order. -/
def indexes (r : Registry) : List String :=
  r.entries.map (·.1)

/-- The number of fields. -/
def size (r : Registry) : Nat :=
  r.entries.length

end Registry

end ContextQuery
