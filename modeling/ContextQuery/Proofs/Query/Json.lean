import ContextQuery.Query.Json
import Mathlib.Data.List.Basic

/-!
# Different queries as JSON

Members of an object are left out where they would be empty, and still no two queries are the same
JSON value (`Query.toJson_injective`): the names of the members that are there tell which are left
out.
-/

namespace ContextQuery

/-! ## Members that may be left out -/

theorem Json.str_injective : Function.Injective Json.str :=
  fun _ _ => Json.str.inj

/-- The name that an object goes on with. -/
def nextName? (members : List (String × Json)) : Option String :=
  members.head?.map Prod.fst

section
variable {rest rest' : List (String × Json)}

/-- A member that may be left out is known where no other of its name can come next. -/
theorem eq_of_optional_append {α : Type} {name : String} {f : α → Json}
    (injective : Function.Injective f) {o o' : Option α} (other : nextName? rest ≠ some name)
    (other' : nextName? rest' ≠ some name)
    (same : (o.map fun a => (name, f a)).toList ++ rest =
      (o'.map fun a => (name, f a)).toList ++ rest') : o = o' ∧ rest = rest' := by
  cases o with
  | none =>
      cases o' with
      | none => exact ⟨rfl, same⟩
      | some a' => exact absurd (congrArg nextName? same) other
  | some a =>
      cases o' with
      | none => exact absurd (congrArg nextName? same).symm other'
      | some a' =>
          obtain ⟨first, more⟩ := List.cons.inj same
          exact ⟨congrArg some (injective (Prod.mk.inj first).2), more⟩

/-! ## Modifiers -/

theorem Modifier.toJson_injective : Function.Injective Modifier.toJson := by
  rintro ⟨name, comparison, value⟩ ⟨name', comparison', value'⟩ same
  obtain ⟨first, more⟩ := List.cons.inj (Json.obj.inj same)
  cases first
  have noComparison (v : Option String) :
      nextName? (v.map fun s => ("value", Json.str s)).toList ≠ some "comparison" := by
    cases v <;> simp [nextName?]
  obtain ⟨rfl, last⟩ := eq_of_optional_append Json.str_injective (noComparison value)
    (noComparison value') more
  obtain ⟨rfl, -⟩ := eq_of_optional_append Json.str_injective (by nofun) (by nofun)
    (congrArg (· ++ []) last)
  rfl

/-- The modifiers of a node are known from its members. -/
theorem eq_of_modifiersMember_append {ms ms' : List Modifier}
    (other : nextName? rest ≠ some "modifiers") (other' : nextName? rest' ≠ some "modifiers")
    (same : modifiersMember ms ++ rest = modifiersMember ms' ++ rest') :
    ms = ms' ∧ rest = rest' := by
  cases ms with
  | nil =>
      cases ms' with
      | nil => exact ⟨rfl, same⟩
      | cons m' ms' => exact absurd (congrArg nextName? same) other
  | cons m ms =>
      cases ms' with
      | nil => exact absurd (congrArg nextName? same).symm other'
      | cons m' ms' =>
          obtain ⟨first, more⟩ := List.cons.inj same
          have modifiers := Json.arr.inj (Prod.mk.inj first).2
          exact ⟨List.map_injective_iff.mpr Modifier.toJson_injective modifiers, more⟩

/-- What has a name and modifiers is known from its members. -/
theorem eq_of_named {base base' : String} {ms ms' : List Modifier}
    (same : Json.obj ([("base", .str base)] ++ modifiersMember ms) =
      .obj ([("base", .str base')] ++ modifiersMember ms')) : base = base' ∧ ms = ms' := by
  obtain ⟨first, more⟩ := List.cons.inj (Json.obj.inj same)
  obtain ⟨rfl, -⟩ := eq_of_modifiersMember_append (by nofun) (by nofun)
    (congrArg (· ++ []) more)
  cases first
  exact ⟨rfl, rfl⟩

end

theorem Relation.toJson_injective : Function.Injective Relation.toJson := by
  rintro ⟨base, ms⟩ ⟨base', ms'⟩ same
  obtain ⟨rfl, rfl⟩ := eq_of_named same
  rfl

theorem SortKey.toJson_injective : Function.Injective SortKey.toJson := by
  rintro ⟨base, ms⟩ ⟨base', ms'⟩ same
  obtain ⟨rfl, rfl⟩ := eq_of_named same
  rfl

/-! ## Queries -/

theorem BooleanOp.keyword_injective : Function.Injective BooleanOp.keyword := by
  intro op op'
  cases op <;> cases op' <;> decide

/-- No two queries are the same JSON value. -/
theorem Query.toJson_injective : Function.Injective Query.toJson := by
  -- the first member tells the kind of the node, and the others tell its parts
  intro q
  induction q with
  | clause c =>
      intro q' same
      cases q' with
      | clause c' =>
          obtain ⟨index, relation, term⟩ := c
          obtain ⟨index', relation', term'⟩ := c'
          simp only [toJson, Json.obj.injEq, List.cons.injEq, Prod.mk.injEq, Json.str.injEq,
            true_and, and_true] at same
          obtain ⟨rfl, sameRelation, rfl⟩ := same
          rw [Relation.toJson_injective sameRelation]
      | _ => simp [toJson] at same
  | boolean op ms left right ihLeft ihRight =>
      intro q' same
      cases q' with
      | boolean op' ms' left' right' =>
          simp only [toJson, Json.obj.injEq, List.cons_append, List.nil_append, List.cons.injEq,
            Prod.mk.injEq, Json.str.injEq, true_and] at same
          obtain ⟨keyword, more⟩ := same
          obtain ⟨rfl, operands⟩ :=
            eq_of_modifiersMember_append (by simp [nextName?]) (by simp [nextName?]) more
          simp only [List.cons.injEq, Prod.mk.injEq, true_and, and_true] at operands
          rw [BooleanOp.keyword_injective keyword, ihLeft operands.1, ihRight operands.2]
      | _ => simp [toJson] at same
  | sorted subtree keys ih =>
      intro q' same
      cases q' with
      | sorted subtree' keys' =>
          simp only [toJson, Json.obj.injEq, List.cons.injEq, Prod.mk.injEq, Json.arr.injEq,
            true_and, and_true] at same
          obtain ⟨below, keys⟩ := same
          rw [ih below, List.map_injective_iff.mpr SortKey.toJson_injective keys]
      | _ => simp [toJson] at same
  | «scoped» name uri subtree ih =>
      intro q' same
      cases q' with
      | «scoped» name' uri' subtree' =>
          simp only [toJson, Json.obj.injEq, List.cons_append, List.nil_append, List.cons.injEq,
            true_and] at same
          obtain ⟨rfl, more⟩ := eq_of_optional_append Json.str_injective (by simp [nextName?])
            (by simp [nextName?]) same
          simp only [List.cons.injEq, Prod.mk.injEq, Json.str.injEq, true_and, and_true] at more
          rw [more.1, ih more.2]
      | _ => simp [toJson] at same

end ContextQuery
