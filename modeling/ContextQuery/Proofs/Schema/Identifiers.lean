import Mathlib.Data.List.TakeWhile
import ContextQuery.Proofs.Schema.Names

/-!
# Schemas as identifiers

The name of a tenant is checked and that of a module hardly is, so the name of a schema is an
identifier just when the module brings no other characters and leaves room for the tenant
(`Schema.name_usable_iff`). With modules of at most thirty-one letters, digits, underscores,
hyphens and points it always is; that modules are of this form is not checked
(`Schema.name_not_usable`).
-/

namespace ContextQuery

/-- A character that stands in the name of a schema as a part of an identifier. -/
def IsModulePart (c : Char) : Prop :=
  isIdentifierPart c = true ∨ c = '-' ∨ c = '.'

instance (c : Char) : Decidable (IsModulePart c) :=
  inferInstanceAs (Decidable (_ ∨ _))

/-- A character of a module is one of an identifier after the hyphens and points are replaced. -/
theorem isIdentifierPart_moduleChar {c : Char} :
    isIdentifierPart (moduleChar c) = true ↔ IsModulePart c := by
  unfold moduleChar IsModulePart
  by_cases taken : c = '-' ∨ c = '.'
  · rw [if_pos taken]
    exact iff_of_true (by decide) (.inr taken)
  · rw [if_neg taken]
    exact (or_iff_left taken).symm

theorem isIdentifierPart_of_isTenantPart {c : Char} (part : isTenantPart c = true) :
    isIdentifierPart c = true := by
  have letters : c.isAlphanum = ((c.isUpper || c.isLower) || c.isDigit) := rfl
  simp only [isTenantPart, Bool.or_eq_true] at part
  simp only [isIdentifierPart, letters, Bool.or_eq_true]
  rcases part with (small | digit) | underscore
  · exact .inl (.inl (.inr small))
  · exact .inl (.inr digit)
  · exact .inr underscore

/-- An identifier begins with a tenant name, if what follows the tenant is made of the characters of
identifiers and not too long. -/
theorem isIdentifier_append_of_isTenantName {tenant more : List Char}
    (isTenant : isTenantName tenant = true) :
    isIdentifier (tenant ++ more) = true ↔
      (∀ c ∈ more, isIdentifierPart c = true) ∧ tenant.length + more.length ≤ 63 := by
  cases tenant with
  | nil => cases isTenant
  | cons c cs =>
      simp only [isTenantName, Bool.and_eq_true, List.all_eq_true] at isTenant
      obtain ⟨⟨small, parts⟩, -⟩ := isTenant
      have start : isIdentifierStart c = true := by
        have letters : c.isAlpha = (c.isUpper || c.isLower) := rfl
        simp [isIdentifierStart, letters, small]
      have own : ∀ d ∈ cs, isIdentifierPart d = true := fun d member =>
        isIdentifierPart_of_isTenantPart (parts d member)
      rw [List.cons_append, isIdentifier, start, Bool.true_and, Bool.and_eq_true,
        List.all_eq_true, decide_eq_true_eq, List.forall_mem_append, and_iff_right own,
        List.length_append, List.length_cons]
      exact and_congr_right fun _ => ⟨fun fits => by omega, fun fits => by omega⟩

theorem Tenant.length_pos (t : Tenant) : 0 < t.name.length := by
  have valid := t.valid
  rw [← String.length_toList]
  cases characters : t.name.toList with
  | nil =>
      rw [characters] at valid
      cases valid
  | cons c cs => exact Nat.zero_lt_succ _

theorem Tenant.length_le (t : Tenant) : t.name.length ≤ 31 := by
  have valid := t.valid
  rw [← String.length_toList]
  cases characters : t.name.toList with
  | nil => exact Nat.zero_le _
  | cons c cs =>
      rw [characters] at valid
      simp only [isTenantName, Bool.and_eq_true, decide_eq_true_eq] at valid
      exact Nat.succ_le_succ valid.2

/-- A table without a schema is named by an identifier. -/
theorem isTableName_iff_isIdentifier {table : String} (plain : '.' ∉ table.toList) :
    isTableName table = true ↔ isIdentifier table.toList = true := by
  have noPoint : ∀ c ∈ table.toList, (c != '.') = true := by
    intro c member
    rw [bne_iff_ne]
    rintro rfl
    exact plain member
  unfold isTableName
  rw [List.takeWhile_eq_self_iff.mpr noPoint, List.dropWhile_eq_nil_iff.mpr noPoint]

namespace Schema

variable {s : Schema}

theorem point_not_mem_name {moduleName : String}
    (isModule : ModuleName.parse moduleName = .ok s.moduleName) : '.' ∉ s.name.toList := by
  rw [toList_name, ModuleName.name_of_parse isModule, List.mem_append, List.mem_cons, not_or,
    not_or]
  exact ⟨s.tenant.point_not_mem, by decide, point_not_mem_map_moduleChar moduleName⟩

/-- The name of a schema is an identifier exactly where the characters of the module allow it and
both parts are short enough. -/
theorem isIdentifier_name {moduleName : String}
    (isModule : ModuleName.parse moduleName = .ok s.moduleName) :
    isIdentifier s.name.toList = true ↔
      (∀ c ∈ moduleName.toList, IsModulePart c) ∧
        s.tenant.name.length + moduleName.length ≤ 62 := by
  have underscore : isIdentifierPart '_' = true := by decide
  rw [toList_name, isIdentifier_append_of_isTenantName s.tenant.valid,
    ModuleName.name_of_parse isModule, String.toList_map, List.forall_mem_cons,
    and_iff_right underscore, List.forall_mem_map, List.length_cons, List.length_map,
    String.length_toList, String.length_toList]
  simp only [isIdentifierPart_moduleChar]
  exact and_congr_right fun _ => ⟨fun fits => by omega, fun fits => by omega⟩

/-- A table in a schema is named where both the schema and the table are identifiers. -/
theorem checkTableName_table {moduleName : String}
    (isModule : ModuleName.parse moduleName = .ok s.moduleName) (table : String) :
    checkTableName (s.table table) = .ok (s.table table) ↔
      isIdentifier s.name.toList = true ∧ isIdentifier table.toList = true := by
  rw [checkTableName_eq_ok, and_iff_left rfl]
  exact isTableName_qualified (point_not_mem_name isModule)

/-- **Usable schemas.** The name of a schema is an identifier just when the module is made of
letters, digits, underscores, hyphens and points, and comes to at most sixty-two characters with the
tenant. This is also when every plain table can be named in the schema. A module of at most
thirty-one such characters never makes the name too long. -/
theorem name_usable_iff (s : Schema) (tenant moduleName : String)
    (isTenant : Tenant.parse tenant = .ok s.tenant)
    (isModule : ModuleName.parse moduleName = .ok s.moduleName) :
    (isIdentifier s.name.toList = true ↔
      (∀ c ∈ moduleName.toList, IsModulePart c) ∧ tenant.length + moduleName.length ≤ 62) ∧
    ((∀ table, '.' ∉ table.toList → checkTableName table = .ok table →
        checkTableName (s.table table) = .ok (s.table table)) ↔
      isIdentifier s.name.toList = true) ∧
    ((∀ c ∈ moduleName.toList, IsModulePart c) → moduleName.length ≤ 31 →
      isIdentifier s.name.toList = true) := by
  have usable := isIdentifier_name isModule
  have short := s.tenant.length_le
  rw [Tenant.name_of_parse isTenant] at usable short
  refine ⟨usable, ⟨fun named => ?_, fun isSchema table plain isTable => ?_⟩, fun parts fits => ?_⟩
  · -- a table of one letter
    have isTable : checkTableName "t" = .ok "t" := rfl
    exact ((checkTableName_table isModule "t").mp (named "t" (by decide) isTable)).1
  · rw [checkTableName_table isModule]
    have isName := (checkTableName_eq_ok.mp isTable).1
    exact ⟨isSchema, (isTableName_iff_isIdentifier plain).mp isName⟩
  · exact usable.mpr ⟨parts, by omega⟩

theorem name_usable_iff_of_hyphen :
    ∃ s : Schema, Tenant.parse "t_1" = .ok s.tenant ∧
      ModuleName.parse "mod-a.2" = .ok s.moduleName ∧
      isIdentifier s.name.toList = true ∧
      (∀ table, '.' ∉ table.toList → checkTableName table = .ok table →
        checkTableName (s.table table) = .ok (s.table table)) := by
  have isTenant : Tenant.parse "t_1" = .ok ⟨"t_1", by decide⟩ := dif_pos _
  have isModule : ModuleName.parse "mod-a.2" = .ok ⟨"mod_a_2"⟩ := by decide +kernel
  obtain ⟨usable, named, -⟩ :=
    name_usable_iff ⟨⟨"t_1", by decide⟩, ⟨"mod_a_2"⟩⟩ "t_1" "mod-a.2" isTenant isModule
  have parts : "mod-a.2".toList.all (fun c => decide (IsModulePart c)) = true := by decide
  have isSchema := usable.mpr
    ⟨fun c member => of_decide_eq_true (List.all_eq_true.mp parts c member), by decide⟩
  exact ⟨_, isTenant, isModule, isSchema, named.mpr isSchema⟩

/-- What is not refused is accepted: a module too long for the name of a schema, or with a character
that an identifier cannot hold. No table can be named in its schemas. -/
theorem name_not_usable (t : Tenant) {moduleName : String}
    (noQuote : ∀ c ∈ moduleName.toList, c ≠ '\'' ∧ c ≠ '"')
    (unfit : 62 ≤ moduleName.length ∨ ∃ c ∈ moduleName.toList, ¬ IsModulePart c) :
    ∃ s : Schema, s.tenant = t ∧ ModuleName.parse moduleName = .ok s.moduleName ∧
      ¬ isIdentifier s.name.toList = true ∧
      ∀ table, checkTableName (s.table table) = .error (.table (s.table table)) := by
  have isModule : ModuleName.parse moduleName = .ok ⟨moduleName.map moduleChar⟩ := by
    rw [ModuleName.parse, if_neg]
    rw [List.any_eq_true]
    rintro ⟨c, member, quote⟩
    simp only [Bool.or_eq_true, beq_iff_eq] at quote
    exact quote.elim (noQuote c member).1 (noQuote c member).2
  let s : Schema := ⟨t, ⟨moduleName.map moduleChar⟩⟩
  have noSchema : ¬ isIdentifier s.name.toList = true := by
    rw [isIdentifier_name (s := s) isModule]
    rintro ⟨parts, fits⟩
    rcases unfit with long | ⟨c, member, other⟩
    · have named := t.length_pos
      have within : t.name.length + moduleName.length ≤ 62 := fits
      omega
    · exact other (parts c member)
  refine ⟨s, rfl, isModule, noSchema, fun table => ?_⟩
  rw [checkTableName, if_neg]
  exact fun isTable => noSchema ((checkTableName_table (s := s) isModule table).mp
    (checkTableName_eq_ok.mpr ⟨isTable, rfl⟩)).1

end Schema

end ContextQuery
