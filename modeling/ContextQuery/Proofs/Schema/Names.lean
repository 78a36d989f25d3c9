import ContextQuery.SchemaName

/-!
# The names of schemas

The name of a schema is that of the tenant, an underscore and that of the module. Underscores may
stand in both, so a name can be cut at more than one of them: two schemas have one name just when
one of them overlaps the other (`Schema.name_eq_iff`), that is, when the piece between two such cuts
belongs to the module on one side and to the tenant on the other.
-/

namespace ContextQuery

/-! ## Identifiers and tables -/

/-- The characters of an identifier. -/
theorem all_isIdentifierPart_of_isIdentifier {cs : List Char} (identifier : isIdentifier cs = true) :
    ∀ c ∈ cs, isIdentifierPart c = true := by
  cases cs with
  | nil => exact fun c member => absurd member List.not_mem_nil
  | cons c cs =>
      simp only [isIdentifier, Bool.and_eq_true, List.all_eq_true] at identifier
      obtain ⟨⟨start, parts⟩, -⟩ := identifier
      intro d member
      rcases List.mem_cons.mp member with rfl | member
      · simp only [isIdentifierStart, Bool.or_eq_true] at start
        simp only [isIdentifierPart, Char.isAlphanum, Bool.or_eq_true]
        exact start.imp_left .inl
      · exact parts d member

theorem checkTableName_eq_ok {name table : String} :
    checkTableName name = .ok table ↔ isTableName name = true ∧ name = table := by
  unfold checkTableName
  split
  · next isTable => simp [isTable]
  · next noTable => simp [noTable]

theorem not_mem_of_isIdentifier {cs : List Char} (identifier : isIdentifier cs = true) {c : Char}
    (other : isIdentifierPart c = false) : c ∉ cs := by
  intro member
  rw [all_isIdentifierPart_of_isIdentifier identifier c member] at other
  cases other

/-- Behind a name without a point, the name of a table is that of a schema and one more. -/
theorem isTableName_qualified {schema table : String} (free : '.' ∉ schema.toList) :
    isTableName (schema ++ "." ++ table) = true ↔
      isIdentifier schema.toList = true ∧ isIdentifier table.toList = true := by
  have characters : (schema ++ "." ++ table).toList = schema.toList ++ '.' :: table.toList := by
    simp
  have noPoint : ∀ c ∈ schema.toList, (c != '.') = true := by
    intro c member
    rw [bne_iff_ne]
    rintro rfl
    exact free member
  unfold isTableName
  rw [characters, List.takeWhile_append_of_pos noPoint, List.dropWhile_append_of_pos noPoint]
  simp

/-! ## Tenants and modules -/

theorem Tenant.name_of_parse {name : String} {t : Tenant} (parsed : parse name = .ok t) :
    t.name = name := by
  unfold parse at parsed
  split at parsed
  · cases parsed
    rfl
  · cases parsed

theorem ModuleName.name_of_parse {name : String} {m : ModuleName} (parsed : parse name = .ok m) :
    m.name = name.map moduleChar := by
  unfold parse at parsed
  split at parsed
  · cases parsed
  · cases parsed
    rfl

/-- No tenant has a point in its name. -/
theorem Tenant.point_not_mem (t : Tenant) : '.' ∉ t.name.toList := by
  have valid := t.valid
  cases characters : t.name.toList with
  | nil => exact List.not_mem_nil
  | cons c cs =>
      rw [characters] at valid
      simp only [isTenantName, Bool.and_eq_true, List.all_eq_true] at valid
      obtain ⟨⟨letter, parts⟩, -⟩ := valid
      intro member
      rcases List.mem_cons.mp member with same | member
      · rw [← same] at letter
        exact absurd letter (by decide)
      · exact absurd (parts '.' member) (by decide)

/-- Nor is one left in the name of a module. -/
theorem point_not_mem_map_moduleChar (name : String) : '.' ∉ (name.map moduleChar).toList := by
  rw [String.toList_map, List.mem_map]
  rintro ⟨c, -, point⟩
  unfold moduleChar at point
  by_cases taken : c = '-' ∨ c = '.'
  · rw [if_pos taken] at point
    exact absurd point (by decide)
  · rw [if_neg taken] at point
    exact taken (.inr point)

/-! ## Schemas with one name -/

/-- Two ways to cut a text at one character: at the same place, or with a piece between the two
places. -/
theorem append_cons_eq_append_cons {α : Type} {a b c d : List α} {x : α} :
    a ++ x :: b = c ++ x :: d ↔ a = c ∧ b = d ∨
      (∃ piece, c = a ++ x :: piece ∧ b = piece ++ x :: d) ∨
      ∃ piece, a = c ++ x :: piece ∧ d = piece ++ x :: b := by
  constructor
  · intro same
    rcases List.append_eq_append_iff.mp same with ⟨between, rfl, rest⟩ | ⟨between, rfl, rest⟩
    · cases between with
      | nil =>
          cases rest
          exact .inl ⟨(List.append_nil a).symm, rfl⟩
      | cons y piece =>
          cases rest
          exact .inr (.inl ⟨piece, rfl, rfl⟩)
    · cases between with
      | nil =>
          cases rest
          exact .inl ⟨List.append_nil c, rfl⟩
      | cons y piece =>
          cases rest
          exact .inr (.inr ⟨piece, rfl, rfl⟩)
  · rintro (⟨rfl, rfl⟩ | ⟨piece, rfl, rfl⟩ | ⟨piece, rfl, rfl⟩)
    · rfl
    · rw [List.append_assoc, List.cons_append]
    · rw [List.append_assoc, List.cons_append]

namespace Schema

variable {s t : Schema}

/-- The name of the second tenant goes on, after that of the first and an underscore, with a piece
that the module of the first begins with. -/
def Overlaps (s t : Schema) : Prop :=
  ∃ piece, t.tenant.name = s.tenant.name ++ "_" ++ piece ∧
    s.moduleName.name = piece ++ "_" ++ t.moduleName.name

theorem toList_name (s : Schema) :
    s.name.toList = s.tenant.name.toList ++ '_' :: s.moduleName.name.toList := by
  simp [name]

theorem eq_iff_names : s = t ↔
    s.tenant.name.toList = t.tenant.name.toList ∧
      s.moduleName.name.toList = t.moduleName.name.toList := by
  rw [String.toList_inj, String.toList_inj]
  obtain ⟨⟨tenant, valid⟩, ⟨moduleName⟩⟩ := s
  obtain ⟨⟨tenant', valid'⟩, ⟨moduleName'⟩⟩ := t
  simp

theorem overlaps_iff : s.Overlaps t ↔ ∃ piece,
    t.tenant.name.toList = s.tenant.name.toList ++ '_' :: piece ∧
      s.moduleName.name.toList = piece ++ '_' :: t.moduleName.name.toList := by
  constructor
  · rintro ⟨piece, longer, shorter⟩
    exact ⟨piece.toList, by simp [longer], by simp [shorter]⟩
  · rintro ⟨piece, longer, shorter⟩
    refine ⟨String.ofList piece, ?_, ?_⟩
    · rw [← String.toList_inj, longer]
      simp
    · rw [← String.toList_inj, shorter]
      simp

/-- **Shared schemas.** Two schemas have one name just when they are of the same tenant and module, or
one of them overlaps the other. -/
theorem name_eq_iff (s t : Schema) :
    s.name = t.name ↔ s = t ∨ s.Overlaps t ∨ t.Overlaps s := by
  rw [← String.toList_inj, toList_name, toList_name, append_cons_eq_append_cons, eq_iff_names,
    overlaps_iff, overlaps_iff]

/-- Tenants of different names can come to one schema, with modules that are both admitted. -/
theorem name_eq_of_underscore :
    ∃ s t : Schema,
      Tenant.parse "a" = .ok s.tenant ∧ ModuleName.parse "b-c" = .ok s.moduleName ∧
      Tenant.parse "a_b" = .ok t.tenant ∧ ModuleName.parse "c" = .ok t.moduleName ∧
      s.tenant ≠ t.tenant ∧ s.moduleName ≠ t.moduleName ∧ s.name = t.name := by
  refine ⟨⟨⟨"a", by decide⟩, ⟨"b_c"⟩⟩, ⟨⟨"a_b", by decide⟩, ⟨"c"⟩⟩, ?_⟩
  have hyphenated : ModuleName.parse "b-c" = .ok ⟨"b_c"⟩ := by
    have mapped : "b-c".map moduleChar = "b_c" := by decide +kernel
    rw [ModuleName.parse, if_neg (by decide), mapped]
  have short : ModuleName.parse "c" = .ok ⟨"c"⟩ := by
    have mapped : "c".map moduleChar = "c" := by decide +kernel
    rw [ModuleName.parse, if_neg (by decide), mapped]
  have same : "a" ++ "_" ++ "b_c" = "a_b" ++ "_" ++ "c" := by decide
  exact ⟨dif_pos _, hyphenated, dif_pos _, short, by decide, by decide, same⟩

/-- Where no tenant has an underscore in its name, no two of them share a schema. -/
theorem eq_of_name_eq (plain : '_' ∉ s.tenant.name.toList) (plain' : '_' ∉ t.tenant.name.toList)
    (same : s.name = t.name) : s = t := by
  rw [← String.toList_inj, toList_name, toList_name, append_cons_eq_append_cons] at same
  rcases same with same | ⟨piece, longer, -⟩ | ⟨piece, longer, -⟩
  · exact eq_iff_names.mpr same
  · exact absurd (by simp [longer]) plain'
  · exact absurd (by simp [longer]) plain

end Schema

end ContextQuery
