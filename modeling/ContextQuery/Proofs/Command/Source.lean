import ContextQuery.Command.Run
import ContextQuery.Proofs.Json.Text
import ContextQuery.Proofs.Query.Completeness
import ContextQuery.Proofs.Select.Atoms

/-!
# Where a statement reads from

With a tenant and a module the command joins three texts of its arguments to the name of a table,
two of which were hardly looked at, and checks the whole. What passes the check has one point, and
neither the tenant nor the module can have brought it, so the schema before it is theirs and the
table after it is the one asked for (`Command.Settings.run_selects_from_owner`).
-/

namespace ContextQuery

/-- The name of the table that a statement selects from, in the parts between its points. The name
ends at the first blank. -/
def Sql.source (statement : String) : List (List Char) :=
  Text.pieces '.' ((statement.toList.drop "SELECT * FROM ".length).takeWhile (· != ' '))

/-- What may come after the name of the table: nothing, a condition or an order. -/
def Sql.EndsSource (rest : String) : Prop :=
  rest = "" ∨ (∃ more, rest = " WHERE " ++ more) ∨ ∃ more, rest = " ORDER BY " ++ more

/-! ## Statements -/

theorem Sql.EndsSource.takeWhile_eq_nil {rest : String} (ends : EndsSource rest) :
    rest.toList.takeWhile (· != ' ') = [] := by
  rcases ends with rfl | ⟨more, rfl⟩ | ⟨more, rfl⟩
  · rfl
  · rw [String.toList_append]
    rfl
  · rw [String.toList_append]
    rfl

/-- A statement over the table of a schema is read as one. -/
theorem Sql.source_qualified {schema table rest : String}
    (isSchema : isIdentifier schema.toList = true) (isTable : isIdentifier table.toList = true)
    (ends : EndsSource rest) :
    source ("SELECT * FROM " ++ (schema ++ "." ++ table) ++ rest) =
      [schema.toList, table.toList] := by
  have characters : ("SELECT * FROM " ++ (schema ++ "." ++ table) ++ rest).toList.drop
      "SELECT * FROM ".length = (schema.toList ++ '.' :: table.toList) ++ rest.toList := by
    simp only [String.toList_append]
    rw [List.append_assoc, ← String.length_toList, List.drop_left]
    simp
  have noBlank : ∀ c ∈ schema.toList ++ '.' :: table.toList, (c != ' ') = true := by
    intro c member
    rw [bne_iff_ne]
    rintro rfl
    simp only [List.mem_append, List.mem_cons] at member
    rcases member with member | blank | member
    · exact not_mem_of_isIdentifier isSchema rfl member
    · exact absurd blank (by decide)
    · exact not_mem_of_isIdentifier isTable rfl member
  have noPoint : ∀ part ∈ [schema.toList, table.toList], '.' ∉ part := by
    intro part member
    simp only [List.mem_cons, List.not_mem_nil, or_false] at member
    rcases member with rfl | rfl
    · exact not_mem_of_isIdentifier isSchema rfl
    · exact not_mem_of_isIdentifier isTable rfl
  unfold source
  rw [characters, List.takeWhile_append_of_pos noBlank, ends.takeWhile_eq_nil, List.append_nil]
  have pieces := Text.pieces_intercalate noPoint
  rwa [List.intercalate_cons_cons, List.intercalate_singleton, List.append_assoc,
    List.singleton_append] at pieces

/-- A statement begins with its table, and nothing but a condition and an order come after it. -/
theorem Registry.exists_endsSource_of_select {r : Registry} {table sql : String} {q : Option Query}
    (selected : r.select table q = .ok sql) :
    ∃ rest, sql = "SELECT * FROM " ++ table ++ rest ∧ Sql.EndsSource rest := by
  obtain ⟨-, condition, order, -, -, rfl⟩ := select_eq_ok.mp selected
  refine ⟨introduced " WHERE " condition ++ introduced " ORDER BY " order, ?_, ?_⟩
  · rw [String.append_assoc]
  · cases condition with
    | some wanted => exact .inr (.inl ⟨_, String.append_assoc⟩)
    | none =>
        cases order with
        | some sorted => exact .inr (.inr ⟨sorted, String.empty_append⟩)
        | none => exact .inl rfl

/-! ## Runs -/

namespace Command.Settings

variable {s : Settings} {file : Except FileFault String} {sql : String}

/-- A table with an owner is the table of a schema of theirs. -/
theorem tableName_eq_ok {owner : Owner} {table : String} (owned : s.owner = some owner)
    (asked : s.table = some table) {name : Option String} :
    s.tableName = .ok name ↔ ∃ tenant moduleName, Tenant.parse owner.tenant = .ok tenant ∧
      ModuleName.parse owner.moduleName = .ok moduleName ∧
      some ((Schema.mk tenant moduleName).table table) = name := by
  unfold tableName
  rw [owned, asked]
  simp only [bind_eq_ok, mapError_eq_ok, pure_eq_ok]
  constructor
  · rintro ⟨tenant, isTenant, moduleName, isModule, same⟩
    exact ⟨tenant, moduleName, isTenant, isModule, same⟩
  · rintro ⟨tenant, moduleName, isTenant, isModule, same⟩
    exact ⟨tenant, isTenant, moduleName, isModule, same⟩

/-- What a run that does not print the tree comes to: a statement if there is a table, and else the
parts of one. -/
theorem run_eq_ok_iff (noTree : s.ast = false) :
    s.run file = .ok sql ↔ ∃ r q name, loadRegistry s.fields file = .ok r ∧
      Query.combine s.query s.query2 = .ok q ∧ s.tableName = .ok name ∧
      match name with
      | some table => r.select table q = .ok sql
      | none => ∃ json, parts r q = .ok json ∧ json.pretty = sql := by
  have printed (r : Registry) (q : Option Query) (name : Option String) :
      (match name with
        | some table => (r.select table q).mapError RunError.select
        | none => do return (← (parts r q).mapError RunError.select).pretty) = .ok sql ↔
      match name with
        | some table => r.select table q = .ok sql
        | none => ∃ json, parts r q = .ok json ∧ json.pretty = sql := by
    cases name with
    | some table => exact mapError_eq_ok
    | none => simp only [bind_pure_eq_ok, mapError_eq_ok]
  unfold run
  simp only [noTree, Bool.false_eq_true, if_false, bind_eq_ok, mapError_eq_ok]
  constructor
  · rintro ⟨r, loaded, q, combined, name, named, done⟩
    exact ⟨r, q, name, loaded, combined, named, (printed r q name).mp done⟩
  · rintro ⟨r, q, name, loaded, combined, named, done⟩
    exact ⟨r, loaded, q, combined, name, named, (printed r q name).mpr done⟩

/-- **Separation.** Where a run of the command over a table with an owner gives a statement, the tenant
is a tenant name and the table a single identifier, and the statement selects from that table in the
schema of the tenant and the module. No name given for the table makes it another schema. -/
theorem run_selects_from_owner (s : Settings) (owner : Owner) (table : String)
    (file : Except FileFault String) (sql : String) (owned : s.owner = some owner)
    (asked : s.table = some table) (noTree : s.ast = false) (ran : s.run file = .ok sql) :
    isTenantName owner.tenant.toList = true ∧
    isIdentifier table.toList = true ∧ '.' ∉ table.toList ∧
    (∃ rest, sql = "SELECT * FROM " ++ (owner.tenant ++ "_" ++ owner.moduleName.map moduleChar ++
      "." ++ table) ++ rest ∧ Sql.EndsSource rest) ∧
    Sql.source sql =
      [(owner.tenant ++ "_" ++ owner.moduleName.map moduleChar).toList, table.toList] := by
  obtain ⟨r, q, name, -, -, named, done⟩ := (run_eq_ok_iff noTree).mp ran
  obtain ⟨tenant, moduleName, isTenant, isModule, rfl⟩ := (tableName_eq_ok owned asked).mp named
  have selected : r.select (owner.tenant ++ "_" ++ owner.moduleName.map moduleChar ++ "." ++ table)
      q = .ok sql := by
    rw [← Tenant.name_of_parse isTenant, ← ModuleName.name_of_parse isModule]
    exact done
  -- the only point of the name is the one put before the table
  have free : '.' ∉ (owner.tenant ++ "_" ++ owner.moduleName.map moduleChar).toList := by
    rw [← Tenant.name_of_parse isTenant]
    simp only [String.toList_append, List.mem_append, not_or]
    exact ⟨⟨tenant.point_not_mem, by decide⟩, point_not_mem_map_moduleChar owner.moduleName⟩
  obtain ⟨isSchema, isTable⟩ :=
    (isTableName_qualified free).mp (Registry.select_eq_ok.mp selected).1
  obtain ⟨rest, written, ends⟩ := Registry.exists_endsSource_of_select selected
  refine ⟨?_, isTable, not_mem_of_isIdentifier isTable rfl, ⟨rest, written, ends⟩, ?_⟩
  · rw [← Tenant.name_of_parse isTenant]
    exact tenant.valid
  · rw [written]
    exact Sql.source_qualified isSchema isTable ends

/-- Settings with an owner, to show a run on. -/
def lending : Settings where
  fields := "fields.json"
  query := some "cost < 10"
  query2 := none
  table := some "loan"
  owner := some ⟨"t_1", "mod-a.2"⟩
  ast := false
  logLevel := defaultLogLevel

/-- The file that they name. -/
def lendingFields : String :=
  "\x7b\"fields\":[\x7b\"index\":\"cost\",\"type\":\"number\"\x7d]\x7d"

open Grammar in
theorem parse_lending : Query.parse "cost < 10" = .ok (.clause ⟨"cost", ⟨"<", []⟩, "10"⟩) := by
  have splits : Splits "cost < 10".toList [.word "cost", .comparison .less, .word "10"] :=
    .token rfl rfl (.token rfl rfl (.token rfl rfl (.blank rfl)))
  have stated : Says [.word "cost", .comparison .less, .word "10"] ⟨"cost", ⟨"<", []⟩, "10"⟩ :=
    .inFull rfl (.sign .less) .none (.words "10" [] (by simp))
  exact Query.parse_of_splits splits (.unsorted (.operand (.clause stated))) (Nat.zero_le _)

open Json Json.Reader in
theorem ofJson_lendingFields :
    Config.ofJson lendingFields = .ok ⟨[{ index := "cost", kind := .number }]⟩ := by
  have lexed : Json.lex lendingFields =
      ⟨[.openBrace, .string "fields", .colon, .openBracket, .openBrace, .string "index", .colon,
        .string "cost", .comma, .string "type", .colon, .string "number", .closeBrace, .closeBracket,
        .closeBrace], true⟩ :=
    Lexer.lexChars_eq_iff.mpr (by decide +kernel)
  -- the readers of members and items end by a measure, so each of their steps is a rewriting
  have members (ts) : membersFrom EntryDraft.member {}
      (.string "index" :: .colon :: .string "cost" :: .comma :: .string "type" :: .colon ::
        .string "number" :: .closeBrace :: ts) =
      .ok ({ index := some "cost", kind := some .number }, ts) := by
    rw [membersFrom_string]
    show membersFrom EntryDraft.member { index := some "cost" } _ = _
    rw [membersFrom_string]
    rfl
  have entry (ts) : Entry.reader.run (.openBrace :: .string "index" :: .colon :: .string "cost" ::
      .comma :: .string "type" :: .colon :: .string "number" :: .closeBrace :: ts) =
      .ok ({ index := "cost", kind := .number }, ts) := by
    simp [Entry.reader, record, members]
    rfl
  have items (ts) : itemsFrom Entry.reader (.openBrace :: .string "index" :: .colon ::
      .string "cost" :: .comma :: .string "type" :: .colon :: .string "number" :: .closeBrace ::
      .closeBracket :: ts) = .ok ([{ index := "cost", kind := .number }], ts) := by
    rw [itemsFrom_eq, entry]
  simp [Config.ofJson, Json.readText, Config.reader, record, lexed, membersFrom_string,
    Config.member, once, Reader.map, verify, andThen, punctuation, array, items, Config.ofDraft]

theorem run_selects_from_owner_of_lending :
    lending.owner = some ⟨"t_1", "mod-a.2"⟩ ∧ lending.table = some "loan" ∧ lending.ast = false ∧
    lending.run (.ok lendingFields) = .ok "SELECT * FROM t_1_mod_a_2.loan WHERE cost<10" ∧
    isTenantName "t_1".toList = true ∧ isIdentifier "loan".toList = true ∧ '.' ∉ "loan".toList ∧
    (∃ rest, "SELECT * FROM t_1_mod_a_2.loan WHERE cost<10" =
      "SELECT * FROM " ++ ("t_1" ++ "_" ++ "mod-a.2".map moduleChar ++ "." ++ "loan") ++ rest ∧
        Sql.EndsSource rest) ∧
    Sql.source "SELECT * FROM t_1_mod_a_2.loan WHERE cost<10" =
      [("t_1" ++ "_" ++ "mod-a.2".map moduleChar).toList, "loan".toList] := by
  have loaded : loadRegistry lending.fields (.ok lendingFields) =
      .ok (Registry.empty.insert "cost" ⟨"", .number⟩) := by
    show ((Config.ofJson lendingFields).mapError _ >>= _) = _
    rw [ofJson_lendingFields]
    rfl
  have combined : Query.combine lending.query lending.query2 =
      .ok (some (.clause ⟨"cost", ⟨"<", []⟩, "10"⟩)) := by
    show (Query.parse "cost < 10" >>= fun q => pure (some q)) = _
    rw [parse_lending]
    rfl
  have owned : lending.owner = some ⟨"t_1", "mod-a.2"⟩ := rfl
  have asked : lending.table = some "loan" := rfl
  have isTenant : Tenant.parse "t_1" = .ok ⟨"t_1", by decide⟩ := dif_pos _
  have isModule : ModuleName.parse "mod-a.2" = .ok ⟨"mod_a_2"⟩ := by decide +kernel
  have joined : "t_1" ++ "_" ++ "mod_a_2" ++ "." ++ "loan" = "t_1_mod_a_2.loan" := by decide
  have named : lending.tableName = .ok (some "t_1_mod_a_2.loan") :=
    (tableName_eq_ok owned asked).mpr ⟨_, _, isTenant, isModule, congrArg some joined⟩
  have ran : lending.run (.ok lendingFields) =
      .ok "SELECT * FROM t_1_mod_a_2.loan WHERE cost<10" := by
    refine (run_eq_ok_iff rfl).mpr ⟨_, _, _, loaded, combined, named, ?_⟩
    decide +kernel
  exact ⟨owned, asked, rfl, ran, run_selects_from_owner lending _ _ _ _ owned asked rfl ran⟩

end Command.Settings

end ContextQuery
