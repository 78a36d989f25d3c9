import Mathlib
import ContextQuery.Proofs.Command.Source
import ContextQuery.Proofs.Json.Text
import ContextQuery.Proofs.Query.Json

/-!
# What is printed can be read back

Without a table the command prints JSON: the parts of a statement, or the tree of the query. Nothing
is lost there (`Command.Settings.run_is_lossless`). The text denotes one value, in which the parts
stand as they are, and no two trees have the same text.
-/

namespace ContextQuery.Command

/-- The parts are printed exactly where each of them is found, and as an object of three members. -/
theorem parts_eq_ok {r : Registry} {q : Option Query} {json : Json} :
    parts r q = .ok json ↔ ∃ condition order columns, r.whereText q = .ok condition ∧
      r.orderText q = .ok order ∧ r.orderColumns q = .ok columns ∧
      .obj [("order_by", textOrNull order), ("order_by_fields", textOrNull columns),
        ("where", textOrNull condition)] = json := by
  unfold parts
  simp only [bind_eq_ok, pure_eq_ok]
  constructor
  · rintro ⟨condition, isCondition, order, isOrder, columns, isColumns, same⟩
    exact ⟨condition, order, columns, isCondition, isOrder, isColumns, same⟩
  · rintro ⟨condition, order, columns, isCondition, isOrder, isColumns, same⟩
    exact ⟨condition, isCondition, order, isOrder, columns, isColumns, same⟩

/-- The printed tree tells which query it is of, and no query prints as `null`. -/
theorem treeOrNull_injective : Function.Injective treeOrNull := by
  intro q q' same
  cases q with
  | none =>
      cases q' with
      | none => rfl
      | some q' => cases q' <;> cases same
  | some q =>
      cases q' with
      | none => cases q <;> cases same
      | some q' => rw [Query.toJson_injective same]

namespace Settings

variable {s : Settings} {file : Except FileFault String} {text : String}

/-- What a run that prints the tree comes to. -/
theorem run_eq_ok_iff_of_ast (tree : s.ast = true) :
    s.run file = .ok text ↔ ∃ r q, loadRegistry s.fields file = .ok r ∧
      Query.combine s.query s.query2 = .ok q ∧ (treeOrNull q).pretty = text := by
  unfold run
  simp only [tree, if_true, bind_eq_ok, mapError_eq_ok, pure_eq_ok]
  constructor
  · rintro ⟨r, loaded, q, combined, printed⟩
    exact ⟨r, q, loaded, combined, printed⟩
  · rintro ⟨r, q, loaded, combined, printed⟩
    exact ⟨r, loaded, q, combined, printed⟩

/-- **Nothing is lost in print.** What a run without a table prints denotes one JSON value only. It
is an object with three members, the parts of the statement as they are, or it is the tree of the
query; and then any other run that prints this text as a tree has read the same query. -/
theorem run_is_lossless (s : Settings) (file : Except FileFault String) (text : String)
    (noTable : s.table = none) (ran : s.run file = .ok text) :
    (s.ast = false → ∃ r q condition order columns, loadRegistry s.fields file = .ok r ∧
      Query.combine s.query s.query2 = .ok q ∧ r.whereText q = .ok condition ∧
      r.orderText q = .ok order ∧ r.orderColumns q = .ok columns ∧
      ∀ v, Json.Denotes text v ↔ v = .obj [("order_by", textOrNull order),
        ("order_by_fields", textOrNull columns), ("where", textOrNull condition)]) ∧
    (s.ast = true → ∃ q, Query.combine s.query s.query2 = .ok q ∧
      (∀ v, Json.Denotes text v ↔ v = treeOrNull q) ∧
      ∀ (s' : Settings) (file' : Except FileFault String), s'.ast = true →
        s'.run file' = .ok text → Query.combine s'.query s'.query2 = .ok q) := by
  refine ⟨fun noTree => ?_, fun tree => ?_⟩
  · obtain ⟨r, q, name, loaded, combined, named, printed⟩ := (run_eq_ok_iff noTree).mp ran
    have unnamed : name = none := by
      unfold tableName at named
      rw [noTable] at named
      exact (Except.ok.inj named).symm
    subst unnamed
    obtain ⟨json, isJson, rfl⟩ := printed
    obtain ⟨condition, order, columns, isCondition, isOrder, isColumns, rfl⟩ :=
      parts_eq_ok.mp isJson
    exact ⟨r, q, condition, order, columns, loaded, combined, isCondition, isOrder, isColumns,
      fun v => Json.denotes_pretty_iff⟩
  · obtain ⟨r, q, -, combined, rfl⟩ := (run_eq_ok_iff_of_ast tree).mp ran
    refine ⟨q, combined, fun v => Json.denotes_pretty_iff, fun s' file' tree' ran' => ?_⟩
    obtain ⟨-, q', -, combined', same⟩ := (run_eq_ok_iff_of_ast tree').mp ran'
    rw [combined', treeOrNull_injective (Json.pretty_injective same)]

/-- Settings that print the parts of a statement. -/
def lendingParts : Settings :=
  { lending with table := none, owner := none }

/-- Settings that print a tree; its term holds a quote and a backslash. -/
def lendingTree : Settings :=
  { lendingParts with query := some "cost = \"a\\\"b\"", ast := true }

/-- The text of the parts. -/
def lendingPartsText : String :=
  "\x7b\n  \"order_by\": null,\n  \"order_by_fields\": null,\n  \"where\": \"cost<10\"\n\x7d"

/-- The text of the tree. -/
def lendingTreeText : String :=
  "\x7b\n  \"type\": \"term\",\n  \"index\": \"cost\",\n  \"relation\": \x7b\n" ++
    "    \"base\": \"=\"\n  \x7d,\n  \"term\": \"a\\\\\\\"b\"\n\x7d"

theorem loadRegistry_lendingFields : loadRegistry lending.fields (.ok lendingFields) =
    .ok (Registry.empty.insert "cost" ⟨"", .number⟩) := by
  show ((Config.ofJson lendingFields).mapError _ >>= _) = _
  rw [ofJson_lendingFields]
  rfl

theorem combine_lendingParts : Query.combine lendingParts.query lendingParts.query2 =
    .ok (some (.clause ⟨"cost", ⟨"<", []⟩, "10"⟩)) := by
  show (Query.parse "cost < 10" >>= fun q => pure (some q)) = _
  rw [parse_lending]
  rfl

theorem combine_lendingTree : Query.combine lendingTree.query lendingTree.query2 =
    .ok (some (.clause ⟨"cost", ⟨"=", []⟩, "a\\\"b"⟩)) := by
  have parsed : Query.parse "cost = \"a\\\"b\"" =
      .ok (.clause ⟨"cost", ⟨"=", []⟩, "a\\\"b"⟩) := by cbv
  show (Query.parse "cost = \"a\\\"b\"" >>= fun q => pure (some q)) = _
  rw [parsed]
  rfl

theorem run_lendingParts : lendingParts.run (.ok lendingFields) = .ok lendingPartsText := by
  refine (run_eq_ok_iff rfl).mpr
    ⟨_, _, none, loadRegistry_lendingFields, combine_lendingParts, rfl, _, rfl, ?_⟩
  decide +kernel

theorem run_lendingTree : lendingTree.run (.ok lendingFields) = .ok lendingTreeText := by
  refine (run_eq_ok_iff_of_ast rfl).mpr ⟨_, _, loadRegistry_lendingFields, combine_lendingTree, ?_⟩
  decide +kernel

theorem run_is_lossless_of_lending :
    lendingParts.table = none ∧ lendingParts.ast = false ∧
    lendingParts.run (.ok lendingFields) = .ok lendingPartsText ∧
    (∀ v, Json.Denotes lendingPartsText v ↔ v =
      .obj [("order_by", .null), ("order_by_fields", .null), ("where", .str "cost<10")]) ∧
    lendingTree.table = none ∧ lendingTree.ast = true ∧
    lendingTree.run (.ok lendingFields) = .ok lendingTreeText ∧
    ∀ (s' : Settings) (file' : Except FileFault String), s'.ast = true →
      s'.run file' = .ok lendingTreeText → Query.combine s'.query s'.query2 =
        .ok (some (.clause ⟨"cost", ⟨"=", []⟩, "a\\\"b"⟩)) := by
  refine ⟨rfl, rfl, run_lendingParts, ?_, rfl, rfl, run_lendingTree, ?_⟩
  · obtain ⟨r, q, condition, order, columns, loaded, combined, isCondition, isOrder, isColumns,
      denotes⟩ := (run_is_lossless lendingParts _ _ rfl run_lendingParts).1 rfl
    cases loadRegistry_lendingFields.symm.trans loaded
    cases combine_lendingParts.symm.trans combined
    cases isCondition
    cases isOrder
    cases isColumns
    exact denotes
  · obtain ⟨q, combined, -, others⟩ := (run_is_lossless lendingTree _ _ rfl run_lendingTree).2 rfl
    cases combine_lendingTree.symm.trans combined
    exact others

end Settings

end ContextQuery.Command
