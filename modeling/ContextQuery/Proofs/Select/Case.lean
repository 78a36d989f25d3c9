import ContextQuery.Proofs.Query.Case
import ContextQuery.Proofs.Select.Conjunction

/-!
# Statements from texts that differ in case

Names of indexes are looked up in lower case, and nothing else that is made of a query looks at them
(`Registry.sameOk_whereText_foldCase`, `Registry.sameOk_orderText_foldCase`). So query texts that
differ in the case of their words, and say the same terms and modifiers, have the same condition and
the same order, or neither has one (`Registry.statement_ignores_case`).
-/

namespace ContextQuery

open Text (foldCase)

theorem Modifier.map_mapTexts_id (ms : List Modifier) : ms.map (Modifier.mapTexts id) = ms := by
  have each : Modifier.mapTexts id = id := by
    funext m
    simp [Modifier.mapTexts]
  rw [each, List.map_id]

theorem Query.sortKeys?_mapTexts {f g : String → String} (q : Query) :
    (q.mapTexts f g).sortKeys? = q.sortKeys?.map (List.map (SortKey.mapTexts f g)) := by
  induction q with
  | clause | boolean | sorted => rfl
  | «scoped» name uri subtree ih => exact ih

namespace Registry

variable (r : Registry)

/-! ## Conditions -/

/-- An index in small letters finds the same field, so that the clause is answered alike. -/
theorem sameOk_clauseCondition_foldCase (c : Clause) :
    SameOk (r.clauseCondition (c.mapTexts foldCase id)) (r.clauseCondition c) := by
  obtain ⟨index, ⟨base, ms⟩, term⟩ := c
  intro sql
  rw [Clause.mapTexts, Modifier.map_mapTexts_id, clauseCondition_eq_ok, clauseCondition_eq_ok]
  show (∃ field, r.find? (foldCase index) = some field ∧ _) ↔
    ∃ field, r.find? index = some field ∧ _
  rw [r.find?_of_foldCase_eq (Text.foldCase_foldCase index)]
  refine exists_congr fun field => and_congr_right fun _ => ?_
  exact Field.sameOk_condition (foldCase index) index ⟨base, ms⟩ term field sql

theorem sameOk_whereText_foldCase (q : Query) :
    SameOk (r.whereText (some (q.mapTexts foldCase id))) (r.whereText (some q)) := by
  have compiled : SameOk ((q.mapTexts foldCase id).condition r.clauseCondition)
      (q.condition r.clauseCondition) := by
    induction q with
    | clause c => exact (r.sameOk_clauseCondition_foldCase c).bind fun _ => .refl _
    | boolean op ms left right ihl ihr => exact ihl.bind fun _ => ihr.bind fun _ => .refl _
    | sorted subtree keys ih => exact ih
    | «scoped» name uri subtree ih => exact ih
  exact compiled.bind fun _ => .refl _

/-! ## Sort keys -/

theorem sameOk_sortColumn_foldCase (k : SortKey) :
    SameOk (r.sortColumn (k.mapTexts foldCase id)) (r.sortColumn k) := by
  have resolved : SameOk (r.resolve (foldCase k.base)) (r.resolve k.base) := by
    unfold resolve
    rw [r.find?_of_foldCase_eq (Text.foldCase_foldCase k.base)]
    cases r.find? k.base with
    | some field => exact .refl _
    | none => exact .error _ _
  exact resolved.bind fun _ => .refl _

theorem sameOk_sortTerm_foldCase (k : SortKey) :
    SameOk (r.sortTerm (k.mapTexts foldCase id)) (r.sortTerm k) := by
  have sameModifiers : (k.mapTexts foldCase id).modifiers = k.modifiers :=
    Modifier.map_mapTexts_id k.modifiers
  unfold sortTerm
  rw [sameModifiers]
  exact (r.sameOk_sortColumn_foldCase k).bind fun _ => .refl _

/-- Sort keys in small letters come to the same order and the same columns. -/
theorem sameOk_orderText_foldCase (q : Query) :
    SameOk (r.orderText (some (q.mapTexts foldCase id))) (r.orderText (some q)) ∧
      SameOk (r.orderColumns (some (q.mapTexts foldCase id))) (r.orderColumns (some q)) := by
  unfold orderText orderColumns
  rw [Option.bind_some, Option.bind_some, Query.sortKeys?_mapTexts]
  cases q.sortKeys? with
  | none => exact ⟨.refl _, .refl _⟩
  | some keys =>
      exact ⟨(SameOk.mapM_map r.sameOk_sortTerm_foldCase keys).bind fun _ => .refl _,
        (SameOk.mapM_map r.sameOk_sortColumn_foldCase keys).bind fun _ => .refl _⟩

/-! ## Query texts -/

/-- **Case.** Of two texts whose words differ in the case of ASCII letters alone, both are queries or
neither is. If both are, and say the same terms and modifiers, they come to the same condition, the
same order and the same columns, where each of these either has one value for both or an error for
both. -/
theorem statement_ignores_case (r : Registry) (s t : String) (same : Query.SameButCase s t) :
    ((∃ q, Query.parse s = .ok q) ↔ ∃ q, Query.parse t = .ok q) ∧
    ∀ q q', Query.parse s = .ok q → Query.parse t = .ok q' → q.terms = q'.terms →
      q.modifiers = q'.modifiers →
        SameOk (r.whereText (some q)) (r.whereText (some q')) ∧
        SameOk (r.orderText (some q)) (r.orderText (some q')) ∧
        SameOk (r.orderColumns (some q)) (r.orderColumns (some q')) := by
  refine ⟨⟨?_, ?_⟩, ?_⟩
  · rintro ⟨q, parsed⟩
    obtain ⟨q', parsed', -⟩ := same.exists_parse parsed
    exact ⟨q', parsed'⟩
  · rintro ⟨q, parsed⟩
    obtain ⟨q', parsed', -⟩ := same.symm.exists_parse parsed
    exact ⟨q', parsed'⟩
  · intro q q' parsed parsed' terms modifiers
    obtain ⟨found, again, folded⟩ := same.exists_parse parsed
    obtain rfl : found = q' := Except.ok.inj (again.symm.trans parsed')
    -- with terms and modifiers the same, the small names are the same
    have names := Query.mapTexts_id_of_mapTexts_eq folded.symm terms modifiers
    have wanted := (r.sameOk_whereText_foldCase q).symm
    obtain ⟨ordered, columns⟩ := r.sameOk_orderText_foldCase q
    obtain ⟨ordered', columns'⟩ := r.sameOk_orderText_foldCase found
    rw [names] at wanted ordered columns
    exact ⟨wanted.trans (r.sameOk_whereText_foldCase found), ordered.symm.trans ordered',
      columns.symm.trans columns'⟩

open Grammar in
/-- Keywords and names in two cases, with a term that is the same in both texts. -/
theorem statement_ignores_case_of_catalogue :
    Query.SameButCase "TITLE = Ab SORTBY Cost" "title = Ab sortBy cOST" ∧
    Query.parse "TITLE = Ab SORTBY Cost" =
      .ok (.sorted (.clause ⟨"TITLE", ⟨"=", []⟩, "Ab"⟩) [⟨"Cost", []⟩]) ∧
    Query.parse "title = Ab sortBy cOST" =
      .ok (.sorted (.clause ⟨"title", ⟨"=", []⟩, "Ab"⟩) [⟨"cOST", []⟩]) ∧
    ((∃ q, Query.parse "TITLE = Ab SORTBY Cost" = .ok q) ↔
      ∃ q, Query.parse "title = Ab sortBy cOST" = .ok q) ∧
    ∀ q q', Query.parse "TITLE = Ab SORTBY Cost" = .ok q →
      Query.parse "title = Ab sortBy cOST" = .ok q' → q.terms = q'.terms →
      q.modifiers = q'.modifiers →
        SameOk (catalogue.whereText (some q)) (catalogue.whereText (some q')) ∧
        SameOk (catalogue.orderText (some q)) (catalogue.orderText (some q')) ∧
        SameOk (catalogue.orderColumns (some q)) (catalogue.orderColumns (some q')) := by
  have small {v w : String} (letters : v.toList.map Char.toLower = w.toList.map Char.toLower) :
      foldCase v = foldCase w := by
    rw [← String.toList_inj, Text.toList_foldCase, Text.toList_foldCase, letters]
  have sorts {title sortby cost : String} (isSort : foldCase sortby = "sortby") :
      Derives .sortedQuery 0
        [.word title, .comparison .equal, .word "Ab", .word sortby, .word cost]
        (.sorted (.clause ⟨title, ⟨"=", []⟩, "Ab"⟩) [⟨cost, []⟩]) :=
    .sorted (.operand (.clause (.inFull rfl (.sign .equal) .none (.words "Ab" [] nofun)))) isSort
      (.key (t := .word cost) rfl .none .none)
  have splits : Splits "TITLE = Ab SORTBY Cost".toList
      [.word "TITLE", .comparison .equal, .word "Ab", .word "SORTBY", .word "Cost"] :=
    splits_iff_lex.mpr ⟨⟨22, by cbv⟩, by cbv⟩
  have splits' : Splits "title = Ab sortBy cOST".toList
      [.word "title", .comparison .equal, .word "Ab", .word "sortBy", .word "cOST"] :=
    splits_iff_lex.mpr ⟨⟨22, by cbv⟩, by cbv⟩
  have same : Query.SameButCase "TITLE = Ab SORTBY Cost" "title = Ab sortBy cOST" := by
    obtain ⟨finished, tokens⟩ := splits_iff_lex.mp splits
    obtain ⟨finished', tokens'⟩ := splits_iff_lex.mp splits'
    have title : foldCase "TITLE" = foldCase "title" := small (by decide)
    have sort : foldCase "SORTBY" = foldCase "sortBy" := small (by decide)
    have cost : foldCase "Cost" = foldCase "cOST" := small (by decide)
    refine ⟨?_, iff_of_true finished finished'⟩
    rw [tokens, tokens']
    simp only [List.map_cons, Token.folded, title, sort, cost]
  have isSort : foldCase "SORTBY" = "sortby" := (small (by decide)).trans foldCase_sortby
  have isSort' : foldCase "sortBy" = "sortby" := (small (by decide)).trans foldCase_sortby
  exact ⟨same, Query.parse_of_splits splits (sorts isSort) (by decide),
    Query.parse_of_splits splits' (sorts isSort') (by decide),
    statement_ignores_case catalogue _ _ same⟩

end Registry

end ContextQuery
