import ContextQuery.Proofs.Query.Combined
import ContextQuery.Proofs.Query.Reread

/-!
# The condition of two queries

Two queries that are combined put their conditions together with `AND`. The first of them goes
through its canonical text on the way, so this holds where that text says the same
(`Query.FitsQuotes`), and where the fields for lone terms are found under both names of their index
(`Query.combine_conjoins_conditions`).
-/

namespace ContextQuery

open Grammar

/-! ## Clauses with another index -/

section Index

variable (i j : String) (relation : Relation) (term : String)

namespace Clause

theorem sameOk_equalityOperator :
    SameOk (equalityOperator ⟨i, relation, term⟩) (equalityOperator ⟨j, relation, term⟩) :=
  .ite (.refl _) (.ite (.refl _) (.error _ _))

theorem sameOk_orderOperator :
    SameOk (orderOperator ⟨i, relation, term⟩) (orderOperator ⟨j, relation, term⟩) :=
  .ite (.refl _) (sameOk_equalityOperator i j relation term)

theorem sameOk_exactBody :
    SameOk (exactBody ⟨i, relation, term⟩) (exactBody ⟨j, relation, term⟩) := by
  unfold exactBody
  cases Mask.exact term with
  | ok body => exact .refl _
  | error fault => exact .error _ _

theorem sameOk_likePattern :
    SameOk (likePattern ⟨i, relation, term⟩) (likePattern ⟨j, relation, term⟩) := by
  unfold likePattern
  cases Mask.like term with
  | ok pattern => exact .refl _
  | error fault => exact .error _ _

end Clause

namespace Field

theorem sameOk_compare (column : String)
    {literal literal' operator operator' : Except ClauseError String}
    (sameLiteral : SameOk literal literal') (sameOperator : SameOk operator operator') :
    SameOk (compare column ⟨i, relation, term⟩ literal operator)
      (compare column ⟨j, relation, term⟩ literal' operator') := by
  have sameNull : Clause.nullCondition? ⟨i, relation, term⟩ column false =
      Clause.nullCondition? ⟨j, relation, term⟩ column false := rfl
  unfold compare
  rw [sameNull]
  split
  · exact .refl _
  · exact sameLiteral.bind fun _ => sameOperator.bind fun _ => .refl _

theorem sameOk_fullTextCondition? (column : String) (search : TextSearch) :
    (fullTextCondition? column search ⟨i, relation, term⟩ = none ∧
      fullTextCondition? column search ⟨j, relation, term⟩ = none) ∨
    ∃ x y, fullTextCondition? column search ⟨i, relation, term⟩ = some x ∧
      fullTextCondition? column search ⟨j, relation, term⟩ = some y ∧ SameOk x y := by
  unfold fullTextCondition?
  cases search.languageBody? with
  | none => exact .inl ⟨rfl, rfl⟩
  | some language =>
      cases fullTextFunction? relation.base with
      | none => exact .inl ⟨rfl, rfl⟩
      | some function =>
          exact .inr ⟨_, _, rfl, rfl,
            (Clause.sameOk_exactBody i j relation term).bind fun _ => .refl _⟩

theorem sameOk_likeCondition? (column : String) (search : TextSearch) :
    SameOk (likeCondition? column search ⟨i, relation, term⟩)
      (likeCondition? column search ⟨j, relation, term⟩) :=
  .ite ((Clause.sameOk_likePattern i j relation term).bind fun _ => .refl _) (.refl _)

/-- The index of a clause makes no difference to what a text field answers. -/
theorem sameOk_textCondition (column : String) (search : TextSearch) :
    SameOk (textCondition column search ⟨i, relation, term⟩)
      (textCondition column search ⟨j, relation, term⟩) := by
  have sameNull : Clause.nullCondition? ⟨i, relation, term⟩ column search.isExact =
      Clause.nullCondition? ⟨j, relation, term⟩ column search.isExact := rfl
  unfold textCondition
  rw [sameNull]
  split
  · exact .ite (.refl _) (.error _ _)
  · obtain ⟨noText, noText'⟩ | ⟨x, y, text, text', same⟩ :=
      sameOk_fullTextCondition? i j relation term column search
    · rw [noText, noText']
      refine .ite (.error _ _) ((sameOk_likeCondition? i j relation term column search).bind ?_)
      intro said
      cases said with
      | some sql => exact .refl _
      | none =>
          exact (Clause.sameOk_equalityOperator i j relation term).bind fun _ =>
            (Clause.sameOk_exactBody i j relation term).bind fun _ => .refl _
    · rw [text, text']
      exact same.bind fun _ => .refl _

/-- The index of a clause makes no difference to the condition that the field gives it. -/
theorem sameOk_condition (f : Field) :
    SameOk (f.condition ⟨i, relation, term⟩) (f.condition ⟨j, relation, term⟩) := by
  have equality := Clause.sameOk_equalityOperator i j relation term
  have order := Clause.sameOk_orderOperator i j relation term
  unfold condition
  cases f.kind with
  | alwaysMatches => exact .refl _
  | boolean =>
      exact sameOk_compare i j relation term _ (.ite (.refl _) (.ite (.refl _) (.error _ _)))
        equality
  | number =>
      exact sameOk_compare i j relation term _ (.ite (.refl _) (.error _ _)) order
  | uuid =>
      refine sameOk_compare i j relation term _ ?_ equality
      unfold uuidLiteral
      cases Uuid.canonical? term with
      | some s => exact .refl _
      | none => exact .error _ _
  | timestamp => exact sameOk_compare i j relation term _ (.refl _) order
  | text search => exact sameOk_textCondition i j relation term f.column search

end Field

end Index

/-! ## The field of lone terms -/

/-- In any case of its ASCII letters, a name finds the same field. -/
theorem Registry.find?_of_foldCase_eq (r : Registry) {name name' : String}
    (same : Text.foldCase name = Text.foldCase name') : r.find? name = r.find? name' := by
  unfold find?
  rw [Text.lowercase_of_foldCase_eq same]

/-- Lone terms are searched in one field, whichever of the two names of their index they are written
with. -/
def Registry.HasOneServerChoice (r : Registry) (q : Query) : Prop :=
  r.find? olderServerChoice = r.find? serverChoice ∨
    ∀ c ∈ q.clauses, c.isServerChoice = true → Text.sameFolded c.index serverChoice = true

theorem Registry.HasOneServerChoice.find?_eq {r : Registry} {q : Query}
    (one : r.HasOneServerChoice q) {c : Clause} (member : c ∈ q.clauses)
    (alone : c.isServerChoice = true) : r.find? c.index = r.find? serverChoice := by
  have named : Text.sameFolded c.index serverChoice = true ∨
      Text.sameFolded c.index olderServerChoice = true := by
    unfold Clause.isServerChoice at alone
    rw [Bool.and_eq_true, Bool.and_eq_true, Bool.or_eq_true] at alone
    exact alone.1.1
  have newer (same : Text.sameFolded c.index serverChoice = true) :
      r.find? c.index = r.find? serverChoice :=
    r.find?_of_foldCase_eq (beq_iff_eq.mp same)
  rcases named with same | same
  · exact newer same
  · rcases one with one | none
    · rw [r.find?_of_foldCase_eq (beq_iff_eq.mp same), one]
    · exact newer (none c member alone)

/-- A clause is answered alike under the one index of lone terms, if the names of this index find
one field. -/
theorem Registry.sameOk_clauseCondition_plain {r : Registry} {c : Clause}
    (sameField : c.isServerChoice = true → r.find? c.index = r.find? serverChoice) :
    SameOk (r.clauseCondition c.plain) (r.clauseCondition c) := by
  unfold Clause.plain
  split
  · next alone =>
    obtain ⟨index, ⟨base, ms⟩, term⟩ := c
    have isPlain := alone
    unfold Clause.isServerChoice at isPlain
    simp only [Bool.and_eq_true, beq_iff_eq, List.isEmpty_iff] at isPlain
    obtain ⟨⟨-, rfl⟩, rfl⟩ := isPlain
    have sameField : r.find? index = r.find? serverChoice := sameField alone
    intro sql
    rw [clauseCondition_eq_ok, clauseCondition_eq_ok]
    show (∃ field, r.find? serverChoice = some field ∧ _) ↔ ∃ field, r.find? index = some field ∧ _
    rw [sameField]
    refine exists_congr fun field => and_congr_right fun _ => ?_
    exact Field.sameOk_condition serverChoice index ⟨"=", []⟩ term field sql
  · exact .refl _

namespace Query

variable {answer : Clause → Except SelectError (Option String)}

theorem sameOk_condition_plain {q : Query}
    (each : ∀ c ∈ q.clauses, SameOk (answer c.plain) (answer c)) :
    SameOk (q.plain.condition answer) (q.condition answer) := by
  induction q with
  | clause c => exact (each c List.mem_cons_self).bind fun _ => .refl _
  | boolean op ms left right ihl ihr =>
      have onLeft := ihl fun c member => each c (List.mem_append_left _ member)
      have onRight := ihr fun c member => each c (List.mem_append_right _ member)
      exact onLeft.bind fun _ => onRight.bind fun _ => .refl _
  | sorted subtree keys ih => exact ih each
  | «scoped» name uri subtree ih => exact ih each

/-! ## The first query without its sort -/

/-- A sort makes no difference to the condition. -/
theorem condition_withoutSort (q : Query) : q.withoutSort.condition answer = q.condition answer := by
  induction q with
  | clause | boolean | sorted => rfl
  | «scoped» name uri subtree ih => exact ih

theorem clauses_withoutSort (q : Query) : q.withoutSort.clauses = q.clauses := by
  induction q with
  | clause | boolean | sorted => rfl
  | «scoped» name uri subtree ih => exact ih

theorem uris_withoutSort (q : Query) : q.withoutSort.uris = q.uris := by
  induction q with
  | clause | boolean | sorted => rfl
  | «scoped» name uri subtree ih => exact congrArg (uri :: ·) ih

theorem FitsQuotes.withoutSort {q : Query} (fits : q.FitsQuotes) : q.withoutSort.FitsQuotes := by
  refine ⟨?_, ?_⟩
  · rw [uris_withoutSort]
    exact fits.uris
  · rw [clauses_withoutSort]
    exact fits.terms

theorem Consists.withoutSort {clause : Clause → Prop} {uri : String → Prop} {q : Query}
    (consists : q.Consists clause uri) : q.withoutSort.Consists clause uri := by
  induction q with
  | clause | boolean => exact consists
  | sorted subtree keys => exact consists.1
  | «scoped» name u subtree ih => exact ⟨consists.1, consists.2.1, ih consists.2.2⟩

theorem withoutSort_of_isUnsorted {q : Query} (unsorted : q.isUnsorted = true) :
    q.withoutSort = q := by
  induction q with
  | clause | boolean => rfl
  | sorted subtree keys => cases unsorted
  | «scoped» name uri subtree ih => exact congrArg (Query.scoped name uri) (ih unsorted)

/-- A query that was read has one sort at most, and that is the one that is taken away. -/
theorem isUnsorted_withoutSort {n : Nat} {ts : List Token} {q : Query}
    (derives : Derives .sortedQuery n ts q) : q.withoutSort.isUnsorted = true := by
  generalize same : Kind.sortedQuery = kind at derives
  induction derives with
  | unsorted whole =>
      have unsorted := isUnsorted_of_derives whole nofun
      rw [withoutSort_of_isUnsorted unsorted, unsorted]
  | sorted whole isSort sorting => exact isUnsorted_of_derives whole nofun
  | declaredSorted assigns inside ih => exact ih same
  | clause | parens | operand | operator | chain | declared => cases same

/-- What has no sort can stand between parentheses. -/
theorem derives_query_of_sortKeys? {n : Nat} {ts : List Token} {q : Query}
    (derives : Derives .sortedQuery n ts q) (unsorted : q.sortKeys? = none) :
    Derives .query n ts q := by
  generalize same : Kind.sortedQuery = kind at derives
  induction derives with
  | unsorted whole => exact .chain whole
  | sorted whole isSort sorting => cases unsorted
  | declaredSorted assigns inside ih => exact .declared assigns (ih unsorted same)
  | clause | parens | operand | operator | chain | declared => cases same

/-! ## Both conditions -/

/-- The condition of two that may be absent, where an absent one is true. -/
def conjoined : Option String → Option String → Option String
  | some v, some w => some ("(" ++ v ++ " AND " ++ w ++ ")")
  | some v, none => some v
  | none, w => w

theorem whereText_eq_ok {q : Query} {text : Option String} :
    q.whereText answer = .ok text ↔ ∃ c, q.condition answer = .ok c ∧ c.map (·.text) = text :=
  bind_pure_eq_ok

/-- A conjunction is written with `AND` where both conditions are there. -/
theorem whereText_and {ms : List Modifier} {left right : Query} {text : Option String} :
    (boolean .and ms left right).whereText answer = .ok text ↔
      ∃ v w, left.whereText answer = .ok v ∧ right.whereText answer = .ok w ∧
        text = conjoined v w := by
  have joined (v w : Option Sql.Condition) : ∃ c, BooleanOp.join .and v w = .ok c ∧
      c.map (·.text) = conjoined (v.map (·.text)) (w.map (·.text)) := by
    cases v <;> cases w <;> exact ⟨_, rfl, rfl⟩
  simp only [whereText_eq_ok]
  constructor
  · rintro ⟨c, compiled, rfl⟩
    obtain ⟨v, onLeft, compiled⟩ := bind_eq_ok.mp compiled
    obtain ⟨w, onRight, both⟩ := bind_eq_ok.mp compiled
    obtain ⟨c', same, text⟩ := joined v w
    rw [same] at both
    cases both
    exact ⟨_, _, ⟨v, onLeft, rfl⟩, ⟨w, onRight, rfl⟩, text⟩
  · rintro ⟨_, _, ⟨v, onLeft, rfl⟩, ⟨w, onRight, rfl⟩, rfl⟩
    obtain ⟨c, both, text⟩ := joined v w
    exact ⟨c, bind_eq_ok.mpr ⟨v, onLeft, bind_eq_ok.mpr ⟨w, onRight, both⟩⟩, text⟩

theorem sameOk_whereText_plain {r : Registry} {q : Query} (one : r.HasOneServerChoice q) :
    SameOk (q.withoutSort.plain.whereText r.clauseCondition) (q.whereText r.clauseCondition) := by
  have each : ∀ c ∈ q.withoutSort.clauses,
      SameOk (r.clauseCondition c.plain) (r.clauseCondition c) := by
    intro c member
    rw [clauses_withoutSort] at member
    exact Registry.sameOk_clauseCondition_plain (one.find?_eq member)
  have compiled := sameOk_condition_plain each
  rw [condition_withoutSort] at compiled
  exact compiled.bind fun _ => .refl _

/-! ## What is read -/

/-- The canonical text of a query that was read, without its sort, may stand between parentheses. -/
theorem exists_derives_withoutSort {s : String} {q : Query} (parsed : parse s = .ok q)
    (fits : q.FitsQuotes) : ∃ ts, Splits q.withoutSort.canonical.toList ts ∧
      Derives .query q.withoutSort.levels ts q.withoutSort.plain := by
  obtain ⟨-, n, -, derivesRead⟩ := parse_eq_ok_iff_derives.mp parsed
  have wf := (consists_of_parse parsed).withoutSort.wellFormed_plain fits.withoutSort
  have unsorted : q.withoutSort.plain.isUnsorted = true := by
    rw [isUnsorted_plain, isUnsorted_withoutSort derivesRead]
  obtain ⟨ts, writes, derives⟩ := exists_writes_canonical wf
  have splits := writes.splits
  have inside := derives_query_of_kind unsorted (derives (sortsOutermost_of_isUnsorted unsorted))
  rw [canonical_plain] at splits
  rw [levels_plain] at inside
  exact ⟨ts, splits, inside⟩

/-- The combined text is a conjunction, each side in parentheses. -/
theorem derives_combined {first q : Query} {m n : Nat} {ts us : List Token}
    (derivesFirst : Derives .query m ts first) (derivesSecond : Derives .query n us q) :
    Derives .sortedQuery (max (m + 1) (n + 2)) (Token.openParen :: (ts ++
      Token.closeParen :: Token.word "AND" :: Token.openParen :: (us ++ [Token.closeParen])))
      (.boolean .and [] first q) := by
  have whole := Derives.operator (.operand (.parens derivesFirst)) foldCase_capital_and .none
    (.parens derivesSecond)
  rw [show 0 + 1 + (n + 1) = n + 2 by omega] at whole
  simpa using Derives.unsorted whole

theorem combine_eq_of_parse {first second : String} {p : Query} (parsed : parse first = .ok p) :
    combine (some first) (some second) = (parse (combinedText p second)).map some := by
  unfold combine
  dsimp only
  rw [parsed, ok_bind]
  rfl

/-- **Conjunction of conditions.** Two queries, the second without a sort, are combined into one whose
condition puts theirs together with `AND` and is refused just when one of theirs is. The whole is too
deep only where the canonical text of the first is nested `maxDepth` levels deep or more, or the text
of the second one level less. -/
theorem combine_conjoins_conditions (r : Registry) (first second : String) (p q : Query)
    (parsedFirst : parse first = .ok p) (parsedSecond : parse second = .ok q)
    (unsorted : q.sortKeys? = none) (fits : p.FitsQuotes) (one : r.HasOneServerChoice p) :
    ∃ n, Derives .sortedQuery n (tokens (lex second).lexemes) q ∧
      (maxDepth < max (p.withoutSort.levels + 1) (n + 2) →
        ∃ position, combine (some first) (some second) = .error ⟨.tooDeep, position⟩) ∧
      (max (p.withoutSort.levels + 1) (n + 2) ≤ maxDepth →
        ∃ whole, combine (some first) (some second) = .ok (some whole) ∧
          ∀ text, r.whereText (some whole) = .ok text ↔
            ∃ v w, r.whereText (some p) = .ok v ∧ r.whereText (some q) = .ok w ∧
              text = conjoined v w) := by
  obtain ⟨finishedSecond, n, -, derivesSecond⟩ := parse_eq_ok_iff_derives.mp parsedSecond
  obtain ⟨ts, splitsFirst, derivesFirst⟩ := exists_derives_withoutSort parsedFirst fits
  have whole := derives_combined derivesFirst (derives_query_of_sortKeys? derivesSecond unsorted)
  obtain ⟨finished, same⟩ := splits_iff_lex.mp
    (splits_combinedText splitsFirst (splits_iff_lex.mpr ⟨finishedSecond, rfl⟩))
  rw [← same] at whole
  refine ⟨n, derivesSecond, ?_, ?_⟩
  · intro deep
    obtain ⟨position, failed⟩ := parse_tooDeep whole deep
    refine ⟨position, ?_⟩
    rw [combine_eq_of_parse parsedFirst, failed]
    rfl
  · intro room
    refine ⟨.boolean .and [] p.withoutSort.plain q, ?_, ?_⟩
    · rw [combine_eq_of_parse parsedFirst,
        parse_eq_ok_iff_derives.mpr ⟨finished, _, room, whole⟩]
      rfl
    · intro text
      show (boolean .and [] p.withoutSort.plain q).whereText r.clauseCondition = .ok text ↔ _
      rw [whereText_and]
      refine exists_congr fun v => exists_congr fun w => and_congr_left' ?_
      exact sameOk_whereText_plain one v

theorem combine_conjoins_conditions_of_catalogue :
    parse ">dc=\"x\" title = a*" = .ok (.scoped (some "dc") "x" (.clause ⟨"title", ⟨"=", []⟩, "a*"⟩)) ∧
    parse "cost > 1" = .ok (.clause ⟨"cost", ⟨">", []⟩, "1"⟩) ∧
    ∃ n, Derives .sortedQuery n (tokens (lex "cost > 1").lexemes)
        (.clause ⟨"cost", ⟨">", []⟩, "1"⟩) ∧
      (maxDepth < max ((withoutSort (.scoped (some "dc") "x"
          (.clause ⟨"title", ⟨"=", []⟩, "a*"⟩))).levels + 1) (n + 2) →
        ∃ position, combine (some ">dc=\"x\" title = a*") (some "cost > 1") =
          .error ⟨.tooDeep, position⟩) ∧
      (max ((withoutSort (.scoped (some "dc") "x"
          (.clause ⟨"title", ⟨"=", []⟩, "a*"⟩))).levels + 1) (n + 2) ≤ maxDepth →
        ∃ whole, combine (some ">dc=\"x\" title = a*") (some "cost > 1") = .ok (some whole) ∧
          ∀ text, Registry.catalogue.whereText (some whole) = .ok text ↔
            ∃ v w, Registry.catalogue.whereText (some (.scoped (some "dc") "x"
                (.clause ⟨"title", ⟨"=", []⟩, "a*"⟩))) = .ok v ∧
              Registry.catalogue.whereText (some (.clause ⟨"cost", ⟨">", []⟩, "1"⟩)) = .ok w ∧
              text = conjoined v w) := by
  have parsedFirst : parse ">dc=\"x\" title = a*" =
      .ok (.scoped (some "dc") "x" (.clause ⟨"title", ⟨"=", []⟩, "a*"⟩)) := by
    cbv
  have parsedSecond : parse "cost > 1" = .ok (.clause ⟨"cost", ⟨">", []⟩, "1"⟩) := by cbv
  have fits : FitsQuotes (.scoped (some "dc") "x" (.clause ⟨"title", ⟨"=", []⟩, "a*"⟩)) := by
    refine ⟨?_, ?_⟩
    · intro u member
      cases List.mem_singleton.mp member
      decide
    · intro c member alone
      cases List.mem_singleton.mp member
      exact absurd alone (by decide +kernel)
  exact ⟨parsedFirst, parsedSecond, combine_conjoins_conditions Registry.catalogue _ _ _ _
    parsedFirst parsedSecond rfl fits (.inl (by decide +kernel))⟩

/-- Two queries, each of which has a condition by itself, that are not combined or whose whole has no
condition: the first has a URI that ends in a backslash, or the older name of the index of lone
terms. -/
theorem combine_refuses_queries :
    (parse ">dc=u\\ cost=1" =
        .ok (.scoped (some "dc") "u\\" (.clause ⟨"cost", ⟨"=", []⟩, "1"⟩)) ∧
      parse "cost=2" = .ok (.clause ⟨"cost", ⟨"=", []⟩, "2"⟩) ∧
      combine (some ">dc=u\\ cost=1") (some "cost=2") = .error ⟨.unterminated, 5⟩) ∧
    ∃ r : Registry, ∃ whole,
      parse "srw.serverChoice = 1" = .ok (.clause ⟨"srw.serverChoice", ⟨"=", []⟩, "1"⟩) ∧
      r.whereText (some (.clause ⟨"srw.serverChoice", ⟨"=", []⟩, "1"⟩)) = .ok (some "price=1") ∧
      r.whereText (some (.clause ⟨"cost", ⟨"=", []⟩, "2"⟩)) = .ok (some "cost=2") ∧
      combine (some "srw.serverChoice = 1") (some "cost=2") = .ok (some whole) ∧
      r.whereText (some whole) = .error (.unknownIndex "cql.serverChoice") := by
  refine ⟨⟨by cbv, by cbv, by cbv⟩, ?_⟩
  refine ⟨(Registry.empty.insert "srw.serverChoice" ⟨"price", .number⟩).insert "cost" ⟨"", .number⟩,
    .boolean .and [] (.clause ⟨"cql.serverChoice", ⟨"=", []⟩, "1"⟩)
      (.clause ⟨"cost", ⟨"=", []⟩, "2"⟩), by cbv, ?_, ?_, by cbv, ?_⟩
  · decide +kernel
  · decide +kernel
  · decide +kernel

end Query

end ContextQuery
