import ContextQuery.Proofs.Field.Masked

/-!
# Text fields that can do more

A text field may be made to compare whole texts, and to match patterns besides. A clause that it
answers already is answered in the same words when it can do more
(`Field.condition_withExact_withLike`). The one place where this is in doubt is a field that begins
to match patterns: it reads the term of each comparison as a pattern first. But a term that asks for
one text can be read as a pattern, and as one without wildcards (`Mask.like_of_exact`).
-/

namespace ContextQuery

/-! ## Terms for one text -/

namespace Mask

/-- What asks for one character in each place has no wildcard. -/
theorem any_isWildcard_of_only {ss : List Symbol} {value : List Char}
    (taken : ss.mapM Symbol.only = .ok value) : ss.any Symbol.isWildcard = false := by
  induction ss generalizing value with
  | nil => rfl
  | cons sym ss ih =>
      obtain ⟨c, others, one, rest, -⟩ := mapM_cons_eq_ok.mp taken
      cases sym with
      | char c => exact ih rest
      | anyChar | anyText => cases one

/-- A term that asks for one text is a pattern as well, and one that needs no matching. -/
theorem like_of_exact {term body : String} (read : exact term = .ok body) :
    ∃ pattern, like term = .ok pattern ∧ pattern.wildcards = false := by
  obtain ⟨value, read, -⟩ := bind_pure_eq_ok.mp read
  obtain ⟨ss, spells, taken⟩ := read_eq_ok_iff.mp read
  exact ⟨_, like_eq_ok_iff.mpr ⟨ss, spells, rfl⟩, any_isWildcard_of_only taken⟩

end Mask

/-! ## Clauses that are answered -/

namespace Field

variable {column sql : String} {search : TextSearch} {c : Clause}

/-- A field that may match patterns does not do so for a term that asks for one text. -/
theorem likeCondition?_of_exactBody {body : String} (read : c.exactBody = .ok body) :
    likeCondition? column search c = .ok none := by
  obtain ⟨pattern, like, plain⟩ := Mask.like_of_exact (Clause.exactBody_eq_ok_iff_exact.mp read)
  unfold likeCondition?
  rw [Clause.likePattern_eq_ok_iff_like.mpr like]
  by_cases asked : (search.isLike && ["=", "==", "<>"].contains c.relation.base) = true
  · rw [if_pos asked, ok_bind, plain]
    rfl
  · rw [if_neg asked]

end Field

/-! ## Searches that can do more -/

/-- The second search can do what the first can, with the same full-text search or none. -/
structure TextSearch.Widens (search wider : TextSearch) : Prop where
  language : wider.language = search.language
  exact : search.isExact = true → wider.isExact = true
  like : search.isLike = true → wider.isLike = true

theorem TextSearch.widens_withExact (search : TextSearch) : search.Widens search.withExact := by
  obtain ⟨matching, language⟩ := search
  cases matching with
  | disabled | exact | like => exact ⟨rfl, fun _ => rfl, id⟩

theorem TextSearch.widens_withLike (search : TextSearch) : search.Widens search.withLike :=
  ⟨rfl, fun _ => rfl, fun _ => rfl⟩

namespace Field

variable {column sql : String} {search wider : TextSearch} {c : Clause}

theorem fullTextCondition?_of_widens (widens : search.Widens wider) :
    fullTextCondition? column wider c = fullTextCondition? column search c := by
  unfold fullTextCondition? TextSearch.languageBody?
  rw [widens.language]

/-- The relation of a full-text search is none that asks for a null, so the empty term is tested for
by the relation alone. -/
theorem nullCondition?_of_fullText {condition : Except ClauseError String}
    (searches : fullTextCondition? column search c = some condition) (nullTest nullTest' : Bool) :
    c.nullCondition? column nullTest = c.nullCondition? column nullTest' := by
  have other : (c.relation.base == "<>") = false := by
    unfold fullTextCondition? at searches
    obtain ⟨language, -, searches⟩ := Option.bind_eq_some_iff.mp searches
    obtain ⟨function, named, -⟩ := Option.bind_eq_some_iff.mp searches
    rw [beq_eq_false_iff_ne]
    intro different
    rw [different] at named
    cases named
  unfold Clause.nullCondition?
  rw [other, Bool.false_and, Bool.false_and]

theorem likeCondition?_of_widens (widens : search.Widens wider)
    (fits : likeCondition? column search c = .ok (some sql)) :
    likeCondition? column wider c = .ok (some sql) := by
  have matching : search.isLike = true := by
    by_contra other
    rw [Bool.not_eq_true] at other
    unfold likeCondition? at fits
    rw [other] at fits
    cases fits
  rw [← fits]
  unfold likeCondition?
  rw [matching, widens.like matching]

/-- What is answered stays answered, in each of the four ways by the same way. -/
theorem Answers.of_widens (widens : search.Widens wider) (answers : Answers column search c sql) :
    Answers column wider c sql := by
  have sameSearch : fullTextCondition? column wider c = fullTextCondition? column search c :=
    fullTextCondition?_of_widens widens
  cases answers with
  | nullTest exact tests => exact .nullTest (widens.exact exact) tests
  | fullText noTest searches =>
      refine .fullText ?_ (sameSearch.trans searches)
      rwa [nullCondition?_of_fullText searches wider.isExact search.isExact]
  | pattern exact noTest noSearch fits =>
      exact .pattern (widens.exact exact) noTest (sameSearch.trans noSearch)
        (likeCondition?_of_widens widens fits)
  | comparison exact noTest noSearch noPattern operates read =>
      exact .comparison (widens.exact exact) noTest (sameSearch.trans noSearch)
        (likeCondition?_of_exactBody read) operates read

/-- **Widening.** A clause that a text field answers is answered with the same condition when the
field also compares whole texts, and when it also matches patterns, whatever it did before. -/
theorem condition_withExact_withLike (column : String) (search : TextSearch) (c : Clause)
    (sql : String) (answered : condition ⟨column, .text search⟩ c = .ok (some sql)) :
    condition ⟨column, .text search.withExact⟩ c = .ok (some sql) ∧
      condition ⟨column, .text search.withLike⟩ c = .ok (some sql) := by
  have answers : Answers column search c sql := textCondition_eq_ok_iff.mp answered
  constructor
  · exact textCondition_eq_ok_iff.mpr (answers.of_widens search.widens_withExact)
  · exact textCondition_eq_ok_iff.mpr (answers.of_widens search.widens_withLike)

/-- A comparison with a text of which three characters have a meaning in patterns, though one of
them alone is masked in the term; and a full-text search for nothing in a field that has no other. -/
theorem condition_withExact_withLike_of_titles :
    condition ⟨"title", .text ⟨.exact, none⟩⟩ ⟨"title", ⟨"<>", []⟩, "5%_o'\\*"⟩ =
      .ok (some "title <> '5%_o''*'") ∧
    condition ⟨"title", .text ⟨.like, none⟩⟩ ⟨"title", ⟨"<>", []⟩, "5%_o'\\*"⟩ =
      .ok (some "title <> '5%_o''*'") ∧
    condition ⟨"title", .text ⟨.disabled, some "o'l"⟩⟩ ⟨"title", ⟨"all", []⟩, ""⟩ =
      .ok (some "to_tsvector('o''l', title) @@ plainto_tsquery('o''l', '')") ∧
    condition ⟨"title", .text ⟨.exact, some "o'l"⟩⟩ ⟨"title", ⟨"all", []⟩, ""⟩ =
      .ok (some "to_tsvector('o''l', title) @@ plainto_tsquery('o''l', '')") ∧
    condition ⟨"title", .text ⟨.like, some "o'l"⟩⟩ ⟨"title", ⟨"all", []⟩, ""⟩ =
      .ok (some "to_tsvector('o''l', title) @@ plainto_tsquery('o''l', '')") := by
  have compared : condition ⟨"title", .text ⟨.exact, none⟩⟩ ⟨"title", ⟨"<>", []⟩, "5%_o'\\*"⟩ =
      .ok (some "title <> '5%_o''*'") := by decide +kernel
  have searched : condition ⟨"title", .text ⟨.disabled, some "o'l"⟩⟩ ⟨"title", ⟨"all", []⟩, ""⟩ =
      .ok (some "to_tsvector('o''l', title) @@ plainto_tsquery('o''l', '')") := by decide +kernel
  exact ⟨compared, (condition_withExact_withLike _ _ _ _ compared).2, searched,
    condition_withExact_withLike _ _ _ _ searched⟩

end Field

end ContextQuery
