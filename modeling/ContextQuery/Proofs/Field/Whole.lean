import ContextQuery.Proofs.Field.Masked

/-!
# Terms for whole texts

Comparison and full-text search take a term for one text. `Mask.Items` tells by rules alone which
terms say one and which text it is, and `Mask.Misfit` how a term goes on where it does not. A term
is refused for the first thing in it that does not fit, and otherwise the text is in the literal, to
be found there by reading each pair of quotes as one (`Clause.exactBody_reads_items`).
-/

namespace ContextQuery

namespace Mask

/-! ## Items -/

/-- The characters say the one character: it stands by itself, or after a backslash if it has a
meaning or is a quote. -/
inductive Item : List Char → Char → Prop where
  | escaped {c : Char} (special : c ∈ ['*', '?', '^', '"', '\\']) : Item ['\\', c] c
  | plain {c : Char} (free : c ∉ ['\\', '*', '?', '^']) : Item [c] c

/-- The term is made of items, one for each character of the text. -/
inductive Items : List Char → List Char → Prop where
  | nil : Items [] []
  | cons {item t : List Char} {c : Char} {value : List Char} (first : Item item c)
      (more : Items t value) : Items (item ++ t) (c :: value)

/-- The characters do not begin with an item, and why. -/
inductive Misfit : List Char → Fault → Prop where
  | anyText (t : List Char) : Misfit ('*' :: t) .anyText
  | anyChar (t : List Char) : Misfit ('?' :: t) .anyChar
  | anchor (t : List Char) : Misfit ('^' :: t) .anchor
  | badEscape {c : Char} (other : c ∉ ['*', '?', '^', '"', '\\']) (t : List Char) :
      Misfit ('\\' :: c :: t) .badEscape
  | trailingBackslash : Misfit ['\\'] .trailingBackslash

variable {t bad value : List Char} {fault : Fault}

theorem Items.escaped {c : Char} (special : c ∈ ['*', '?', '^', '"', '\\'])
    (more : Items t value) : Items ('\\' :: c :: t) (c :: value) :=
  .cons (.escaped special) more

theorem Items.plain {c : Char} (free : c ∉ ['\\', '*', '?', '^']) (more : Items t value) :
    Items (c :: t) (c :: value) :=
  .cons (.plain free) more

/-- A character that is not a backslash is an item or does not fit. -/
theorem item_or_misfit {c : Char} (noBackslash : c ≠ '\\') (t : List Char) :
    c ∉ ['\\', '*', '?', '^'] ∨ ∃ fault, Misfit (c :: t) fault := by
  by_cases star : c = '*'
  · exact .inr ⟨.anyText, star ▸ .anyText t⟩
  · by_cases mark : c = '?'
    · exact .inr ⟨.anyChar, mark ▸ .anyChar t⟩
    · by_cases anchor : c = '^'
      · exact .inr ⟨.anchor, anchor ▸ .anchor t⟩
      · exact .inl (by simp [*])

/-- A term is made of items up to its end, or up to the first thing that does not fit. -/
theorem exists_items (t : List Char) : ∃ front value bad, t = front ++ bad ∧ Items front value ∧
    (bad = [] ∨ ∃ fault, Misfit bad fault) := by
  fun_induction read Symbol.only t with
  | case1 => exact ⟨[], [], [], rfl, .nil, .inl rfl⟩
  | case2 => exact ⟨[], [], ['\\'], rfl, .nil, .inr ⟨_, .trailingBackslash⟩⟩
  | case3 c rest escapable ih =>
      obtain ⟨front, value, bad, rfl, items, ends⟩ := ih
      exact ⟨_, _, bad, rfl, .escaped (isEscapable_iff.mp escapable) items, ends⟩
  | case4 c rest other =>
      have other := fun special => other (isEscapable_iff.mpr special)
      exact ⟨[], [], _, rfl, .nil, .inr ⟨_, .badEscape other rest⟩⟩
  | case5 c rest noLast noPair ih =>
      rcases item_or_misfit (ne_backslash_of_unpaired noLast noPair) rest with free | misfit
      · obtain ⟨front, value, bad, rfl, items, ends⟩ := ih
        exact ⟨_, _, bad, rfl, .plain free items, ends⟩
      · exact ⟨[], [], c :: rest, rfl, .nil, .inr misfit⟩

/-! ## Reading -/

theorem characters_item {item : List Char} {c : Char} (isItem : Item item c) (t : List Char) :
    characters (item ++ t) = do return c :: (← characters t) := by
  cases isItem with
  | escaped special =>
      show read Symbol.only ('\\' :: c :: t) = _
      rw [read, if_pos (isEscapable_iff.mpr special)]
      rfl
  | plain free =>
      show read Symbol.only (c :: t) = _
      rw [read_cons fun same => free (List.mem_cons.mpr (.inl same)), ofChar_plain free]
      rfl

theorem characters_append (items : Items t value) (rest : List Char) :
    characters (t ++ rest) = do return value ++ (← characters rest) := by
  induction items with
  | nil =>
      cases read : characters rest with
      | error e => rw [List.nil_append, read]; rfl
      | ok others => rw [List.nil_append, read]; rfl
  | cons first more ih =>
      rw [List.append_assoc, characters_item first, ih]
      cases characters rest with
      | error e => rfl
      | ok others => rfl

theorem characters_misfit (misfit : Misfit bad fault) : characters bad = .error fault := by
  cases misfit with
  | anyText t | anyChar t | anchor t =>
      show read Symbol.only (_ :: t) = _
      rw [read_cons (by decide)]
      rfl
  | badEscape other t =>
      show read Symbol.only ('\\' :: _ :: t) = _
      rw [read, if_neg fun special => other (isEscapable_iff.mp special)]
  | trailingBackslash => rfl

theorem characters_of_items (items : Items t value) : characters t = .ok value := by
  have whole := characters_append items []
  rw [List.append_nil] at whole
  rw [whole]
  show Except.ok (value ++ []) = _
  rw [List.append_nil]

theorem characters_of_misfit {front : List Char} (items : Items front value)
    (misfit : Misfit bad fault) : characters (front ++ bad) = .error fault := by
  rw [characters_append items, characters_misfit misfit]
  rfl

/-- Terms are read just when they are made of items, and as what these say. -/
theorem characters_eq_ok_iff : characters t = .ok value ↔ Items t value := by
  refine ⟨fun done => ?_, characters_of_items⟩
  obtain ⟨front, others, bad, rfl, items, rfl | ⟨fault, misfit⟩⟩ := exists_items t
  · rw [List.append_nil] at done ⊢
    rw [characters_of_items items] at done
    cases done
    exact items
  · rw [characters_of_misfit items misfit] at done
    cases done

/-- The fault is that of the first misfit. -/
theorem characters_eq_error_iff : characters t = .error fault ↔
    ∃ front value bad, t = front ++ bad ∧ Items front value ∧ Misfit bad fault := by
  constructor
  · intro failed
    obtain ⟨front, others, bad, rfl, items, rfl | ⟨fault', misfit⟩⟩ := exists_items t
    · rw [List.append_nil, characters_of_items items] at failed
      cases failed
    · rw [characters_of_misfit items misfit] at failed
      cases failed
      exact ⟨front, others, bad, rfl, items, misfit⟩
  · rintro ⟨front, value, bad, rfl, items, misfit⟩
    exact characters_of_misfit items misfit

end Mask

/-! ## Clauses -/

namespace Clause

/-- The body of a literal is that of the text which the items say. -/
theorem exactBody_eq_ok {c : Clause} {body : String} : c.exactBody = .ok body ↔
    ∃ value, Mask.Items c.term.toList value ∧
      String.ofList (Sql.literalBody value) = body := by
  rw [exactBody_eq_ok_iff_exact, Mask.exact, bind_pure_eq_ok]
  simp only [Mask.characters_eq_ok_iff]

theorem exactBody_eq_error {c : Clause} {e : ClauseError} : c.exactBody = .error e ↔
    ∃ front value bad fault, c.term.toList = front ++ bad ∧ Mask.Items front value ∧
      Mask.Misfit bad fault ∧ e = .refused (.mask fault) c := by
  have read : c.exactBody = .error e ↔
      ∃ fault, Mask.characters c.term.toList = .error fault ∧ e = .refused (.mask fault) c := by
    unfold exactBody Mask.exact
    cases Mask.characters c.term.toList with
    | ok value => simp [bind, Except.bind, pure, Except.pure]
    | error fault => simp [bind, Except.bind, eq_comm]
  rw [read]
  simp only [Mask.characters_eq_error_iff]
  constructor
  · rintro ⟨fault, ⟨front, value, bad, split, items, misfit⟩, rfl⟩
    exact ⟨front, value, bad, fault, split, items, misfit, rfl⟩
  · rintro ⟨front, value, bad, fault, split, items, misfit, rfl⟩
    exact ⟨fault, ⟨front, value, bad, split, items, misfit⟩, rfl⟩

/-- Full-text search refuses the term that comparison refuses. -/
theorem fullTextCondition_eq_error {column : String} {search : TextSearch} {c : Clause}
    {condition : Except ClauseError String}
    (searched : Field.fullTextCondition? column search c = some condition) (e : ClauseError) :
    condition = .error e ↔ c.exactBody = .error e := by
  unfold Field.fullTextCondition? at searched
  obtain ⟨language, named, searched⟩ := Option.bind_eq_some_iff.mp searched
  obtain ⟨function, supported, searched⟩ := Option.bind_eq_some_iff.mp searched
  cases searched
  cases c.exactBody with
  | ok body => simp [bind, Except.bind, pure, Except.pure]
  | error fault => simp [bind, Except.bind]

/-- **Whole texts.** A term can be compared as a whole just when it is made of items. The body of the
literal then has the text that they say for its value, and no quote in it is without its pair.
Otherwise the fault is that of the first place where the term does not go on with an item, and it is
told with the canonical text of the clause. Full-text search takes the same terms. -/
theorem exactBody_reads_items (c : Clause) :
    ((∃ body, c.exactBody = .ok body) ↔ ∃ value, Mask.Items c.term.toList value) ∧
    (∀ body value, c.exactBody = .ok body → Mask.Items c.term.toList value →
      Sql.value? body.toList = some value ∧ Sql.PairsQuotes body.toList) ∧
    (∀ e, c.exactBody = .error e ↔
      ∃ front value bad fault, c.term.toList = front ++ bad ∧ Mask.Items front value ∧
        Mask.Misfit bad fault ∧ e = .refused (.mask fault) c) ∧
    (∀ fault, (ClauseError.refused (.mask fault) c).message =
      fault.message ++ " for: " ++ c.canonical) ∧
    (∀ column search condition, Field.fullTextCondition? column search c = some condition →
      ∀ e, condition = .error e ↔ c.exactBody = .error e) := by
  refine ⟨?_, ?_, fun e => exactBody_eq_error, fun fault => rfl, ?_⟩
  · constructor
    · rintro ⟨body, read⟩
      obtain ⟨value, items, -⟩ := exactBody_eq_ok.mp read
      exact ⟨value, items⟩
    · rintro ⟨value, items⟩
      exact ⟨_, exactBody_eq_ok.mpr ⟨value, items, rfl⟩⟩
  · intro body value read items
    obtain ⟨other, items', rfl⟩ := exactBody_eq_ok.mp read
    -- the items of a term say one text
    cases (Mask.characters_of_items items').symm.trans (Mask.characters_of_items items)
    rw [String.toList_ofList]
    have found := Sql.value?_literalBody value
    exact ⟨found, Sql.pairsQuotes_of_value? found⟩
  · intro column search condition searched
    exact fullTextCondition_eq_error searched

/-- A term with a backslash before a star and one before a backslash, and a quote; and one in which
the star after the pair of backslashes does not fit. -/
theorem exactBody_reads_items_of_titles :
    Clause.exactBody ⟨"title", ⟨"==", []⟩, "o'\\*\\\\"⟩ = .ok "o''*\\" ∧
    Mask.Items "o'\\*\\\\".toList "o'*\\".toList ∧
    Sql.value? "o''*\\".toList = some "o'*\\".toList ∧ Sql.PairsQuotes "o''*\\".toList ∧
    Clause.exactBody ⟨"title", ⟨"==", []⟩, "a\\\\*\\n"⟩ =
      .error (.refused (.mask .anyText) ⟨"title", ⟨"==", []⟩, "a\\\\*\\n"⟩) := by
  have read : Clause.exactBody ⟨"title", ⟨"==", []⟩, "o'\\*\\\\"⟩ = .ok "o''*\\" := by
    decide +kernel
  have items : Mask.Items "o'\\*\\\\".toList "o'*\\".toList :=
    .plain (by decide) (.plain (by decide) (.escaped (by decide) (.escaped (by decide) .nil)))
  have value := (exactBody_reads_items _).2.1 _ _ read items
  refine ⟨read, items, value.1, value.2, ?_⟩
  exact ((exactBody_reads_items _).2.2.1 _).mpr ⟨"a\\\\".toList, "a\\".toList, "*\\n".toList, _, rfl,
    .plain (by decide) (.escaped (by decide) .nil), .anyText _, rfl⟩

end Clause

end ContextQuery
