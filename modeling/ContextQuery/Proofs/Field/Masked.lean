import ContextQuery.Proofs.Field.Contained
import ContextQuery.Proofs.Query.Parts
import ContextQuery.Proofs.Sql.Value
import ContextQuery.Proofs.Text.Wildcards

/-!
# What a mask says

`Mask.Spells` tells which terms can be read and as which symbols, by rules alone. From it follows
what the two readings of a term say: every text has a term that asks for it alone
(`Mask.spells_escape`), and a `LIKE` pattern describes the texts that the term describes, no others
(`Clause.likePattern_matches_term`).
-/

namespace ContextQuery

/-- The wildcards of `LIKE`. -/
def Sql.likeWildcards : Text.Wildcards := { anyChar := '_', anyText := '%' }

namespace Mask

/-! ## Terms and their symbols -/

/-- The term is these symbols, written one after the other. -/
inductive Spells : List Char → List Symbol → Prop where
  | nil : Spells [] []
  | escaped {c : Char} {t : List Char} {ss : List Symbol} (escapable : isEscapable c = true)
      (more : Spells t ss) : Spells ('\\' :: c :: t) (.char c :: ss)
  | anyChar {t : List Char} {ss : List Symbol} (more : Spells t ss) :
      Spells ('?' :: t) (.anyChar :: ss)
  | anyText {t : List Char} {ss : List Symbol} (more : Spells t ss) :
      Spells ('*' :: t) (.anyText :: ss)
  | char {c : Char} {t : List Char} {ss : List Symbol} (plain : c ∉ ['\\', '*', '?', '^'])
      (more : Spells t ss) : Spells (c :: t) (.char c :: ss)

/-- What a character asks for by itself is what it spells. -/
theorem spells_of_ofChar {c : Char} {sym : Symbol} {t : List Char} {ss : List Symbol}
    (noBackslash : c ≠ '\\') (asks : Symbol.ofChar c = .ok sym) (more : Spells t ss) :
    Spells (c :: t) (sym :: ss) := by
  unfold Symbol.ofChar at asks
  by_cases star : c = '*'
  · rw [if_pos star] at asks
    cases asks
    exact star ▸ .anyText more
  · by_cases mark : c = '?'
    · rw [if_neg star, if_pos mark] at asks
      cases asks
      exact mark ▸ .anyChar more
    · by_cases anchor : c = '^'
      · rw [if_neg star, if_neg mark, if_pos anchor] at asks
        cases asks
      · rw [if_neg star, if_neg mark, if_neg anchor] at asks
        cases asks
        exact .char (by simp [*]) more

theorem ofChar_plain {c : Char} (plain : c ∉ ['\\', '*', '?', '^']) :
    Symbol.ofChar c = .ok (.char c) := by
  simp only [List.mem_cons, List.not_mem_nil, or_false, not_or] at plain
  obtain ⟨-, star, mark, anchor⟩ := plain
  rw [Symbol.ofChar, if_neg star, if_neg mark, if_neg anchor]

section Reading

variable {α : Type} {take : Symbol → Except Fault α} {t : List Char} {as : List α}

theorem read_cons {c : Char} (noBackslash : c ≠ '\\') (t : List Char) :
    read take (c :: t) = do
      let a ← take (← Symbol.ofChar c)
      return a :: (← read take t) := by
  rw [read]
  · exact fun same => absurd same noBackslash
  · exact fun d t same => absurd same noBackslash

/-- A term that is read spells symbols, and each of them was taken. -/
theorem spells_of_read (done : read take t = .ok as) :
    ∃ ss, Spells t ss ∧ ss.mapM take = .ok as := by
  fun_induction read take t generalizing as with
  | case1 =>
      cases done
      exact ⟨[], .nil, rfl⟩
  | case2 => cases done
  | case3 c rest escapable ih =>
      obtain ⟨a, taken, done⟩ := bind_eq_ok.mp done
      obtain ⟨bs, read, same⟩ := bind_pure_eq_ok.mp done
      obtain ⟨ss, spells, mapped⟩ := ih read
      exact ⟨_, .escaped escapable spells, mapM_cons_eq_ok.mpr ⟨a, bs, taken, mapped, same⟩⟩
  | case4 => cases done
  | case5 c rest noLast noPair ih =>
      have noBackslash := ne_backslash_of_unpaired noLast noPair
      obtain ⟨sym, asks, done⟩ := bind_eq_ok.mp done
      obtain ⟨a, taken, done⟩ := bind_eq_ok.mp done
      obtain ⟨bs, read, same⟩ := bind_pure_eq_ok.mp done
      obtain ⟨ss, spells, mapped⟩ := ih read
      exact ⟨_, spells_of_ofChar noBackslash asks spells,
        mapM_cons_eq_ok.mpr ⟨a, bs, taken, mapped, same⟩⟩

/-- What spells symbols is read, if each of them can be taken. -/
theorem read_of_spells {ss : List Symbol} (spells : Spells t ss)
    (mapped : ss.mapM take = .ok as) : read take t = .ok as := by
  -- a character without a backslash, in front of what is read already
  have unescaped {c : Char} {sym : Symbol} {a : α} {t : List Char} {bs : List α}
      (noBackslash : c ≠ '\\') (asks : Symbol.ofChar c = .ok sym) (taken : take sym = .ok a)
      (done : read take t = .ok bs) : read take (c :: t) = .ok (a :: bs) := by
    rw [read_cons noBackslash, asks, ok_bind, taken, ok_bind, done]
    rfl
  induction spells generalizing as with
  | nil => exact mapped
  | escaped escapable more ih =>
      obtain ⟨a, bs, taken, others, rfl⟩ := mapM_cons_eq_ok.mp mapped
      rw [read, if_pos escapable, taken, ok_bind, ih others]
      rfl
  | anyChar more ih | anyText more ih =>
      obtain ⟨a, bs, taken, others, rfl⟩ := mapM_cons_eq_ok.mp mapped
      exact unescaped (by decide) rfl taken (ih others)
  | char plain more ih =>
      obtain ⟨a, bs, taken, others, rfl⟩ := mapM_cons_eq_ok.mp mapped
      have noBackslash := fun same => plain (List.mem_cons.mpr (.inl same))
      exact unescaped noBackslash (ofChar_plain plain) taken (ih others)

/-- A term is read just when it spells symbols of which each can be taken. -/
theorem read_eq_ok_iff : read take t = .ok as ↔ ∃ ss, Spells t ss ∧ ss.mapM take = .ok as :=
  ⟨spells_of_read, fun ⟨_, spells, mapped⟩ => read_of_spells spells mapped⟩

end Reading

theorem symbols_eq_ok_iff {t : List Char} {ss : List Symbol} :
    symbols t = .ok ss ↔ Spells t ss := by
  have kept (ss : List Symbol) : ss.mapM (.ok : Symbol → Except Fault Symbol) = .ok ss :=
    List.mapM_pure.trans (congrArg pure (List.map_id ss))
  rw [symbols, read_eq_ok_iff]
  constructor
  · rintro ⟨ss, spells, mapped⟩
    rw [kept] at mapped
    cases mapped
    exact spells
  · exact fun spells => ⟨ss, spells, kept ss⟩

/-! ## Terms for one text -/

/-- The term that asks for one text: a backslash before each character that has a meaning. -/
def escape (value : List Char) : List Char :=
  value.flatMap fun c => if c ∈ ['*', '?', '^', '"', '\\'] then ['\\', c] else [c]

theorem isEscapable_iff {c : Char} : isEscapable c = true ↔ c ∈ ['*', '?', '^', '"', '\\'] := by
  simp [isEscapable, or_assoc]

theorem spells_escape (value : List Char) : Spells (escape value) (value.map .char) := by
  induction value with
  | nil => exact .nil
  | cons c cs ih =>
      show Spells ((if c ∈ _ then _ else _) ++ escape cs) (.char c :: cs.map .char)
      by_cases special : c ∈ ['*', '?', '^', '"', '\\']
      · rw [if_pos special]
        exact .escaped (isEscapable_iff.mpr special) ih
      · rw [if_neg special]
        refine .char ?_ ih
        simp_all

/-- The term can stand between quotes. -/
theorem isQuotable_escape (value : List Char) : isQuotable (escape value) = true := by
  induction value with
  | nil => rfl
  | cons c cs ih =>
      show isQuotable ((if c ∈ _ then _ else _) ++ escape cs) = true
      by_cases special : c ∈ ['*', '?', '^', '"', '\\']
      · rw [if_pos special]
        exact ih
      · rw [if_neg special]
        show isQuotable (c :: escape cs) = true
        simp only [List.mem_cons, List.not_mem_nil, or_false, not_or] at special
        obtain ⟨-, -, -, quote, backslash⟩ := special
        rw [isQuotable_cons backslash quote]
        exact ih

theorem characters_escape (value : List Char) : characters (escape value) = .ok value := by
  have taken (cs : List Char) : (cs.map Symbol.char).mapM Symbol.only = .ok cs := by
    induction cs with
    | nil => rfl
    | cons c cs ih => exact mapM_cons_eq_ok.mpr ⟨c, cs, rfl, ih, rfl⟩
  exact read_eq_ok_iff.mpr ⟨value.map .char, spells_escape value, taken value⟩

theorem exact_escape (value : List Char) :
    exact (String.ofList (escape value)) = .ok (String.ofList (Sql.literalBody value)) := by
  rw [exact, String.toList_ofList, characters_escape]
  rfl

/-! ## Patterns -/

/-- The wildcards of terms. -/
def wildcards : Text.Wildcards := { anyChar := '?', anyText := '*' }

theorem like_eq_ok_iff {term : String} {pattern : LikePattern} :
    like term = .ok pattern ↔ ∃ ss, Spells term.toList ss ∧
      ⟨String.ofList (ss.flatMap Symbol.like), ss.any Symbol.isWildcard⟩ = pattern := by
  rw [like, bind_pure_eq_ok]
  simp only [symbols_eq_ok_iff]

/-- A text begins with what the symbol asks for, and `others` holds of what comes after it. -/
def Symbol.Before (others : List Char → Prop) : Symbol → List Char → Prop
  | .char c, s => ∃ rest, s = c :: rest ∧ others rest
  | .anyChar, s => ∃ c rest, s = c :: rest ∧ others rest
  | .anyText, s => ∃ skipped rest, s = skipped ++ rest ∧ others rest

/-- In a `LIKE` pattern a symbol asks for what it is, in front of any pattern. A character with a
meaning there stands after a backslash, and no other does. -/
theorem matches_pattern {sym : Symbol} {p s : List Char} :
    Sql.likeWildcards.Matches (sym.pattern ++ p) s ↔
      sym.Before (Sql.likeWildcards.Matches p) s := by
  cases sym with
  | char c =>
      show Sql.likeWildcards.Matches ((if _ then _ else _) ++ p) s ↔ _
      by_cases special : (c = '%' || c = '_' || c = '\\') = true
      · rw [if_pos special]
        exact Text.Wildcards.matches_escaped
      · rw [if_neg special]
        simp only [Bool.or_eq_true, decide_eq_true_eq, not_or] at special
        obtain ⟨⟨percent, underscore⟩, backslash⟩ := special
        exact Text.Wildcards.matches_char backslash ⟨underscore, percent⟩
  | anyChar => exact Text.Wildcards.matches_anyChar
  | anyText => exact Text.Wildcards.matches_anyText

variable {t : List Char} {ss : List Symbol}

/-- A `LIKE` pattern describes the texts that the term describes. -/
theorem matches_iff_of_spells (spells : Spells t ss) (s : List Char) :
    Sql.likeWildcards.Matches (ss.flatMap Symbol.pattern) s ↔ wildcards.Matches t s := by
  -- both begin with the first symbol, and what comes after it is the same by induction
  have begin {sym : Symbol} {t : List Char} {ss : List Symbol}
      (ih : ∀ s, Sql.likeWildcards.Matches (ss.flatMap Symbol.pattern) s ↔ wildcards.Matches t s)
      (s : List Char) : Sql.likeWildcards.Matches ((sym :: ss).flatMap Symbol.pattern) s ↔
        sym.Before (wildcards.Matches t) s := by
    have same := funext fun s => propext (ih s)
    rw [List.flatMap_cons, matches_pattern, same]
  induction spells generalizing s with
  | nil => exact Text.Wildcards.matches_nil.trans Text.Wildcards.matches_nil.symm
  | escaped escapable more ih => exact (begin ih s).trans Text.Wildcards.matches_escaped.symm
  | anyChar more ih => exact (begin ih s).trans Text.Wildcards.matches_anyChar.symm
  | anyText more ih => exact (begin ih s).trans Text.Wildcards.matches_anyText.symm
  | char plain more ih =>
      simp only [List.mem_cons, List.not_mem_nil, or_false, not_or] at plain
      obtain ⟨backslash, star, mark, -⟩ := plain
      exact (begin ih s).trans (Text.Wildcards.matches_char backslash ⟨mark, star⟩).symm

/-- Each backslash of a `LIKE` pattern has a character to go with. -/
theorem endsUnpaired_pattern (ss : List Symbol) :
    Canonical.endsUnpaired (ss.flatMap Symbol.pattern) = false := by
  induction ss with
  | nil => rfl
  | cons sym ss ih =>
      rw [List.flatMap_cons]
      cases sym with
      | char c =>
          show Canonical.endsUnpaired ((if _ then _ else _) ++ _) = false
          by_cases special : (c = '%' || c = '_' || c = '\\') = true
          · rw [if_pos special]
            exact (Canonical.endsUnpaired_pair c _).trans ih
          · rw [if_neg special]
            have backslash : c ≠ '\\' := by simp_all
            exact (Canonical.endsUnpaired_cons backslash _).trans ih
      | anyChar | anyText => exact (Canonical.endsUnpaired_cons (by decide) _).trans ih

/-- The wildcards among the symbols are those of the term that no backslash stands before. -/
theorem any_isWildcard_iff (spells : Spells t ss) :
    ss.any Symbol.isWildcard = true ↔ '*' ∈ Text.unescaped t ∨ '?' ∈ Text.unescaped t := by
  induction spells with
  | nil => simp [Text.unescaped]
  | escaped escapable more ih => simpa [Text.unescaped, Symbol.isWildcard] using ih
  | anyChar more | anyText more =>
      rw [Text.unescaped_cons (by decide)]
      simp [Symbol.isWildcard]
  | @char c t ss plain more ih =>
      simp only [List.mem_cons, List.not_mem_nil, or_false, not_or] at plain
      obtain ⟨backslash, star, mark, -⟩ := plain
      rw [Text.unescaped_cons backslash]
      simpa [Symbol.isWildcard, Ne.symm star, Ne.symm mark] using ih

end Mask

/-- **Patterns.** Where a term can be read as a `LIKE` pattern, the value of the pattern's literal
describes the texts that the term describes and no others, no backslash is left over at its end, and
it is said to have wildcards just when the term has one that no backslash stands before. -/
theorem Clause.likePattern_matches_term (c : Clause) (p : Mask.LikePattern)
    (read : c.likePattern = .ok p) :
    ∃ pattern, Sql.value? p.body.toList = some pattern ∧
      (∀ s : String, Sql.likeWildcards.Matches pattern s.toList ↔
        Mask.wildcards.Matches c.term.toList s.toList) ∧
      Canonical.endsUnpaired pattern = false ∧
      (p.wildcards = true ↔
        '*' ∈ Text.unescaped c.term.toList ∨ '?' ∈ Text.unescaped c.term.toList) := by
  have read : Mask.like c.term = .ok p := by
    unfold likePattern at read
    split at read
    · next pattern done =>
      cases read
      exact done
    · cases read
  obtain ⟨ss, spells, rfl⟩ := Mask.like_eq_ok_iff.mp read
  refine ⟨ss.flatMap Mask.Symbol.pattern, ?_, ?_, ?_, ?_⟩
  · rw [String.toList_ofList, Mask.flatMap_like, Sql.value?_literalBody]
  · exact fun s => Mask.matches_iff_of_spells spells s.toList
  · exact Mask.endsUnpaired_pattern ss
  · exact Mask.any_isWildcard_iff spells

/-- A term with each of the characters that one side takes for a wildcard and the other does not:
the star after the backslash is plain, and so is the percent sign, and the last two are wildcards. -/
theorem Clause.likePattern_matches_mixed_term :
    Clause.likePattern ⟨"title", ⟨"=", []⟩, "5%\\*o'_?*"⟩ = .ok ⟨"5\\%*o''\\__%", true⟩ ∧
    ∃ pattern, Sql.value? "5\\%*o''\\__%".toList = some pattern ∧
      (∀ s : String, Sql.likeWildcards.Matches pattern s.toList ↔
        Mask.wildcards.Matches "5%\\*o'_?*".toList s.toList) ∧
      Canonical.endsUnpaired pattern = false ∧
      (true = true ↔ '*' ∈ Text.unescaped "5%\\*o'_?*".toList ∨
        '?' ∈ Text.unescaped "5%\\*o'_?*".toList) := by
  have read : Clause.likePattern ⟨"title", ⟨"=", []⟩, "5%\\*o'_?*"⟩ =
      .ok ⟨"5\\%*o''\\__%", true⟩ := by decide +kernel
  exact ⟨read, likePattern_matches_term _ _ read⟩

end ContextQuery
