import ContextQuery.Proofs.Query.Completeness
import ContextQuery.Proofs.Query.Parts
import ContextQuery.Proofs.Text.Case

/-!
# What the canonical text says

The canonical text of each part splits into tokens that the grammar reads as that part, whatever
comes next, as long as it goes on neither with a word nor with a sign. So the text of a tree whose
sort, if it has one, stands around all the rest derives that tree (`Query.derives_canonical`), and
the parentheses that it writes decide how deeply it is nested (`Query.levels`).
-/

namespace ContextQuery

open Grammar

variable {more : List Char} {us : List Token}

/-! ## Names -/

/-- A name is written as one token, which may also stand in front of a comparison sign. -/
theorem exists_splits_symbol {s : String} (isSymbol : IsSymbol s) :
    ∃ t : Token, t.symbol? = some s ∧ ∀ ⦃more us⦄, EndsWord more → Splits more us →
      Splits ((Canonical.symbol s).toList ++ more) (t :: us) := by
  rcases Canonical.symbol_cases s with ⟨quoted, noWord⟩ | ⟨same, bare⟩
  · have quotable : isQuotable s.toList = true := isSymbol.resolve_right noWord
    refine ⟨.quoted s, rfl, ?_⟩
    intro more us _ splits
    rw [quoted]
    simpa using splits_quoted quotable splits
  · refine ⟨.word s, rfl, ?_⟩
    intro more us ends splits
    rw [same]
    exact splits_word bare ends splits

theorem exists_writes_symbol {s : String} (isSymbol : IsSymbol s) :
    ∃ t : Token, t.symbol? = some s ∧ Writes (Canonical.symbol s) [t] := by
  obtain ⟨t, isName, splits⟩ := exists_splits_symbol isSymbol
  exact ⟨t, isName, fun more us endsWord _ rest => splits endsWord rest⟩

/-- No name is written so that it goes on with a sign before it. -/
theorem endsSign_symbol (s : String) (more : List Char) :
    EndsSign ((Canonical.symbol s).toList ++ more) := by
  rcases Canonical.symbol_cases s with ⟨quoted, -⟩ | ⟨same, bare⟩
  · rw [quoted, String.toList_append, String.toList_append]
    exact endsSign_cons (by decide) (by decide)
  · obtain ⟨c, cs, characters, first, -⟩ := bare.toList_eq_cons
    rw [same, characters]
    refine endsSign_cons ?_ ?_
    · rintro rfl
      exact absurd first (by decide)
    · rintro rfl
      exact absurd first (by decide)

/-! ## Suffixes -/

/-- The text begins with a slash or a space, if it is not empty. -/
def Canonical.IsSuffix (text : String) : Prop :=
  ∀ c ∈ text.toList.head?, c = '/' ∨ c = ' '

namespace Canonical

/-- Modifiers are written behind slashes. -/
theorem isSuffix_modifiers (ms : List Modifier) : IsSuffix (modifiers ms) := by
  cases ms with
  | nil => nofun
  | cons m ms =>
      intro c first
      rw [modifiers, Modifier.canonical, String.toList_append, String.toList_append,
        String.toList_append] at first
      exact .inl (Option.some.inj first).symm

/-- Sort keys are written behind spaces. -/
theorem isSuffix_sortKeys (keys : List SortKey) : IsSuffix (sortKeys keys) := by
  cases keys with
  | nil => nofun
  | cons key keys =>
      intro c first
      rw [sortKeys, String.toList_append, String.toList_append, String.toList_append] at first
      exact .inr (Option.some.inj first).symm

variable {text : String}

/-- What holds of a slash and a space holds of what comes next behind a suffix, if it holds of what
comes next without it. -/
theorem IsSuffix.forall_head? {p : Char → Prop} (suffix : IsSuffix text) (slash : p '/')
    (space : p ' ') (ends : ∀ c ∈ more.head?, p c) : ∀ c ∈ (text.toList ++ more).head?, p c := by
  intro c first
  cases characters : text.toList with
  | nil =>
      rw [characters] at first
      exact ends c first
  | cons d ds =>
      rw [characters] at first
      cases first
      rcases suffix c (by rw [characters]; rfl) with rfl | rfl
      · exact slash
      · exact space

theorem IsSuffix.endsWord (suffix : IsSuffix text) (ends : EndsWord more) :
    EndsWord (text.toList ++ more) :=
  suffix.forall_head? rfl rfl ends

theorem IsSuffix.endsSign (suffix : IsSuffix text) (ends : EndsSign more) :
    EndsSign (text.toList ++ more) :=
  suffix.forall_head? (by decide) (by decide) ends

end Canonical

/-! ## Modifiers -/

theorem endsWord_sign (sign : Comparison) (cs : List Char) :
    EndsWord (sign.symbol.toList ++ cs) := by
  cases sign <;> exact endsWord_cons (by decide)

/-- Modifiers that can be written are written as tokens that the grammar admits as them. -/
theorem exists_writes_modifiers {ms : List Modifier} (all : ∀ m ∈ ms, m.WellFormed) :
    ∃ ts, Modifiers ts ms ∧ Writes (Canonical.modifiers ms) ts := by
  induction ms with
  | nil => exact ⟨[], .none, fun more us _ _ splits => splits⟩
  | cons m ms ih =>
      obtain ⟨ts, modified, writes⟩ := ih fun n member => all n (List.mem_cons_of_mem m member)
      obtain ⟨isName, hasValue⟩ := all m List.mem_cons_self
      obtain ⟨name, comparison, value⟩ := m
      obtain ⟨t, isName, splitsName⟩ := exists_splits_symbol isName
      -- a name alone is ended by the next modifier, a name before a sign by the sign
      rcases hasValue with ⟨rfl, rfl⟩ | ⟨sign, v, rfl, rfl, isValue⟩
      · refine ⟨.slash :: t :: ts, .named isName modified, ?_⟩
        intro more us endsWord endsSign splits
        have characters : (Canonical.modifiers (⟨name, none, none⟩ :: ms)).toList ++ more =
            '/' :: ((Canonical.symbol name).toList ++
              ((Canonical.modifiers ms).toList ++ more)) := by
          simp [Canonical.modifiers, Modifier.canonical]
        rw [characters]
        exact splits_slash (splitsName ((Canonical.isSuffix_modifiers ms).endsWord endsWord)
          (writes endsWord endsSign splits))
      · obtain ⟨u, isValue, splitsValue⟩ := exists_splits_symbol isValue
        refine ⟨.slash :: t :: .comparison sign :: u :: ts, .valued isName isValue modified, ?_⟩
        intro more us endsWord endsSign splits
        have characters :
            (Canonical.modifiers (⟨name, some sign.symbol, some v⟩ :: ms)).toList ++ more =
              '/' :: ((Canonical.symbol name).toList ++ (sign.symbol.toList ++
                ((Canonical.symbol v).toList ++ ((Canonical.modifiers ms).toList ++ more)))) := by
          simp [Canonical.modifiers, Modifier.canonical]
        rw [characters]
        have value := splitsValue ((Canonical.isSuffix_modifiers ms).endsWord endsWord)
          (writes endsWord endsSign splits)
        exact splits_slash (splitsName (endsWord_sign sign _)
          (splits_sign sign (endsSign_symbol v _) value))

/-! ## Clauses -/

/-- The base of a relation is written as it is, and read as it is written. -/
theorem exists_writes_base {base : String} (isBase : IsBase base) :
    ∃ t, Base t base ∧ Writes base [t] := by
  rcases isBase with ⟨sign, rfl⟩ | ⟨bare, free, small⟩
  · exact ⟨.comparison sign, .sign sign, fun more us _ endsSign splits =>
      splits_sign sign endsSign splits⟩
  · have same : Text.foldCase base = base := Text.foldCase_of_forall small
    refine ⟨.word base, ?_, fun more us endsWord _ splits => splits_word bare endsWord splits⟩
    have named := Base.named base free
    rwa [same] at named

/-- A phrase as it stands splits into its words. -/
theorem writes_words {w : String} {ws : List String} (first : IsBareWord w)
    (others : ∀ v ∈ ws, IsBareWord v) :
    Writes (" ".intercalate (w :: ws)) (.word w :: ws.map .word) := by
  induction ws generalizing w with
  | nil => exact fun more us endsWord _ splits => splits_word first endsWord splits
  | cons v vs ih =>
      have rest := ih (others v List.mem_cons_self)
        fun u member => others u (List.mem_cons_of_mem v member)
      intro more us endsWord endsSign splits
      rw [String.intercalate_cons_cons]
      have characters : (w ++ " " ++ " ".intercalate (v :: vs)).toList ++ more =
          w.toList ++ ' ' :: ((" ".intercalate (v :: vs)).toList ++ more) := by
        simp
      rw [characters]
      exact splits_word first (endsWord_cons (by decide))
        (splits_space (rest endsWord endsSign splits))

/-- A term that can be written is written as itself, with quotes or as a phrase. -/
theorem exists_writes_term {s : String} (isTerm : IsSymbol s ∨ IsPhrase s) :
    ∃ ts, Term ts s ∧ Writes (Canonical.term s) ts := by
  by_cases asIs : (Canonical.endsUnpaired s.toList && Canonical.isPhrase s.toList) = true
  · have same : Canonical.term s = s := if_pos asIs
    rw [Bool.and_eq_true, Canonical.isPhrase_iff] at asIs
    obtain ⟨w, ws, rfl, first, others⟩ := asIs.2
    refine ⟨_, .words w ws fun v member => (others v member).2, ?_⟩
    rw [same]
    exact writes_words first fun v member => (others v member).1
  · have named : Canonical.term s = Canonical.symbol s := if_neg asIs
    -- a phrase comes here only if its last backslash is no obstacle
    have isSymbol : IsSymbol s := by
      rcases isTerm with isSymbol | phrase
      · exact isSymbol
      · rw [Canonical.isPhrase_iff.mpr phrase, Bool.and_true, Bool.not_eq_true] at asIs
        exact .inl (phrase.isQuotable asIs)
    obtain ⟨t, isName, writes⟩ := exists_writes_symbol isSymbol
    rw [named]
    refine ⟨[t], ?_, writes⟩
    cases t with
    | quoted v =>
        cases isName
        exact .quoted s
    | word v =>
        cases isName
        exact .words s [] nofun
    | openParen | closeParen | slash | comparison sign => cases isName

theorem Clause.eq_of_isServerChoice {c : Clause} (alone : c.isServerChoice = true)
    (index : c.index = serverChoice) : c = .ofTerm c.term := by
  obtain ⟨index', ⟨base, ms⟩, term⟩ := c
  unfold isServerChoice at alone
  simp only [Bool.and_eq_true, beq_iff_eq, List.isEmpty_iff] at alone
  obtain ⟨⟨-, rfl⟩, rfl⟩ := alone
  cases index
  rfl

/-- A clause that can be written is written as tokens that say it. -/
theorem exists_writes_clause {c : Clause} (wf : c.WellFormed) :
    ∃ ts, Says ts c ∧ Writes c.canonical ts := by
  by_cases alone : c.isServerChoice = true
  · obtain ⟨index, isSymbol⟩ := wf.alone alone
    obtain ⟨t, isTerm, writes⟩ := exists_writes_symbol isSymbol
    refine ⟨[t], ?_, ?_⟩
    · rw [Clause.eq_of_isServerChoice alone index]
      exact .alone isTerm
    · rw [show c.canonical = Canonical.symbol c.term from if_pos alone]
      exact writes
  · obtain ⟨t, isIndex, splitsIndex⟩ := exists_splits_symbol wf.index
    obtain ⟨r, isBase, writesBase⟩ := exists_writes_base wf.base
    obtain ⟨ms, modified, writesModifiers⟩ := exists_writes_modifiers wf.modifiers
    obtain ⟨ts, isTerm, writesTerm⟩ := exists_writes_term wf.term
    refine ⟨t :: r :: (ms ++ ts), .inFull isIndex isBase modified isTerm, ?_⟩
    intro more us endsWord endsSign splits
    have characters : c.canonical.toList ++ more =
        (Canonical.symbol c.index).toList ++ ' ' :: (c.relation.base.toList ++
          ((Canonical.modifiers c.relation.modifiers).toList ++
            ' ' :: ((Canonical.term c.term).toList ++ more))) := by
      rw [show c.canonical = _ from if_neg alone]
      simp
    rw [characters]
    have suffix := Canonical.isSuffix_modifiers c.relation.modifiers
    have rest := writesModifiers (ends_space _).1 (ends_space _).2
      (splits_space (writesTerm endsWord endsSign splits))
    have relation := writesBase (suffix.endsWord (ends_space _).1)
      (suffix.endsSign (ends_space _).2) rest
    have whole := splitsIndex (ends_space _).1 (splits_space relation)
    simpa using whole

/-! ## Declarations and sort keys -/

/-- The canonical text of a namespace declaration, without the query in its scope. -/
def Canonical.declaration (name : Option String) (uri : String) : String :=
  ">" ++ (match name with | some n => Canonical.symbol n ++ "=" | none => "") ++
    "\"" ++ uri ++ "\""

theorem Query.canonical_scoped (name : Option String) (uri : String) (subtree : Query) :
    (Query.scoped name uri subtree).canonical =
      Canonical.declaration name uri ++ " (" ++ subtree.canonical ++ ")" := by
  rw [← String.toList_inj]
  cases name <;> simp [Query.canonical, Canonical.declaration]

/-- A declaration is written in front of any text, its URI between quotes. -/
theorem exists_splits_declaration {name : Option String} {uri : String}
    (named : ∀ n ∈ name, IsSymbol n) (quotable : isQuotable uri.toList = true) :
    ∃ as, Assigns as name uri ∧ ∀ ⦃more us⦄, Splits more us →
      Splits ((Canonical.declaration name uri).toList ++ more) (as ++ us) := by
  cases name with
  | none =>
      refine ⟨[.comparison .greater, .quoted uri], .bare rfl, ?_⟩
      intro more us splits
      have characters : (Canonical.declaration none uri).toList ++ more =
          Comparison.greater.symbol.toList ++ '"' :: (uri.toList ++ '"' :: more) := by
        simp [Canonical.declaration, Comparison.symbol]
      rw [characters]
      exact splits_sign .greater (endsSign_cons (by decide) (by decide))
        (splits_quoted quotable splits)
  | some n =>
      obtain ⟨t, isName, splitsName⟩ := exists_splits_symbol (named n rfl)
      refine ⟨[.comparison .greater, t, .comparison .equal, .quoted uri], .named isName rfl, ?_⟩
      intro more us splits
      have characters : (Canonical.declaration (some n) uri).toList ++ more =
          Comparison.greater.symbol.toList ++ ((Canonical.symbol n).toList ++
            (Comparison.equal.symbol.toList ++ '"' :: (uri.toList ++ '"' :: more))) := by
        simp [Canonical.declaration, Comparison.symbol]
      rw [characters]
      exact splits_sign .greater (endsSign_symbol n _) (splitsName (endsWord_sign .equal _)
        (splits_sign .equal (endsSign_cons (by decide) (by decide))
          (splits_quoted quotable splits)))

theorem exists_writes_sortKeys {keys : List SortKey} (all : ∀ k ∈ keys, k.WellFormed) :
    ∃ ts, Keys ts keys ∧ Writes (Canonical.sortKeys keys) ts := by
  induction keys with
  | nil => exact ⟨[], .none, fun more us _ _ splits => splits⟩
  | cons key keys ih =>
      obtain ⟨ts, areKeys, writes⟩ := ih fun k member => all k (List.mem_cons_of_mem key member)
      obtain ⟨isBase, allModifiers⟩ := all key List.mem_cons_self
      obtain ⟨t, isBase, splitsBase⟩ := exists_splits_symbol isBase
      obtain ⟨ms, modified, writesModifiers⟩ := exists_writes_modifiers allModifiers
      refine ⟨t :: (ms ++ ts), .key isBase modified areKeys, ?_⟩
      intro more us endsWord endsSign splits
      have characters : (Canonical.sortKeys (key :: keys)).toList ++ more =
          ' ' :: ((Canonical.symbol key.base).toList ++
            ((Canonical.modifiers key.modifiers).toList ++
              ((Canonical.sortKeys keys).toList ++ more))) := by
        simp [Canonical.sortKeys]
      rw [characters]
      have moreKeys := Canonical.isSuffix_sortKeys keys
      have suffix := Canonical.isSuffix_modifiers key.modifiers
      have rest := writesModifiers (moreKeys.endsWord endsWord) (moreKeys.endsSign endsSign)
        (writes endsWord endsSign splits)
      have whole := splits_space (splitsBase (suffix.endsWord (moreKeys.endsWord endsWord)) rest)
      simpa using whole

/-! ## Queries -/

namespace Query

/-- No sort stands anywhere in the query. -/
def isUnsorted : Query → Bool
  | .clause _ => true
  | .boolean _ _ left right => left.isUnsorted && right.isUnsorted
  | .sorted _ _ => false
  | .scoped _ _ subtree => subtree.isUnsorted

/-- The query opens with a namespace declaration. -/
def isScoped : Query → Bool
  | .scoped _ _ _ => true
  | _ => false

/-- A sort, if there is one, stands around all the rest and has keys; what is sorted does not open
with a declaration, which would take the sort into its scope. -/
def sortsOutermost : Query → Bool
  | .sorted subtree keys => !keys.isEmpty && subtree.isUnsorted && !subtree.isScoped
  | q => q.isUnsorted

/-- How deeply the canonical text of the query is nested. Each operator and each declaration writes
parentheses, and those of a right operand come after the operator. -/
def levels : Query → Nat
  | .clause _ => 0
  | .boolean _ _ left right => max (left.levels + 1) (right.levels + 2)
  | .sorted subtree _ => subtree.levels
  | .scoped _ _ subtree => subtree.levels + 2

/-- The kind of the canonical text of the query. -/
def kind : Query → Kind
  | .clause _ => .scopedClause 0
  | .boolean _ _ _ _ => .scopedClause 1
  | .sorted _ _ => .sortedQuery
  | .scoped _ _ _ => .query

theorem sortsOutermost_of_isUnsorted {q : Query} (unsorted : q.isUnsorted = true) :
    q.sortsOutermost = true := by
  cases q with
  | sorted subtree keys => cases unsorted
  | clause c => exact unsorted
  | boolean op ms left right => exact unsorted
  | «scoped» name uri subtree => exact unsorted

theorem derives_query_of_kind {q : Query} {n : Nat} {ts : List Token}
    (unsorted : q.isUnsorted = true) (derives : Derives q.kind n ts q) :
    Derives .query n ts q := by
  cases q with
  | sorted subtree keys => cases unsorted
  | clause c => exact .chain derives
  | boolean op ms left right => exact .chain derives
  | «scoped» name uri subtree => exact derives

theorem derives_sortedQuery_of_kind {q : Query} {n : Nat} {ts : List Token}
    (derives : Derives q.kind n ts q) : Derives .sortedQuery n ts q := by
  cases q with
  | sorted subtree keys => exact derives
  | clause c => exact .unsorted derives
  | boolean op ms left right => exact .unsorted derives
  | «scoped» name uri subtree => exact derives.sortedQuery

variable {ts : List Token}

/-- Both operands of an operator are written between parentheses. -/
theorem writes_boolean {op : BooleanOp} {ms : List Modifier} {left right : Query}
    {vs : List Token} (writesLeft : Writes left.canonical ts)
    (writesModifiers : Writes (Canonical.modifiers ms) vs)
    (writesRight : Writes right.canonical us) :
    Writes (boolean op ms left right).canonical (Token.openParen :: (ts ++ [Token.closeParen]) ++
      Token.word op.keyword :: (vs ++ Token.openParen :: (us ++ [Token.closeParen]))) := by
  intro more rest endsWord endsSign splits
  have characters : (boolean op ms left right).canonical.toList ++ more =
      '(' :: (left.canonical.toList ++ ')' :: ' ' :: (op.keyword.toList ++
        ((Canonical.modifiers ms).toList ++
          ' ' :: '(' :: (right.canonical.toList ++ ')' :: more)))) := by
    simp [canonical]
  have bare : IsBareWord op.keyword := by
    cases op <;> exact ⟨by decide, rfl⟩
  -- from the last parenthesis back to the first
  have onRight := splits_space (splits_open (writesRight (ends_close _).1 (ends_close _).2
    (splits_close splits)))
  have operator := splits_word bare ((Canonical.isSuffix_modifiers ms).endsWord (ends_space _).1)
    (writesModifiers (ends_space _).1 (ends_space _).2 onRight)
  have onLeft := splits_open (writesLeft (ends_close _).1 (ends_close _).2
    (splits_close (splits_space operator)))
  rw [characters]
  simpa using onLeft

theorem writes_sorted {subtree : Query} {keys : List SortKey} {ks : List Token}
    (writesSubtree : Writes subtree.canonical ts) (writesKeys : Writes (Canonical.sortKeys keys) ks) :
    Writes (sorted subtree keys).canonical (ts ++ .word "sortby" :: ks) := by
  intro more rest endsWord endsSign splits
  have characters : (sorted subtree keys).canonical.toList ++ more =
      subtree.canonical.toList ++ ' ' :: ("sortby".toList ++
        ((Canonical.sortKeys keys).toList ++ more)) := by
    simp [canonical]
  have bare : IsBareWord "sortby" := ⟨by decide, rfl⟩
  have sorting := splits_word bare ((Canonical.isSuffix_sortKeys keys).endsWord endsWord)
    (writesKeys endsWord endsSign splits)
  have whole := writesSubtree (ends_space _).1 (ends_space _).2 (splits_space sorting)
  rw [characters]
  simpa using whole

theorem exists_writes_scoped {name : Option String} {uri : String} {subtree : Query}
    (named : ∀ n ∈ name, IsSymbol n) (quotable : isQuotable uri.toList = true)
    (writesSubtree : Writes subtree.canonical ts) :
    ∃ as, Assigns as name uri ∧ Writes (Query.scoped name uri subtree).canonical
      (as ++ Token.openParen :: (ts ++ [Token.closeParen])) := by
  obtain ⟨as, assigns, splitsDeclaration⟩ := exists_splits_declaration named quotable
  refine ⟨as, assigns, ?_⟩
  intro more rest endsWord endsSign splits
  have inside := splits_open (writesSubtree (ends_close _).1 (ends_close _).2
    (splits_close splits))
  have whole := splitsDeclaration (splits_space inside)
  rw [canonical_scoped]
  simpa using whole

/-- The canonical text of a well-formed query splits into tokens, and they derive the query where
its sort is outermost. -/
theorem exists_writes_canonical {q : Query} (wf : q.WellFormed) :
    ∃ ts, Writes q.canonical ts ∧
      (q.sortsOutermost = true → Derives q.kind q.levels ts q) := by
  induction q with
  | clause c =>
      obtain ⟨ts, stated, writes⟩ := exists_writes_clause wf
      exact ⟨ts, writes, fun _ => .operand (.clause stated)⟩
  | boolean op ms left right ihl ihr =>
      obtain ⟨allModifiers, wfLeft, wfRight⟩ := wf
      obtain ⟨ts, writesLeft, derivesLeft⟩ := ihl wfLeft
      obtain ⟨us, writesRight, derivesRight⟩ := ihr wfRight
      obtain ⟨vs, modified, writesModifiers⟩ := exists_writes_modifiers allModifiers
      refine ⟨_, writes_boolean writesLeft writesModifiers writesRight, ?_⟩
      intro outermost
      obtain ⟨unsortedLeft, unsortedRight⟩ := Bool.and_eq_true_iff.mp outermost
      have onLeft := derives_query_of_kind unsortedLeft
        (derivesLeft (sortsOutermost_of_isUnsorted unsortedLeft))
      have onRight := derives_query_of_kind unsortedRight
        (derivesRight (sortsOutermost_of_isUnsorted unsortedRight))
      -- the right operand comes after the operator, and is one level deeper in its parentheses
      have whole := Derives.operator (.operand (.parens onLeft)) (foldCase_keyword op) modified
        (.parens onRight)
      rw [show 0 + 1 + (right.levels + 1) = right.levels + 2 by omega] at whole
      exact whole
  | sorted subtree keys ih =>
      obtain ⟨wfSubtree, allKeys⟩ := wf
      obtain ⟨ts, writesSubtree, derives⟩ := ih wfSubtree
      obtain ⟨ks, areKeys, writesKeys⟩ := exists_writes_sortKeys allKeys
      refine ⟨_, writes_sorted writesSubtree writesKeys, ?_⟩
      intro outermost
      rw [sortsOutermost, Bool.and_eq_true, Bool.and_eq_true] at outermost
      obtain ⟨⟨someKeys, unsorted⟩, noDeclaration⟩ := outermost
      have inside := derives (sortsOutermost_of_isUnsorted unsorted)
      cases keys with
      | nil => cases someKeys
      | cons key keys =>
          -- a chain is left to be sorted, for a declaration would take the sort into its scope
          cases subtree with
          | clause c => exact .sorted inside foldCase_sortby areKeys
          | boolean op ms left right => exact .sorted inside foldCase_sortby areKeys
          | sorted subtree keys => cases unsorted
          | «scoped» name uri subtree => cases noDeclaration
  | «scoped» name uri subtree ih =>
      obtain ⟨named, quotable, wfSubtree⟩ := wf
      obtain ⟨ts, writesSubtree, derives⟩ := ih wfSubtree
      obtain ⟨as, assigns, writes⟩ := exists_writes_scoped named quotable writesSubtree
      refine ⟨_, writes, ?_⟩
      intro outermost
      have unsorted : subtree.isUnsorted = true := outermost
      have inside := derives_query_of_kind unsorted
        (derives (sortsOutermost_of_isUnsorted unsorted))
      exact .declared assigns (.chain (.operand (.parens inside)))

end Query

end ContextQuery
