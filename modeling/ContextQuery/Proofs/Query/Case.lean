import ContextQuery.Proofs.Query.Completeness
import ContextQuery.Proofs.Select.Atoms
import ContextQuery.Proofs.Text.Case

/-!
# Query texts that differ in case

Two texts whose words differ in the case of ASCII letters alone, and whose other tokens are the same,
are both queries or both none (`Query.SameButCase.exists_parse`), because a derivation of the tokens
of one can be followed on those of the other. The two trees then differ in the case of their texts
alone (`Query.folded`). Where the terms and the modifiers are the same as well, all that is left to
differ are names (`Query.mapTexts_id_of_mapTexts_eq`).
-/

namespace ContextQuery

open Text (foldCase)

/-! ## Tokens and trees with other texts -/

/-- The token with a word written small. What is quoted stays as it is. -/
def Token.folded : Token → Token
  | .word w => .word (foldCase w)
  | t => t

/-- The modifier with other texts. -/
def Modifier.mapTexts (text : String → String) (m : Modifier) : Modifier :=
  ⟨text m.name, m.comparison, m.value.map text⟩

/-- The clause with another index, and other texts in its term and its modifiers. -/
def Clause.mapTexts (name text : String → String) (c : Clause) : Clause :=
  ⟨name c.index, ⟨c.relation.base, c.relation.modifiers.map (Modifier.mapTexts text)⟩, text c.term⟩

/-- The sort key with another index, and other texts in its modifiers. -/
def SortKey.mapTexts (name text : String → String) (k : SortKey) : SortKey :=
  ⟨name k.base, k.modifiers.map (Modifier.mapTexts text)⟩

namespace Query

/-- The query with other names (those of indexes and declarations, and URIs), and other texts in its
terms and modifiers. Relations stay as they are. -/
def mapTexts (name text : String → String) : Query → Query
  | .clause c => .clause (c.mapTexts name text)
  | .boolean op ms left right =>
    .boolean op (ms.map (Modifier.mapTexts text)) (left.mapTexts name text)
      (right.mapTexts name text)
  | .sorted subtree keys =>
    .sorted (subtree.mapTexts name text) (keys.map (SortKey.mapTexts name text))
  | .scoped prefixName uri subtree =>
    .scoped (prefixName.map name) (name uri) (subtree.mapTexts name text)

/-- The query with all its texts written small. -/
def folded : Query → Query :=
  mapTexts foldCase foldCase

/-- The terms of the clauses. -/
def terms (q : Query) : List String :=
  q.clauses.map Clause.term

/-- All modifiers: of relations, of operators and of sort keys. -/
def modifiers : Query → List Modifier
  | .clause c => c.relation.modifiers
  | .boolean _ ms left right => ms ++ (left.modifiers ++ right.modifiers)
  | .sorted subtree keys => subtree.modifiers ++ keys.flatMap SortKey.modifiers
  | .scoped _ _ subtree => subtree.modifiers

/-- The words of the two texts differ in the case of ASCII letters alone; all other tokens are the
same, and both texts can be split into tokens to their ends or neither. -/
structure SameButCase (s t : String) : Prop where
  tokens : (tokens (lex s).lexemes).map Token.folded =
    (ContextQuery.tokens (lex t).lexemes).map Token.folded
  finished : (∃ position, (lex s).ending = .finished position) ↔
    ∃ position, (lex t).ending = .finished position

end Query

/-! ## Tokens -/

section Tokens

variable {t u : Token} {ts us : List Token}

/-- A token other than a word is the same in any case. -/
theorem Token.eq_of_folded_eq (same : u.folded = t.folded) (noWord : ∀ w, t ≠ .word w) : u = t := by
  cases t with
  | word w => exact absurd rfl (noWord w)
  | openParen | closeParen | slash | comparison sign | quoted s =>
      cases u <;> first | exact same | cases same

theorem Token.exists_word_of_folded_eq {w : String} (same : u.folded = (Token.word w).folded) :
    ∃ v, u = .word v ∧ foldCase v = foldCase w := by
  cases u with
  | word v => exact ⟨v, rfl, Token.word.inj same⟩
  | openParen | closeParen | slash | comparison sign | quoted s => cases same

theorem Token.exists_symbol?_of_folded_eq {s : String} (same : u.folded = t.folded)
    (isSymbol : t.symbol? = some s) : ∃ s', u.symbol? = some s' ∧ foldCase s' = foldCase s := by
  cases t with
  | word w =>
      cases isSymbol
      obtain ⟨v, rfl, sameWord⟩ := exists_word_of_folded_eq same
      exact ⟨v, rfl, sameWord⟩
  | quoted s =>
      cases isSymbol
      rw [eq_of_folded_eq same nofun]
      exact ⟨s, rfl, rfl⟩
  | openParen | closeParen | slash | comparison sign => cases isSymbol

theorem map_folded_eq_cons (same : us.map Token.folded = (t :: ts).map Token.folded) :
    ∃ u vs, us = u :: vs ∧ u.folded = t.folded ∧ vs.map Token.folded = ts.map Token.folded :=
  List.map_eq_cons_iff.mp same

theorem map_folded_eq_append {ts' : List Token}
    (same : us.map Token.folded = (ts ++ ts').map Token.folded) :
    ∃ front back, us = front ++ back ∧ front.map Token.folded = ts.map Token.folded ∧
      back.map Token.folded = ts'.map Token.folded := by
  rw [List.map_append] at same
  exact List.map_eq_append_iff.mp same

/-- Words are reserved in any case. -/
theorem isReserved_of_foldCase_eq {v w : String} (same : foldCase v = foldCase w) :
    isReserved v = isReserved w := by
  unfold isReserved
  rw [same]

/-- Words that differ in case stand in the place of words. -/
theorem exists_words_of_folded_eq {ws : List String}
    (same : us.map Token.folded = (ws.map Token.word).map Token.folded) :
    ∃ vs : List String, us = vs.map Token.word ∧ vs.map foldCase = ws.map foldCase := by
  induction ws generalizing us with
  | nil => exact ⟨[], List.map_eq_nil_iff.mp same, rfl⟩
  | cons w ws ih =>
      obtain ⟨u, vs, rfl, first, rest⟩ := map_folded_eq_cons same
      obtain ⟨v, rfl, sameWord⟩ := Token.exists_word_of_folded_eq first
      obtain ⟨vs, rfl, sameWords⟩ := ih rest
      exact ⟨v :: vs, rfl, by rw [List.map_cons, List.map_cons, sameWord, sameWords]⟩

end Tokens

/-! ## Derivations -/

namespace Grammar

variable {t u : Token} {ts us : List Token}

theorem Modifiers.exists_of_folded_eq {ms : List Modifier} (modified : Modifiers ts ms)
    (same : us.map Token.folded = ts.map Token.folded) :
    ∃ ms', Modifiers us ms' ∧
      ms'.map (Modifier.mapTexts foldCase) = ms.map (Modifier.mapTexts foldCase) := by
  induction modified generalizing us with
  | none =>
      rw [List.map_eq_nil_iff.mp same]
      exact ⟨[], .none, rfl⟩
  | named isName more ih =>
      obtain ⟨s, us, rfl, isSlash, afterSlash⟩ := map_folded_eq_cons same
      obtain ⟨u, us, rfl, sameName, afterName⟩ := map_folded_eq_cons afterSlash
      cases Token.eq_of_folded_eq isSlash nofun
      obtain ⟨name', isName', name⟩ := Token.exists_symbol?_of_folded_eq sameName isName
      obtain ⟨ms', modified', modifiers⟩ := ih afterName
      exact ⟨_, .named isName' modified', by simp [Modifier.mapTexts, name, modifiers]⟩
  | valued isName isValue more ih =>
      obtain ⟨s, us, rfl, isSlash, afterSlash⟩ := map_folded_eq_cons same
      obtain ⟨u, us, rfl, sameName, afterName⟩ := map_folded_eq_cons afterSlash
      obtain ⟨r, us, rfl, isSign, afterSign⟩ := map_folded_eq_cons afterName
      obtain ⟨v, us, rfl, sameValue, afterValue⟩ := map_folded_eq_cons afterSign
      cases Token.eq_of_folded_eq isSlash nofun
      cases Token.eq_of_folded_eq isSign nofun
      obtain ⟨name', isName', name⟩ := Token.exists_symbol?_of_folded_eq sameName isName
      obtain ⟨value', isValue', value⟩ := Token.exists_symbol?_of_folded_eq sameValue isValue
      obtain ⟨ms', modified', modifiers⟩ := ih afterValue
      exact ⟨_, .valued isName' isValue' modified',
        by simp [Modifier.mapTexts, name, value, modifiers]⟩

/-- A relation is the same in any case. -/
theorem Base.of_folded_eq {base : String} (isBase : Base t base) (same : u.folded = t.folded) :
    Base u base := by
  cases isBase with
  | sign sign =>
      rw [Token.eq_of_folded_eq same nofun]
      exact .sign sign
  | named w free =>
      obtain ⟨v, rfl, sameWord⟩ := Token.exists_word_of_folded_eq same
      rw [← sameWord]
      exact .named v (by rw [isReserved_of_foldCase_eq sameWord, free])

theorem Term.exists_of_folded_eq {s : String} (isTerm : Term ts s)
    (same : us.map Token.folded = ts.map Token.folded) :
    ∃ s', Term us s' ∧ foldCase s' = foldCase s := by
  cases isTerm with
  | quoted s =>
      obtain ⟨u, us, rfl, sameToken, none⟩ := map_folded_eq_cons same
      rw [Token.eq_of_folded_eq sameToken nofun, List.map_eq_nil_iff.mp none]
      exact ⟨s, .quoted s, rfl⟩
  | words w ws free =>
      obtain ⟨u, us, rfl, sameToken, afterFirst⟩ := map_folded_eq_cons same
      obtain ⟨v, rfl, sameWord⟩ := Token.exists_word_of_folded_eq sameToken
      obtain ⟨vs, rfl, sameWords⟩ := exists_words_of_folded_eq afterFirst
      refine ⟨_, .words v vs ?_, ?_⟩
      · intro x member
        have folded : foldCase x ∈ ws.map foldCase := sameWords ▸ List.mem_map_of_mem member
        obtain ⟨y, among, sameFolded⟩ := List.mem_map.mp folded
        rw [← isReserved_of_foldCase_eq sameFolded, free y among]
      · rw [Text.foldCase_intercalate, Text.foldCase_intercalate, List.map_cons, List.map_cons,
          sameWord, sameWords]

/-- Tokens that differ in case from those of a clause say a clause that differs in case alone. -/
theorem Says.exists_of_folded_eq {c : Clause} (stated : Says ts c)
    (same : us.map Token.folded = ts.map Token.folded) :
    ∃ c', Says us c' ∧ c'.mapTexts foldCase foldCase = c.mapTexts foldCase foldCase := by
  cases stated with
  | alone isTerm =>
      obtain ⟨u, us, rfl, sameToken, none⟩ := map_folded_eq_cons same
      obtain ⟨term', isTerm', term⟩ := Token.exists_symbol?_of_folded_eq sameToken isTerm
      rw [List.map_eq_nil_iff.mp none]
      exact ⟨_, .alone isTerm', by simp [Clause.mapTexts, term]⟩
  | inFull isIndex isBase modified isTerm =>
      obtain ⟨u, us, rfl, sameIndex, afterIndex⟩ := map_folded_eq_cons same
      obtain ⟨r, us, rfl, sameBase, afterBase⟩ := map_folded_eq_cons afterIndex
      obtain ⟨front, back, rfl, sameModifiers, sameTerm⟩ := map_folded_eq_append afterBase
      obtain ⟨index', isIndex', index⟩ := Token.exists_symbol?_of_folded_eq sameIndex isIndex
      obtain ⟨ms', modified', modifiers⟩ := modified.exists_of_folded_eq sameModifiers
      obtain ⟨term', isTerm', term⟩ := isTerm.exists_of_folded_eq sameTerm
      exact ⟨_, .inFull isIndex' (isBase.of_folded_eq sameBase) modified' isTerm',
        by simp [Clause.mapTexts, index, modifiers, term]⟩

theorem Assigns.exists_of_folded_eq {name : Option String} {uri : String}
    (assigns : Assigns ts name uri) (same : us.map Token.folded = ts.map Token.folded) :
    ∃ name' uri', Assigns us name' uri' ∧ name'.map foldCase = name.map foldCase ∧
      foldCase uri' = foldCase uri := by
  cases assigns with
  | named isName isUri =>
      obtain ⟨s, us, rfl, isGreater, afterGreater⟩ := map_folded_eq_cons same
      obtain ⟨u, us, rfl, sameName, afterName⟩ := map_folded_eq_cons afterGreater
      obtain ⟨r, us, rfl, isEqual, afterEqual⟩ := map_folded_eq_cons afterName
      obtain ⟨v, us, rfl, sameUri, none⟩ := map_folded_eq_cons afterEqual
      cases Token.eq_of_folded_eq isGreater nofun
      cases Token.eq_of_folded_eq isEqual nofun
      obtain ⟨name', isName', name⟩ := Token.exists_symbol?_of_folded_eq sameName isName
      obtain ⟨uri', isUri', uri⟩ := Token.exists_symbol?_of_folded_eq sameUri isUri
      rw [List.map_eq_nil_iff.mp none]
      exact ⟨_, _, .named isName' isUri', congrArg some name, uri⟩
  | bare isUri =>
      obtain ⟨s, us, rfl, isGreater, afterGreater⟩ := map_folded_eq_cons same
      obtain ⟨v, us, rfl, sameUri, none⟩ := map_folded_eq_cons afterGreater
      cases Token.eq_of_folded_eq isGreater nofun
      obtain ⟨uri', isUri', uri⟩ := Token.exists_symbol?_of_folded_eq sameUri isUri
      rw [List.map_eq_nil_iff.mp none]
      exact ⟨_, _, .bare isUri', rfl, uri⟩

theorem Keys.exists_of_folded_eq {keys : List SortKey} (areKeys : Keys ts keys)
    (same : us.map Token.folded = ts.map Token.folded) :
    ∃ keys', Keys us keys' ∧ keys'.map (SortKey.mapTexts foldCase foldCase) =
      keys.map (SortKey.mapTexts foldCase foldCase) := by
  induction areKeys generalizing us with
  | none =>
      rw [List.map_eq_nil_iff.mp same]
      exact ⟨[], .none, rfl⟩
  | key isBase modified more ih =>
      obtain ⟨u, us, rfl, sameBase, afterBase⟩ := map_folded_eq_cons same
      obtain ⟨front, back, rfl, sameModifiers, sameKeys⟩ := map_folded_eq_append afterBase
      obtain ⟨base', isBase', base⟩ := Token.exists_symbol?_of_folded_eq sameBase isBase
      obtain ⟨ms', modified', modifiers⟩ := modified.exists_of_folded_eq sameModifiers
      obtain ⟨keys', areKeys', keys⟩ := ih sameKeys
      exact ⟨_, .key isBase' modified' areKeys', by simp [SortKey.mapTexts, base, modifiers, keys]⟩

/-- A derivation can be followed on tokens that differ in case: the same rules apply, with the same
nesting, and the tree differs in case alone. -/
theorem Derives.exists_of_folded_eq {kind : Kind} {n : Nat} {q : Query}
    (derives : Derives kind n ts q) (same : us.map Token.folded = ts.map Token.folded) :
    ∃ q', Derives kind n us q' ∧ q'.folded = q.folded := by
  -- each rule cuts the tokens in parts, and the others are cut in the same places
  induction derives generalizing us with
  | clause stated =>
      obtain ⟨c', stated', clause⟩ := stated.exists_of_folded_eq same
      exact ⟨_, .clause stated', congrArg Query.clause clause⟩
  | parens inside ih =>
      obtain ⟨u, us, rfl, isOpen, afterOpen⟩ := map_folded_eq_cons same
      obtain ⟨inner, last, rfl, sameInner, sameLast⟩ := map_folded_eq_append afterOpen
      obtain ⟨v, vs, rfl, isClose, none⟩ := map_folded_eq_cons sameLast
      cases Token.eq_of_folded_eq isOpen nofun
      cases Token.eq_of_folded_eq isClose nofun
      cases List.map_eq_nil_iff.mp none
      obtain ⟨q', derives', query⟩ := ih sameInner
      exact ⟨q', .parens derives', query⟩
  | operand first ih =>
      obtain ⟨q', derives', query⟩ := ih same
      exact ⟨q', .operand derives', query⟩
  | operator before isOperator modified last ihBefore ihLast =>
      obtain ⟨front, us, rfl, sameFront, afterFront⟩ := map_folded_eq_append same
      obtain ⟨u, us, rfl, sameWord, afterWord⟩ := map_folded_eq_cons afterFront
      obtain ⟨middle, back, rfl, sameMiddle, sameBack⟩ := map_folded_eq_append afterWord
      obtain ⟨v, rfl, word⟩ := Token.exists_word_of_folded_eq sameWord
      obtain ⟨left', derivesLeft, left⟩ := ihBefore sameFront
      obtain ⟨ms', modified', modifiers⟩ := modified.exists_of_folded_eq sameMiddle
      obtain ⟨right', derivesRight, right⟩ := ihLast sameBack
      refine ⟨_, .operator derivesLeft (word.trans isOperator) modified' derivesRight, ?_⟩
      unfold Query.folded at left right ⊢
      rw [Query.mapTexts, Query.mapTexts, left, modifiers, right]
  | chain whole ih =>
      obtain ⟨q', derives', query⟩ := ih same
      exact ⟨q', .chain derives', query⟩
  | unsorted whole ih =>
      obtain ⟨q', derives', query⟩ := ih same
      exact ⟨q', .unsorted derives', query⟩
  | sorted whole isSort sorting ih =>
      obtain ⟨front, us, rfl, sameFront, afterFront⟩ := map_folded_eq_append same
      obtain ⟨u, us, rfl, sameWord, sameKeys⟩ := map_folded_eq_cons afterFront
      obtain ⟨v, rfl, word⟩ := Token.exists_word_of_folded_eq sameWord
      obtain ⟨q', derives', query⟩ := ih sameFront
      obtain ⟨keys', sorting', keys⟩ := sorting.exists_of_folded_eq sameKeys
      cases keys' with
      | nil => cases keys
      | cons key' keys' =>
          refine ⟨_, .sorted derives' (word.trans isSort) sorting', ?_⟩
          unfold Query.folded at query ⊢
          rw [Query.mapTexts, Query.mapTexts, query, keys]
  | declared assigns inside ih =>
      obtain ⟨front, back, rfl, sameFront, sameBack⟩ := map_folded_eq_append same
      obtain ⟨name', uri', assigns', name, uri⟩ := assigns.exists_of_folded_eq sameFront
      obtain ⟨q', derives', query⟩ := ih sameBack
      refine ⟨_, .declared assigns' derives', ?_⟩
      unfold Query.folded at query ⊢
      rw [Query.mapTexts, Query.mapTexts, name, uri, query]
  | declaredSorted assigns inside ih =>
      obtain ⟨front, back, rfl, sameFront, sameBack⟩ := map_folded_eq_append same
      obtain ⟨name', uri', assigns', name, uri⟩ := assigns.exists_of_folded_eq sameFront
      obtain ⟨q', derives', query⟩ := ih sameBack
      refine ⟨_, .declaredSorted assigns' derives', ?_⟩
      unfold Query.folded at query ⊢
      rw [Query.mapTexts, Query.mapTexts, name, uri, query]

end Grammar

/-! ## Names that are left to differ -/

section Texts

variable {f g : String → String}

/-- Sort keys with the same modifiers differ in their indexes alone. -/
theorem SortKey.map_mapTexts_id {ks ks' : List SortKey}
    (same : ks.map (mapTexts f g) = ks'.map (mapTexts f g))
    (modifiers : ks.flatMap SortKey.modifiers = ks'.flatMap SortKey.modifiers) :
    ks.map (mapTexts f id) = ks'.map (mapTexts f id) := by
  induction ks generalizing ks' with
  | nil =>
      rw [List.map_eq_nil_iff.mp same.symm]
  | cons k ks ih =>
      obtain ⟨k', ks', rfl, sameKey, sameKeys⟩ := List.map_eq_cons_iff.mp same.symm
      simp only [mapTexts, SortKey.mk.injEq] at sameKey
      obtain ⟨base, others⟩ := sameKey
      rw [List.flatMap_cons, List.flatMap_cons] at modifiers
      have length := congrArg List.length others
      rw [List.length_map, List.length_map] at length
      obtain ⟨first, rest⟩ := List.append_inj modifiers length.symm
      rw [List.map_cons, List.map_cons, ih sameKeys.symm rest, mapTexts, mapTexts, base, first]

namespace Query

theorem length_terms_mapTexts (q : Query) : (q.mapTexts f g).terms.length = q.terms.length := by
  unfold terms
  rw [List.length_map, List.length_map]
  induction q with
  | clause c => rfl
  | boolean op ms left right ihl ihr =>
      rw [mapTexts, clauses, clauses, List.length_append, List.length_append, ihl, ihr]
  | sorted subtree keys ih => exact ih
  | «scoped» name uri subtree ih => exact ih

theorem length_modifiers_mapTexts (q : Query) :
    (q.mapTexts f g).modifiers.length = q.modifiers.length := by
  induction q with
  | clause c => simp [mapTexts, modifiers, Clause.mapTexts]
  | boolean op ms left right ihl ihr => simp [mapTexts, modifiers, ihl, ihr]
  | sorted subtree keys ih =>
      have each : (fun k => k.modifiers.length) ∘ SortKey.mapTexts f g =
          fun k => k.modifiers.length := by
        funext k
        simp [SortKey.mapTexts]
      simp [mapTexts, modifiers, ih, List.length_flatMap, each]
  | «scoped» name uri subtree ih => exact ih

/-- Queries that would be the same with other texts have as many terms. -/
theorem length_terms_eq {q q' : Query} (same : q.mapTexts f g = q'.mapTexts f g) :
    q.terms.length = q'.terms.length := by
  rw [← length_terms_mapTexts (f := f) (g := g), same, length_terms_mapTexts]

/-- They have as many modifiers. -/
theorem length_modifiers_eq {q q' : Query} (same : q.mapTexts f g = q'.mapTexts f g) :
    q.modifiers.length = q'.modifiers.length := by
  rw [← length_modifiers_mapTexts (f := f) (g := g), same, length_modifiers_mapTexts]

theorem terms_boolean (op : BooleanOp) (ms : List Modifier) (left right : Query) :
    (boolean op ms left right).terms = left.terms ++ right.terms := by
  unfold terms
  rw [clauses, List.map_append]

/-- Two queries that would be the same with other texts, and have the same terms and the same
modifiers, differ in names alone. -/
theorem mapTexts_id_of_mapTexts_eq {q q' : Query} (same : q.mapTexts f g = q'.mapTexts f g)
    (terms : q.terms = q'.terms) (modifiers : q.modifiers = q'.modifiers) :
    q.mapTexts f id = q'.mapTexts f id := by
  induction q generalizing q' with
  | clause c =>
      cases q' with
      | clause c' =>
          simp only [mapTexts, Clause.mapTexts, clause.injEq, Clause.mk.injEq, Relation.mk.injEq]
            at same
          obtain ⟨index, ⟨base, -⟩, -⟩ := same
          have term : c.term = c'.term := List.singleton_inj.mp terms
          have others : c.relation.modifiers = c'.relation.modifiers := modifiers
          rw [mapTexts, mapTexts, Clause.mapTexts, Clause.mapTexts, index, base, others, term]
      | boolean | sorted | «scoped» => cases same
  | boolean op ms left right ihl ihr =>
      cases q' with
      | boolean op' ms' left' right' =>
          simp only [mapTexts, boolean.injEq] at same
          obtain ⟨rfl, sameModifiers, sameLeft, sameRight⟩ := same
          -- each part has as many terms and modifiers as its counterpart, so they pair up
          have length := congrArg List.length sameModifiers
          rw [List.length_map, List.length_map] at length
          rw [terms_boolean, terms_boolean] at terms
          obtain ⟨termsLeft, termsRight⟩ := List.append_inj terms (length_terms_eq sameLeft)
          obtain ⟨own, operands⟩ := List.append_inj modifiers length
          obtain ⟨modifiersLeft, modifiersRight⟩ :=
            List.append_inj operands (length_modifiers_eq sameLeft)
          rw [mapTexts, mapTexts, own, ihl sameLeft termsLeft modifiersLeft,
            ihr sameRight termsRight modifiersRight]
      | clause | sorted | «scoped» => cases same
  | sorted subtree keys ih =>
      cases q' with
      | sorted subtree' keys' =>
          simp only [mapTexts, sorted.injEq] at same
          obtain ⟨sameSubtree, sameKeys⟩ := same
          obtain ⟨modifiersBelow, modifiersKeys⟩ :=
            List.append_inj modifiers (length_modifiers_eq sameSubtree)
          rw [mapTexts, mapTexts, ih sameSubtree terms modifiersBelow,
            SortKey.map_mapTexts_id sameKeys modifiersKeys]
      | clause | boolean | «scoped» => cases same
  | «scoped» name uri subtree ih =>
      cases q' with
      | «scoped» name' uri' subtree' =>
          simp only [mapTexts, scoped.injEq] at same
          obtain ⟨sameName, sameUri, sameSubtree⟩ := same
          rw [mapTexts, mapTexts, sameName, sameUri, ih sameSubtree terms modifiers]
      | clause | boolean | sorted => cases same

end Query

end Texts

/-! ## Texts -/

namespace Query

theorem SameButCase.symm {s t : String} (same : SameButCase s t) : SameButCase t s :=
  ⟨same.tokens.symm, same.finished.symm⟩

/-- A text that differs in case from a query is one too, and the trees differ in case alone. -/
theorem SameButCase.exists_parse {s t : String} {q : Query} (same : SameButCase s t)
    (parsed : parse s = .ok q) : ∃ q', parse t = .ok q' ∧ q'.folded = q.folded := by
  obtain ⟨finished, n, fits, derives⟩ := parse_eq_ok_iff_derives.mp parsed
  obtain ⟨q', derives', query⟩ := derives.exists_of_folded_eq same.tokens.symm
  exact ⟨q', parse_eq_ok_iff_derives.mpr ⟨same.finished.mp finished, n, fits, derives'⟩, query⟩

end Query

end ContextQuery
