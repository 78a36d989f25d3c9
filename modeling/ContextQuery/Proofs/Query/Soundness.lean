import ContextQuery.Proofs.Query.Readers

/-!
# What is read is derived

The readers of queries follow the grammar: what they read has a derivation, and the nesting of the
derivation fits into the room they were given. The three readers call each other with less room, so
the proof is by induction on the room, with one step for each reader.
-/

namespace ContextQuery

/-! ## Operators -/

/-- A word is an operator exactly where it spells its keyword in some case. -/
theorem BooleanOp.ofWord?_eq_some {w : String} {op : BooleanOp} :
    BooleanOp.ofWord? w = some op ↔ Text.foldCase w = op.keyword := by
  unfold BooleanOp.ofWord?
  generalize Text.foldCase w = v
  constructor
  · intro found
    dsimp only at found
    split at found
    · next same => cases found; exact beq_iff_eq.mp same
    · split at found
      · next same => cases found; exact beq_iff_eq.mp same
      · split at found
        · next same => cases found; exact beq_iff_eq.mp same
        · split at found
          · next same => cases found; exact beq_iff_eq.mp same
          · cases found
  · rintro rfl
    cases op <;> rfl

/-- Keywords are reserved. -/
theorem BooleanOp.isReserved_of_keyword {w : String} {op : BooleanOp}
    (isOperator : Text.foldCase w = op.keyword) : isReserved w = true := by
  unfold isReserved
  rw [isOperator]
  cases op <;> rfl

namespace Parser

open Grammar

variable {ending : Ending} {ls rest : List Lexeme} {room start : Nat}

theorem operator?_of_keyword {w : String} {op : BooleanOp}
    (isOperator : Text.foldCase w = op.keyword) :
    operator? (⟨.word w, start⟩ :: ls) = some (op, start, ls) := by
  show (BooleanOp.ofWord? w).map _ = _
  rw [BooleanOp.ofWord?_eq_some.mpr isOperator]
  rfl

/-- An operator is found exactly where the first lexeme is its keyword. -/
theorem operator?_eq_some {op : BooleanOp} :
    operator? ls = some (op, start, rest) ↔
      ∃ w, ls = ⟨.word w, start⟩ :: rest ∧ Text.foldCase w = op.keyword := by
  constructor
  · intro found
    unfold operator? at found
    split at found
    · next w place after =>
      obtain ⟨op, isOperator, same⟩ := Option.map_eq_some_iff.mp found
      cases same
      exact ⟨w, rfl, BooleanOp.ofWord?_eq_some.mp isOperator⟩
    · cases found
  · rintro ⟨w, rfl, isOperator⟩
    exact operator?_of_keyword isOperator

/-! ## The readers, branch by branch -/

theorem query_zero :
    query ending 0 (⟨.comparison .greater, start⟩ :: ls) = .error ⟨.tooDeep, start⟩ := by
  rw [query]

theorem query_succ :
    query ending (room + 1) (⟨.comparison .greater, start⟩ :: ls) =
      (assignment ending ls >>= fun ((name, uri), rest) =>
        query ending room rest >>= fun (subtree, rest) =>
          .ok (.scoped name uri subtree, rest)) := by
  rw [query]
  rfl

theorem query_operands (ends : ∀ l ∈ ls.head?, l.token ≠ .comparison .greater) :
    query ending room ls =
      (searchClause ending room ls >>= fun (first, rest) => chain ending room first rest) := by
  rw [query]
  rintro start rest rfl
  exact ends _ rfl rfl

theorem searchClause_zero :
    searchClause ending 0 (⟨.openParen, start⟩ :: ls) = .error ⟨.tooDeep, start⟩ := by
  rw [searchClause]

theorem searchClause_succ :
    searchClause ending (room + 1) (⟨.openParen, start⟩ :: ls) =
      (query ending room ls >>= fun (inner, rest) =>
        match rest with
        | ⟨.closeParen, _⟩ :: rest => .ok (inner, rest)
        | rest => .error (unexpected ending .closeParen rest)) := by
  rw [searchClause]
  rfl

theorem searchClause_clause (ends : ∀ l ∈ ls.head?, l.token ≠ .openParen) :
    searchClause ending room ls =
      (clause ending ls >>= fun (c, rest) => .ok (.clause c, rest)) := by
  rw [searchClause]
  · rfl
  · rintro start rest rfl
    exact ends _ rfl rfl

variable {left : Query} {op : BooleanOp}

theorem chain_none (ends : operator? ls = none) : chain ending room left ls = .ok (left, ls) := by
  rw [chain, ends]

theorem chain_zero (found : operator? ls = some (op, start, rest)) :
    chain ending 0 left ls = .error ⟨.tooDeep, start⟩ := by
  rw [chain, found]

theorem chain_succ (found : operator? ls = some (op, start, rest)) :
    chain ending (room + 1) left ls =
      (modifiers ending rest >>= fun (ms, rest) =>
        searchClause ending room rest >>= fun (right, rest) =>
          chain ending room (.boolean op ms left right) rest) := by
  rw [chain, found]

theorem sortedQuery_zero :
    sortedQuery ending 0 (⟨.comparison .greater, start⟩ :: ls) = .error ⟨.tooDeep, start⟩ := by
  rw [sortedQuery]

theorem sortedQuery_succ :
    sortedQuery ending (room + 1) (⟨.comparison .greater, start⟩ :: ls) =
      (assignment ending ls >>= fun ((name, uri), rest) =>
        sortedQuery ending room rest >>= fun (subtree, rest) =>
          .ok (.scoped name uri subtree, rest)) := by
  rw [sortedQuery]
  rfl

theorem sortedQuery_query (ends : ∀ l ∈ ls.head?, l.token ≠ .comparison .greater) :
    sortedQuery ending room ls =
      (query ending room ls >>= fun (q, rest) => sorting ending q rest) := by
  rw [sortedQuery]
  rintro start rest rfl
  exact ends _ rfl rfl

/-! ## One step of each reader -/

/-- What `query` reads with some room is derived with a nesting that fits into the room. -/
def QuerySound (ending : Ending) (room : Nat) : Prop :=
  ∀ ⦃ls rest q⦄, query ending room ls = .ok (q, rest) →
    ∃ used n, ls = used ++ rest ∧ n ≤ room ∧ Derives .query n (tokens used) q

/-- What `searchClause` reads with some room is derived with a nesting that fits into the room. -/
def SearchClauseSound (ending : Ending) (room : Nat) : Prop :=
  ∀ ⦃ls rest q⦄, searchClause ending room ls = .ok (q, rest) →
    ∃ used n, ls = used ++ rest ∧ n ≤ room ∧ Derives .searchClause n (tokens used) q

/-- What `chain` reads with some room continues a chain that has been derived already, whose
operators took room before. -/
def ChainSound (ending : Ending) (room : Nat) : Prop :=
  ∀ ⦃ls rest left q⦄, chain ending room left ls = .ok (q, rest) →
    ∀ ⦃k n ts⦄, Derives (.scopedClause k) n ts left → n ≤ k + room →
      ∃ used k' n', ls = used ++ rest ∧ n' ≤ k + room ∧
        Derives (.scopedClause k') n' (ts ++ tokens used) q

/-- The first token is `t`, or it is not. -/
theorem first_token (t : Token) (ls : List Lexeme) :
    (∃ start rest, ls = ⟨t, start⟩ :: rest) ∨ ∀ l ∈ ls.head?, l.token ≠ t := by
  cases ls with
  | nil => exact .inr (by simp)
  | cons l ls =>
      by_cases same : l.token = t
      · exact .inl ⟨l.start, ls, by rw [← same]⟩
      · exact .inr (by simpa using same)

/-- One step of a search clause, from queries in less room. -/
theorem searchClauseSound_of (inside : ∀ r, room = r + 1 → QuerySound ending r) :
    SearchClauseSound ending room := by
  intro ls rest q read
  rcases first_token .openParen ls with ⟨start, after, rfl⟩ | ends
  · cases room with
    | zero =>
        rw [searchClause_zero] at read
        cases read
    | succ room =>
        -- the parentheses take one level of the room
        rw [searchClause_succ] at read
        obtain ⟨⟨inner, between⟩, first, closed⟩ := bind_eq_ok.mp read
        obtain ⟨used, n, rfl, fits, derives⟩ := inside room rfl first
        dsimp only at closed
        split at closed
        · next place after =>
          cases closed
          refine ⟨⟨.openParen, start⟩ :: (used ++ [⟨.closeParen, place⟩]), n + 1, by simp,
            Nat.succ_le_succ fits, ?_⟩
          rw [tokens_cons, tokens_append]
          exact .parens derives
        · cases closed
  · rw [searchClause_clause ends] at read
    obtain ⟨⟨c, after⟩, first, last⟩ := bind_eq_ok.mp read
    obtain ⟨used, rfl, stated⟩ := clause_sound first
    cases last
    exact ⟨used, 0, rfl, Nat.zero_le room, .clause stated⟩

/-- One step of a chain, from operands and chains in less room. -/
theorem chainSound_of
    (inside : ∀ r, room = r + 1 → SearchClauseSound ending r ∧ ChainSound ending r) :
    ChainSound ending room := by
  intro ls rest left q read k n ts derived fits
  cases found : operator? ls with
  | none =>
      rw [chain_none found] at read
      cases read
      exact ⟨[], k, n, rfl, fits, by simpa using derived⟩
  | some next =>
      obtain ⟨op, start, after⟩ := next
      cases room with
      | zero =>
          rw [chain_zero found] at read
          cases read
      | succ room =>
          obtain ⟨w, rfl, isOperator⟩ := operator?_eq_some.mp found
          rw [chain_succ found] at read
          obtain ⟨⟨ms, afterModifiers⟩, modified, read⟩ := bind_eq_ok.mp read
          obtain ⟨⟨right, afterRight⟩, operand, more⟩ := bind_eq_ok.mp read
          obtain ⟨searchClauseSound, chainSound⟩ := inside room rfl
          obtain ⟨front, rfl, areModifiers⟩ := modifiers_sound modified
          obtain ⟨back, m, rfl, fitsRight, derivedRight⟩ := searchClauseSound operand
          -- the chain so far has one operator more, and the room one level less
          have longer := Derives.operator derived isOperator areModifiers derivedRight
          obtain ⟨used, k', n', rfl, fitsAll, derivedAll⟩ := chainSound more longer (by omega)
          refine ⟨⟨.word w, start⟩ :: (front ++ back ++ used), k', n', by simp, by omega, ?_⟩
          simpa using derivedAll

/-- Where no declaration comes first, a chain is read. -/
theorem operands_sound (searchClauseSound : SearchClauseSound ending room)
    (chainSound : ChainSound ending room) {q : Query}
    (ends : ∀ l ∈ ls.head?, l.token ≠ .comparison .greater)
    (read : query ending room ls = .ok (q, rest)) :
    ∃ used k n, ls = used ++ rest ∧ n ≤ room ∧ Derives (.scopedClause k) n (tokens used) q := by
  rw [query_operands ends] at read
  obtain ⟨⟨first, between⟩, operand, more⟩ := bind_eq_ok.mp read
  obtain ⟨front, n, rfl, fits, derived⟩ := searchClauseSound operand
  obtain ⟨back, k, n', rfl, fitsAll, derivedAll⟩ := chainSound more (.operand derived) (by omega)
  refine ⟨front ++ back, k, n', by simp, by omega, ?_⟩
  rw [tokens_append]
  exact derivedAll

/-- One step of a query, from its operands in the same room and queries in less. -/
theorem querySound_of (searchClauseSound : SearchClauseSound ending room)
    (chainSound : ChainSound ending room) (inside : ∀ r, room = r + 1 → QuerySound ending r) :
    QuerySound ending room := by
  intro ls rest q read
  rcases first_token (.comparison .greater) ls with ⟨start, after, rfl⟩ | ends
  · cases room with
    | zero =>
        rw [query_zero] at read
        cases read
    | succ room =>
        rw [query_succ] at read
        obtain ⟨⟨⟨name, uri⟩, between⟩, declared, read⟩ := bind_eq_ok.mp read
        obtain ⟨⟨subtree, end'⟩, below, last⟩ := bind_eq_ok.mp read
        obtain ⟨front, rfl, assigns⟩ := assignment_sound declared
        obtain ⟨back, n, rfl, fits, derives⟩ := inside room rfl below
        cases last
        refine ⟨⟨.comparison .greater, start⟩ :: (front ++ back), n + 1, by simp,
          Nat.succ_le_succ fits, ?_⟩
        rw [tokens_cons, tokens_append]
        exact .declared assigns derives
  · obtain ⟨used, k, n, rfl, fits, derives⟩ :=
      operands_sound searchClauseSound chainSound ends read
    exact ⟨used, n, rfl, fits, .chain derives⟩

/-! ## Any room -/

/-- What the three readers that call each other read is derived, in any room. -/
theorem sound (ending : Ending) (room : Nat) :
    SearchClauseSound ending room ∧ ChainSound ending room ∧ QuerySound ending room := by
  induction room with
  | zero =>
      have search : SearchClauseSound ending 0 := searchClauseSound_of nofun
      have chain : ChainSound ending 0 := chainSound_of nofun
      exact ⟨search, chain, querySound_of search chain nofun⟩
  | succ room ih =>
      obtain ⟨below, chainBelow, queryBelow⟩ := ih
      have search : SearchClauseSound ending (room + 1) := by
        apply searchClauseSound_of
        intro r same
        cases same
        exact queryBelow
      have chain : ChainSound ending (room + 1) := by
        apply chainSound_of
        intro r same
        cases same
        exact ⟨below, chainBelow⟩
      refine ⟨search, chain, querySound_of search chain ?_⟩
      intro r same
      cases same
      exact queryBelow

theorem isKeyword_sortby {t : Token} :
    t.isKeyword "sortby" = true ↔ ∃ w, t = .word w ∧ Text.foldCase w = "sortby" := by
  cases t with
  | word w => simp [Token.isKeyword, Text.sameFolded, Grammar.foldCase_sortby]
  | openParen | closeParen | slash | comparison sign | quoted s => simp [Token.isKeyword]

/-- A sort that ends the lexemes. -/
theorem sorting_sound {q sorted : Query} (read : sorting ending q ls = .ok (sorted, [])) :
    ls = [] ∧ sorted = q ∨
      ∃ w start after key keys, ls = ⟨.word w, start⟩ :: after ∧ Text.foldCase w = "sortby" ∧
        Keys (tokens after) (key :: keys) ∧ sorted = .sorted q (key :: keys) := by
  unfold sorting at read
  split at read
  · cases read
    exact .inl ⟨rfl, rfl⟩
  · next l after =>
    split at read
    · next isSort =>
      obtain ⟨⟨keys, end'⟩, sorting, last⟩ := bind_eq_ok.mp read
      obtain ⟨used, same, areKeys⟩ := sortKeys_sound sorting
      obtain ⟨w, isWord, isSort⟩ := isKeyword_sortby.mp isSort
      cases keys with
      | nil => cases last
      | cons key keys =>
          cases last
          rw [List.append_nil] at same
          refine .inr ⟨w, l.start, after, key, keys, by rw [← isWord], isSort, ?_, rfl⟩
          rw [same]
          exact areKeys
    · cases read

theorem sortedOperands_sound {q : Query} (ends : ∀ l ∈ ls.head?, l.token ≠ .comparison .greater)
    (read : sortedQuery ending room ls = .ok (q, [])) :
    ∃ n ≤ room, Derives .sortedQuery n (tokens ls) q := by
  rw [sortedQuery_query ends] at read
  obtain ⟨⟨whole, after⟩, operands, sorted⟩ := bind_eq_ok.mp read
  obtain ⟨search, chain, _⟩ := sound ending room
  obtain ⟨used, k, n, rfl, fits, derives⟩ := operands_sound search chain ends operands
  refine ⟨n, fits, ?_⟩
  rcases sorting_sound sorted with
    ⟨rfl, rfl⟩ | ⟨w, start, after, key, keys, rfl, isSort, areKeys, rfl⟩
  · rw [List.append_nil]
    exact .unsorted derives
  · rw [tokens_append, tokens_cons]
    exact .sorted derives isSort areKeys

/-- What the reader of whole texts reads to the end of the lexemes is derived. -/
theorem sortedQuery_sound {q : Query} (read : sortedQuery ending room ls = .ok (q, [])) :
    ∃ n ≤ room, Derives .sortedQuery n (tokens ls) q := by
  rcases first_token (.comparison .greater) ls with ⟨start, after, rfl⟩ | ends
  · -- each declaration at the start takes one level of the room
    induction room generalizing start after q with
    | zero =>
        rw [sortedQuery_zero] at read
        cases read
    | succ room ih =>
        rw [sortedQuery_succ] at read
        obtain ⟨⟨⟨name, uri⟩, between⟩, declared, read⟩ := bind_eq_ok.mp read
        obtain ⟨⟨subtree, end'⟩, below, last⟩ := bind_eq_ok.mp read
        obtain ⟨front, rfl, assigns⟩ := assignment_sound declared
        cases last
        have inside : ∃ n ≤ room, Derives .sortedQuery n (tokens between) subtree := by
          rcases first_token (.comparison .greater) between with ⟨start, after, rfl⟩ | ends
          · exact ih start after below
          · exact sortedOperands_sound ends below
        obtain ⟨n, fits, derives⟩ := inside
        refine ⟨n + 1, Nat.succ_le_succ fits, ?_⟩
        rw [tokens_cons, tokens_append]
        exact .declaredSorted assigns derives
  · exact sortedOperands_sound ends read

end Parser

end ContextQuery
