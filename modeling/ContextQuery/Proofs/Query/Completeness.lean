import ContextQuery.Proofs.Query.Soundness
import ContextQuery.Proofs.Token.Spelling

/-!
# What is derived is read

A derivation is followed by the readers token by token: with enough room for its nesting they read
what it derives, and with less they notice that the query is too deep, and nothing else. What
follows must not be able to continue the query. Together with soundness this says that the queries
that are read are those of the grammar (`Query.parse_eq_ok_iff_derives`).
-/

namespace ContextQuery

/-! ## Enough room or too little -/

/-- A reader with some room gives `a` if the room is enough for the nesting `n`, and otherwise the
error that the query is too deep. -/
structure Limited {α : Type} (n room : Nat) (x : Except ParseError α) (a : α) : Prop where
  enough : n ≤ room → x = .ok a
  tooDeep : room < n → ∃ position, x = .error ⟨.tooDeep, position⟩

namespace Limited

variable {α β : Type} {n m room : Nat} {x : Except ParseError α} {a : α} {b : β}

theorem ok (room : Nat) (a : α) : Limited 0 room (.ok a) a :=
  ⟨fun _ => rfl, fun less => absurd less (Nat.not_lt_zero room)⟩

theorem zero (n position : Nat) (a : α) : Limited (n + 1) 0 (.error ⟨.tooDeep, position⟩) a :=
  ⟨fun more => absurd more (Nat.not_succ_le_zero n), fun _ => ⟨position, rfl⟩⟩

theorem succ (limited : Limited n room x a) : Limited (n + 1) (room + 1) x a :=
  ⟨fun more => limited.enough (Nat.le_of_succ_le_succ more),
    fun less => limited.tooDeep (Nat.lt_of_succ_lt_succ less)⟩

/-- One reader after the other needs the room that the more demanding of them needs. -/
theorem bind {f : α → Except ParseError β} (first : Limited n room x a)
    (second : Limited m room (f a) b) : Limited (max n m) room (x >>= f) b := by
  refine ⟨?_, ?_⟩
  · intro more
    rw [first.enough (by omega), ok_bind]
    exact second.enough (by omega)
  · intro less
    by_cases more : n ≤ room
    · rw [first.enough more, ok_bind]
      exact second.tooDeep (by omega)
    · obtain ⟨position, failed⟩ := first.tooDeep (by omega)
      rw [failed]
      exact ⟨position, rfl⟩

/-- A reader that needs no room after one that does. -/
theorem bind_ok {f : α → Except ParseError β} (first : Limited n room x a) (last : f a = .ok b) :
    Limited n room (x >>= f) b := by
  have second : Limited 0 room (f a) b := by
    rw [last]
    exact ok room b
  have both := first.bind second
  rwa [Nat.max_zero] at both

end Limited

namespace Parser

open Grammar

variable {ending : Ending} {ls rest used : List Lexeme} {room start : Nat}

/-! ## What may follow -/

/-- An operator or the keyword of a sort is no relation, so that it ends the clause before it. -/
theorem relationBase?_of_reserved {w : String} (reserved : isReserved w = true) :
    relationBase? (⟨.word w, start⟩ :: ls) = none :=
  if_pos reserved

/-- The tokens that no query starts with. -/
theorem head_ne {kind : Kind} {n : Nat} {q : Query} (derives : Derives kind n (tokens used) q)
    (t : Token) (noSymbol : t.symbol? = none) (noParen : t ≠ .openParen)
    (noSign : t = .comparison .greater → kind ≠ .query ∧ kind ≠ .sortedQuery) :
    ∀ l ∈ (used ++ rest).head?, l.token ≠ t := by
  obtain ⟨u, us, split, starts⟩ := derives.head
  obtain ⟨start, after, rfl, -⟩ := tokens_eq_cons.mp split
  rintro l found rfl
  cases found
  rcases starts with same | isSymbol | ⟨same, isQuery | isQuery⟩
  · exact noParen same
  · rw [noSymbol] at isSymbol
    cases isSymbol
  · exact (noSign same).1 isQuery
  · exact (noSign same).2 isQuery

/-- A declaration starts with its sign. -/
theorem greater_of_assigns {front : List Lexeme} {as : List Token} {name : Option String}
    {uri : String} (assigns : Assigns as name uri) (same : tokens front = as) :
    ∃ start rest, front = ⟨.comparison .greater, start⟩ :: rest ∧
      Assigns (.comparison .greater :: tokens rest) name uri := by
  cases assigns with
  | named isName isUri =>
      obtain ⟨start, rest, rfl, sameRest⟩ := tokens_eq_cons.mp same
      refine ⟨start, rest, rfl, ?_⟩
      rw [sameRest]
      exact .named isName isUri
  | bare isUri =>
      obtain ⟨start, rest, rfl, sameRest⟩ := tokens_eq_cons.mp same
      refine ⟨start, rest, rfl, ?_⟩
      rw [sameRest]
      exact .bare isUri

/-! ## One case for each rule -/

/-- The readers follow a derivation. A chain with `k` operators is followed on to where it ends,
with the room that the operators have left. -/
def Completes (ending : Ending) : Kind → Nat → List Token → Query → Prop
  | .searchClause, n, ts, q => ∀ ⦃used rest room⦄, tokens used = ts → relationBase? rest = none →
      Limited n room (searchClause ending room (used ++ rest)) (q, rest)
  | .scopedClause k, n, ts, q => ∀ ⦃used rest room⦄, tokens used = ts → relationBase? rest = none →
      ∀ ⦃m a⦄, (∀ r, room = k + r → Limited m r (chain ending r q rest) a) →
        Limited (max n (k + m)) room
          (searchClause ending room (used ++ rest) >>= fun (first, rest) =>
            chain ending room first rest) a
  | .query, n, ts, q => ∀ ⦃used rest room⦄, tokens used = ts → relationBase? rest = none →
      operator? rest = none → Limited n room (query ending room (used ++ rest)) (q, rest)
  | .sortedQuery, n, ts, q => ∀ ⦃used room⦄, tokens used = ts →
      Limited n room (sortedQuery ending room used) (q, [])

variable {n m k : Nat} {ts us ms as : List Token} {q left right : Query}

theorem completes_clause {c : Clause} (stated : Says ts c) :
    Completes ending .searchClause 0 ts (.clause c) := by
  rintro used rest room rfl ends
  have noParen : ∀ l ∈ (used ++ rest).head?, l.token ≠ .openParen := by
    obtain ⟨t, us, split, isSymbol⟩ := stated.head
    obtain ⟨start, after, rfl, -⟩ := tokens_eq_cons.mp split
    intro l found same
    cases found
    rw [show t = .openParen from same] at isSymbol
    cases isSymbol
  rw [searchClause_clause noParen, clause_complete stated ends, ok_bind]
  exact .ok room _

/-- Parentheses take one level from the room, and end where the query in them does. -/
theorem completes_parens (inside : Completes ending .query n ts q) :
    Completes ending .searchClause (n + 1) (.openParen :: (ts ++ [.closeParen])) q := by
  intro used rest room same ends
  obtain ⟨start, ls, rfl, sameRest⟩ := tokens_eq_cons.mp same
  obtain ⟨inner, last, rfl, sameInner, isLast⟩ := tokens_eq_append.mp sameRest
  obtain ⟨place, none, rfl, isNone⟩ := tokens_eq_cons.mp isLast
  rw [tokens_eq_nil.mp isNone, List.cons_append, List.append_assoc]
  cases room with
  | zero =>
      rw [searchClause_zero]
      exact .zero n start _
  | succ room =>
      rw [searchClause_succ]
      have read := @inside inner (⟨.closeParen, place⟩ :: rest) room sameInner rfl rfl
      exact .succ (.bind_ok read rfl)

theorem completes_operand (first : Completes ending .searchClause n ts q) :
    Completes ending (.scopedClause 0) n ts q := by
  intro used rest room same ends m a more
  rw [Nat.zero_add]
  exact (first same ends).bind (more room (Nat.zero_add room).symm)

/-- An operator takes one level from the room that is left for the rest of its chain. -/
theorem completes_operator {w : String} {op : BooleanOp} {modifiers : List Modifier}
    (before : Completes ending (.scopedClause k) n ts left)
    (isOperator : Text.foldCase w = op.keyword) (modified : Modifiers ms modifiers)
    (derives : Derives .searchClause m us right)
    (last : Completes ending .searchClause m us right) :
    Completes ending (.scopedClause (k + 1)) (max n (k + 1 + m)) (ts ++ .word w :: (ms ++ us))
      (.boolean op modifiers left right) := by
  intro used rest room same ends m' a more
  obtain ⟨front, ls, rfl, sameFront, sameRest⟩ := tokens_eq_append.mp same
  obtain ⟨start, ls, rfl, sameLast⟩ := tokens_eq_cons.mp sameRest
  obtain ⟨middle, back, rfl, sameMiddle, rfl⟩ := tokens_eq_append.mp sameLast
  -- from the operator on, one level of room is gone
  have continues : ∀ r, room = k + r → Limited (max m m' + 1) r
      (chain ending r left (⟨.word w, start⟩ :: (middle ++ (back ++ rest)))) a := by
    intro r same
    cases r with
    | zero =>
        rw [chain_zero (operator?_of_keyword isOperator)]
        exact .zero _ start a
    | succ r =>
        have endsModifiers : EndsModifiers (back ++ rest) :=
          ⟨fun l head sign => head_ne derives (.comparison sign) rfl nofun
              (fun _ => ⟨nofun, nofun⟩) l head,
            head_ne derives .slash rfl nofun nofun⟩
        rw [chain_succ (operator?_of_keyword isOperator),
          modifiers_complete modified sameMiddle endsModifiers, ok_bind]
        exact ((last rfl ends).bind (more r (by omega))).succ
  have whole := before sameFront
    (relationBase?_of_reserved (BooleanOp.isReserved_of_keyword isOperator)) continues
  rw [show max (max n (k + 1 + m)) (k + 1 + m') = max n (k + (max m m' + 1)) by omega]
  simpa using whole

theorem completes_chain (derives : Derives (.scopedClause k) n ts q)
    (whole : Completes ending (.scopedClause k) n ts q) : Completes ending .query n ts q := by
  rintro used rest room rfl ends endsChain
  have noSign := @head_ne rest used _ _ _ derives (.comparison .greater) rfl nofun
    fun _ => ⟨nofun, nofun⟩
  rw [query_operands noSign]
  -- nothing follows that the chain could go on with
  have read := @whole used rest room rfl ends 0 (q, rest) fun r _ => by
    rw [chain_none endsChain]
    exact .ok r _
  rwa [Nat.add_zero, Nat.max_eq_left derives.operators_le] at read

/-- A declaration takes one level from the room, for the query in its scope. -/
theorem completes_declared {name : Option String} {uri : String} (assigns : Assigns as name uri)
    (derives : Derives .query n ts q) (inside : Completes ending .query n ts q) :
    Completes ending .query (n + 1) (as ++ ts) (.scoped name uri q) := by
  intro used rest room same ends endsChain
  obtain ⟨front, back, rfl, sameFront, rfl⟩ := tokens_eq_append.mp same
  obtain ⟨start, front, rfl, assigns⟩ := greater_of_assigns assigns sameFront
  have noEqual := @head_ne rest back _ _ _ derives (.comparison .equal) rfl nofun nofun
  rw [List.cons_append, List.cons_append, List.append_assoc]
  cases room with
  | zero =>
      rw [query_zero]
      exact .zero n start _
  | succ room =>
      rw [query_succ, assignment_complete assigns noEqual, ok_bind]
      exact .succ (.bind_ok (inside rfl ends endsChain) rfl)

theorem operator?_of_sortby {w : String} (isSort : Text.foldCase w = "sortby") :
    operator? (⟨.word w, start⟩ :: ls) = none := by
  show (BooleanOp.ofWord? w).map _ = none
  unfold BooleanOp.ofWord?
  rw [isSort]
  rfl

theorem sorting_of_keys {w : String} {key : SortKey} {keys : List SortKey}
    (isSort : Text.foldCase w = "sortby") (areKeys : Keys (tokens ls) (key :: keys)) :
    sorting ending q (⟨.word w, start⟩ :: ls) = .ok (.sorted q (key :: keys), []) := by
  have isKeyword : Token.isKeyword "sortby" (.word w) = true :=
    isKeyword_sortby.mpr ⟨w, rfl, isSort⟩
  show (if Token.isKeyword "sortby" (.word w) = true then _ else _) = _
  rw [if_pos isKeyword, sortKeys_complete areKeys]
  rfl

theorem completes_unsorted (derives : Derives (.scopedClause k) n ts q)
    (whole : Completes ending .query n ts q) : Completes ending .sortedQuery n ts q := by
  rintro used room rfl
  have noSign := @head_ne [] used _ _ _ derives (.comparison .greater) rfl nofun
    fun _ => ⟨nofun, nofun⟩
  have read := @whole used [] room rfl rfl rfl
  rw [List.append_nil] at noSign read
  rw [sortedQuery_query noSign]
  exact .bind_ok read rfl

theorem completes_sorted {ks : List Token} {w : String} {key : SortKey} {keys : List SortKey}
    (derives : Derives (.scopedClause k) n ts q) (whole : Completes ending .query n ts q)
    (isSort : Text.foldCase w = "sortby") (areKeys : Keys ks (key :: keys)) :
    Completes ending .sortedQuery n (ts ++ .word w :: ks) (.sorted q (key :: keys)) := by
  intro used room same
  obtain ⟨front, ls, rfl, rfl, sameRest⟩ := tokens_eq_append.mp same
  obtain ⟨start, back, rfl, rfl⟩ := tokens_eq_cons.mp sameRest
  have reserved : isReserved w = true := by
    unfold isReserved
    rw [isSort]
    rfl
  have noSign := @head_ne (⟨.word w, start⟩ :: back) front _ _ _ derives (.comparison .greater) rfl
    nofun fun _ => ⟨nofun, nofun⟩
  rw [sortedQuery_query noSign]
  exact .bind_ok (whole rfl (relationBase?_of_reserved reserved) (operator?_of_sortby isSort))
    (sorting_of_keys isSort areKeys)

theorem completes_declaredSorted {name : Option String} {uri : String}
    (assigns : Assigns as name uri) (derives : Derives .sortedQuery n ts q)
    (inside : Completes ending .sortedQuery n ts q) :
    Completes ending .sortedQuery (n + 1) (as ++ ts) (.scoped name uri q) := by
  intro used room same
  obtain ⟨front, back, rfl, sameFront, rfl⟩ := tokens_eq_append.mp same
  obtain ⟨start, front, rfl, assigns⟩ := greater_of_assigns assigns sameFront
  have noEqual := @head_ne [] back _ _ _ derives (.comparison .equal) rfl nofun nofun
  rw [List.append_nil] at noEqual
  rw [List.cons_append]
  cases room with
  | zero =>
      rw [sortedQuery_zero]
      exact .zero n start _
  | succ room =>
      rw [sortedQuery_succ, assignment_complete assigns noEqual, ok_bind]
      exact .succ (.bind_ok (inside rfl) rfl)

/-- The readers follow every derivation. -/
theorem complete {kind : Kind} {n : Nat} {ts : List Token} {q : Query}
    (derives : Derives kind n ts q) : Completes ending kind n ts q := by
  induction derives with
  | clause stated => exact completes_clause stated
  | parens inside ih => exact completes_parens ih
  | operand first ih => exact completes_operand ih
  | operator before isOperator modified last ihBefore ihLast =>
      exact completes_operator ihBefore isOperator modified last ihLast
  | chain whole ih => exact completes_chain whole ih
  | declared assigns inside ih => exact completes_declared assigns inside ih
  | unsorted whole ih => exact completes_unsorted whole (completes_chain whole ih)
  | sorted whole isSort areKeys ih =>
      exact completes_sorted whole (completes_chain whole ih) isSort areKeys
  | declaredSorted assigns inside ih => exact completes_declaredSorted assigns inside ih

end Parser

/-! ## The language of queries -/

/-- Tokens derive at most one query, and with one nesting: both are what a reader finds in them. -/
theorem Grammar.Derives.unique {n m : Nat} {ts : List Token} {q r : Query}
    (first : Derives .sortedQuery n ts q) (second : Derives .sortedQuery m ts r) :
    q = r ∧ n = m := by
  have same : tokens (ts.map fun t => ⟨t, 0⟩) = ts := by
    unfold tokens
    rw [List.map_map]
    exact List.map_id ts
  have readFirst (room : Nat) := @Parser.complete (.finished 0) _ _ _ _ first _ room same
  have readSecond (room : Nat) := @Parser.complete (.finished 0) _ _ _ _ second _ room same
  -- with the nesting of one as room, the other cannot be deeper
  have le {n m : Nat} {q r : Query} {ls : List Lexeme}
      (one : Limited n n (Parser.sortedQuery (.finished 0) n ls) (q, []))
      (other : Limited m n (Parser.sortedQuery (.finished 0) n ls) (r, [])) : m ≤ n := by
    by_contra deeper
    obtain ⟨position, failed⟩ := other.tooDeep (Nat.lt_of_not_le deeper)
    rw [one.enough (Nat.le_refl n)] at failed
    cases failed
  have same : n = m :=
    Nat.le_antisymm (le (readSecond m) (readFirst m)) (le (readFirst n) (readSecond n))
  have read := (readFirst n).enough (Nat.le_refl n)
  rw [(readSecond n).enough (Nat.le_of_eq same.symm)] at read
  cases read
  exact ⟨rfl, same⟩

namespace Query

open Grammar

theorem parse_eq_ok {s : String} {q : Query} :
    parse s = .ok q ↔ (∃ position, (lex s).ending = .finished position) ∧
      Parser.sortedQuery (lex s).ending maxDepth (lex s).lexemes = .ok (q, []) := by
  unfold parse
  constructor
  · intro parsed
    obtain ⟨⟨q, rest⟩, read, ended⟩ := bind_eq_ok.mp parsed
    dsimp only at read ended
    split at ended
    · next position finished =>
      cases ended
      exact ⟨⟨position, finished⟩, read⟩
    · cases ended
  · rintro ⟨⟨position, finished⟩, read⟩
    dsimp only
    rw [read, ok_bind, finished]
    rfl

/-- What is read is what is derived, within the depth. -/
theorem parse_eq_ok_iff_derives {s : String} {q : Query} :
    parse s = .ok q ↔ (∃ position, (lex s).ending = .finished position) ∧
      ∃ n ≤ maxDepth, Derives .sortedQuery n (tokens (lex s).lexemes) q := by
  rw [parse_eq_ok]
  constructor
  · rintro ⟨finished, read⟩
    exact ⟨finished, Parser.sortedQuery_sound read⟩
  · rintro ⟨finished, n, fits, derives⟩
    exact ⟨finished, (Parser.complete derives rfl).enough fits⟩

/-- A text is read as what its tokens derive. -/
theorem parse_of_splits {s : String} {ts : List Token} {n : Nat} {q : Query}
    (splits : Splits s.toList ts) (derives : Derives .sortedQuery n ts q) (fits : n ≤ maxDepth) :
    parse s = .ok q := by
  obtain ⟨finished, rfl⟩ := splits_iff_lex.mp splits
  exact parse_eq_ok_iff_derives.mpr ⟨finished, n, fits, derives⟩

/-- Tokens that derive a query only with a larger nesting are refused as too deep. -/
theorem parse_tooDeep {s : String} {n : Nat} {q : Query}
    (derives : Derives .sortedQuery n (tokens (lex s).lexemes) q) (deep : maxDepth < n) :
    ∃ position, parse s = .error ⟨.tooDeep, position⟩ := by
  obtain ⟨position, failed⟩ := (Parser.complete derives rfl).tooDeep deep
  refine ⟨position, ?_⟩
  unfold parse
  dsimp only
  rw [failed]
  rfl

/-- **Language.** A text is a query just when it splits into tokens to its end and the tokens derive
the query with a nesting of no more than `maxDepth`. Tokens derive one query at most, with one
nesting, and where that is larger the text is refused as too deep. -/
theorem parse_accepts_grammar (s : String) :
    (∀ q, parse s = .ok q ↔ (∃ position, (lex s).ending = .finished position) ∧
      ∃ n ≤ maxDepth, Derives .sortedQuery n (tokens (lex s).lexemes) q) ∧
    (∀ n m q r, Derives .sortedQuery n (tokens (lex s).lexemes) q →
      Derives .sortedQuery m (tokens (lex s).lexemes) r → q = r ∧ n = m) ∧
    (∀ n q, maxDepth < n → Derives .sortedQuery n (tokens (lex s).lexemes) q →
      ∃ position, parse s = .error ⟨.tooDeep, position⟩) := by
  refine ⟨?_, ?_, ?_⟩
  · intro q
    exact parse_eq_ok_iff_derives
  · intro n m q r first second
    exact first.unique second
  · intro n q deep derives
    exact parse_tooDeep derives deep

/-! ## The deepest queries -/

/-- A term in `n` pairs of parentheses. -/
def nested (n : Nat) : String :=
  String.ofList (List.replicate n '(' ++ 'a' :: List.replicate n ')')

theorem derives_nested (n : Nat) : ∃ ts, Splits (nested n).toList ts ∧
    Derives .sortedQuery n ts (.clause ⟨"cql.serverChoice", ⟨"=", []⟩, "a"⟩) := by
  have inside (n : Nat) : ∃ ts, Splits (nested n).toList ts ∧
      Derives .searchClause n ts (.clause ⟨"cql.serverChoice", ⟨"=", []⟩, "a"⟩) := by
    induction n with
    | zero => exact ⟨[.word "a"], .token rfl rfl (.blank rfl), .clause (.alone rfl)⟩
    | succ n ih =>
        obtain ⟨ts, splits, derives⟩ := ih
        refine ⟨.openParen :: (ts ++ [.closeParen]), ?_, .parens (.chain (.operand derives))⟩
        have wider : (nested (n + 1)).toList = '(' :: ((nested n).toList ++ [')']) := by
          unfold nested
          rw [String.toList_ofList, String.toList_ofList, List.replicate_succ,
            List.replicate_succ' (a := ')')]
          simp
        rw [wider]
        exact splits.parens
  obtain ⟨ts, splits, derives⟩ := inside n
  exact ⟨ts, splits, .unsorted (.operand derives)⟩

/-- The bound is met: a term in as many parentheses as `maxDepth` says is a query, and of no other
tree or nesting, and in one pair more it is too deep. -/
theorem parse_accepts_grammar_to_the_bound :
    (∃ q, parse (nested 256) = .ok q ∧ ∀ n r,
      Derives .sortedQuery n (tokens (lex (nested 256)).lexemes) r → q = r ∧ 256 = n) ∧
    ∃ position, parse (nested 257) = .error ⟨.tooDeep, position⟩ := by
  obtain ⟨ts, splits, derives⟩ := derives_nested 256
  obtain ⟨us, splitsMore, derivesMore⟩ := derives_nested 257
  obtain ⟨finished, rfl⟩ := splits_iff_lex.mp splits
  obtain ⟨finishedMore, rfl⟩ := splits_iff_lex.mp splitsMore
  obtain ⟨accepts, unique, _⟩ := parse_accepts_grammar (nested 256)
  refine ⟨⟨_, (accepts _).mpr ⟨finished, 256, by decide, derives⟩, ?_⟩, ?_⟩
  · intro n r other
    exact unique 256 n _ r derives other
  · exact (parse_accepts_grammar (nested 257)).2.2 257 _ (by decide) derivesMore

end Query

end ContextQuery
