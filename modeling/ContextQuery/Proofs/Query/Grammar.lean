import ContextQuery.Proofs.Token.Splits
import ContextQuery.Query.Parser

/-!
# The grammar of queries

What a list of tokens says is defined here by rules alone, without an order in which to look for
them: which tokens are a relation, a term, a clause, and from which parts a query is put together.
A rule for queries also tells the nesting of what it derives: one more for parentheses and for a
namespace declaration, and for the operators of a chain as many as stand before an operand.
-/

namespace ContextQuery

namespace Grammar

/-! ## Clauses -/

/-- Any number of modifiers. -/
inductive Modifiers : List Token → List Modifier → Prop where
  | none : Modifiers [] []
  | named {t : Token} {name : String} {ts : List Token} {ms : List Modifier}
      (isName : t.symbol? = some name) (more : Modifiers ts ms) :
      Modifiers (.slash :: t :: ts) (⟨name, .none, .none⟩ :: ms)
  | valued {t u : Token} {name value : String} {sign : Comparison} {ts : List Token}
      {ms : List Modifier} (isName : t.symbol? = some name) (isValue : u.symbol? = some value)
      (more : Modifiers ts ms) :
      Modifiers (.slash :: t :: .comparison sign :: u :: ts)
        (⟨name, some sign.symbol, some value⟩ :: ms)

/-- A token that is a relation, with the base of the relation. -/
inductive Base : Token → String → Prop where
  | sign (sign : Comparison) : Base (.comparison sign) sign.symbol
  | named (w : String) (free : isReserved w = false) : Base (.word w) (Text.foldCase w)

/-- The term after a relation: one quoted string, or words of which the first alone may be
reserved. -/
inductive Term : List Token → String → Prop where
  | quoted (s : String) : Term [.quoted s] s
  | words (w : String) (ws : List String) (free : ∀ v ∈ ws, isReserved v = false) :
      Term (.word w :: ws.map .word) (" ".intercalate (w :: ws))

/-- A clause, in full or as its term alone. -/
inductive Says : List Token → Clause → Prop where
  | alone {t : Token} {term : String} (isTerm : t.symbol? = some term) :
      Says [t] ⟨"cql.serverChoice", ⟨"=", []⟩, term⟩
  | inFull {t r : Token} {index base term : String} {ms ts : List Token} {modifiers : List Modifier}
      (isIndex : t.symbol? = some index) (isBase : Base r base) (modified : Modifiers ms modifiers)
      (isTerm : Term ts term) : Says (t :: r :: (ms ++ ts)) ⟨index, ⟨base, modifiers⟩, term⟩

/-- A namespace declaration: its name, if it has one, and its URI. -/
inductive Assigns : List Token → Option String → String → Prop where
  | named {t u : Token} {name uri : String} (isName : t.symbol? = some name)
      (isUri : u.symbol? = some uri) :
      Assigns [.comparison .greater, t, .comparison .equal, u] (some name) uri
  | bare {u : Token} {uri : String} (isUri : u.symbol? = some uri) :
      Assigns [.comparison .greater, u] none uri

/-- Any number of sort keys. -/
inductive Keys : List Token → List SortKey → Prop where
  | none : Keys [] []
  | key {t : Token} {base : String} {ms ts : List Token} {modifiers : List Modifier}
      {keys : List SortKey} (isBase : t.symbol? = some base) (modified : Modifiers ms modifiers)
      (more : Keys ts keys) : Keys (t :: (ms ++ ts)) (⟨base, modifiers⟩ :: keys)

/-! ## Queries -/

/-- The kinds of queries. A chain tells how many operators it has. -/
inductive Kind where
  | searchClause
  | scopedClause (operators : Nat)
  | query
  | sortedQuery
  deriving DecidableEq, Repr

/-- Some tokens are a query of a kind, with a nesting. -/
inductive Derives : Kind → Nat → List Token → Query → Prop where
  | clause {ts : List Token} {c : Clause} (stated : Says ts c) :
      Derives .searchClause 0 ts (.clause c)
  | parens {n : Nat} {ts : List Token} {q : Query} (inside : Derives .query n ts q) :
      Derives .searchClause (n + 1) (.openParen :: (ts ++ [.closeParen])) q
  | operand {n : Nat} {ts : List Token} {q : Query} (first : Derives .searchClause n ts q) :
      Derives (.scopedClause 0) n ts q
  | operator {k n m : Nat} {ts ms us : List Token} {left right : Query} {w : String}
      {op : BooleanOp} {modifiers : List Modifier} (before : Derives (.scopedClause k) n ts left)
      (isOperator : Text.foldCase w = op.keyword) (modified : Modifiers ms modifiers)
      (last : Derives .searchClause m us right) :
      Derives (.scopedClause (k + 1)) (max n (k + 1 + m)) (ts ++ .word w :: (ms ++ us))
        (.boolean op modifiers left right)
  | chain {k n : Nat} {ts : List Token} {q : Query} (whole : Derives (.scopedClause k) n ts q) :
      Derives .query n ts q
  | declared {n : Nat} {as ts : List Token} {name : Option String} {uri : String} {q : Query}
      (assigns : Assigns as name uri) (inside : Derives .query n ts q) :
      Derives .query (n + 1) (as ++ ts) (.scoped name uri q)
  | unsorted {k n : Nat} {ts : List Token} {q : Query} (whole : Derives (.scopedClause k) n ts q) :
      Derives .sortedQuery n ts q
  | sorted {k n : Nat} {ts ks : List Token} {q : Query} {w : String} {key : SortKey}
      {keys : List SortKey} (whole : Derives (.scopedClause k) n ts q)
      (isSort : Text.foldCase w = "sortby") (sorting : Keys ks (key :: keys)) :
      Derives .sortedQuery n (ts ++ .word w :: ks) (.sorted q (key :: keys))
  | declaredSorted {n : Nat} {as ts : List Token} {name : Option String} {uri : String} {q : Query}
      (assigns : Assigns as name uri) (inside : Derives .sortedQuery n ts q) :
      Derives .sortedQuery (n + 1) (as ++ ts) (.scoped name uri q)

/-! ## Keywords -/

theorem foldCase_keyword (op : BooleanOp) : Text.foldCase op.keyword = op.keyword := by
  rw [← String.toList_inj, Text.toList_foldCase]
  cases op <;> decide

theorem foldCase_sortby : Text.foldCase "sortby" = "sortby" := by
  rw [← String.toList_inj, Text.toList_foldCase]
  decide

/-- The keyword as combined texts have it. -/
theorem foldCase_capital_and : Text.foldCase "AND" = BooleanOp.keyword .and := by
  rw [← String.toList_inj, Text.toList_foldCase]
  decide

/-! ## First tokens -/

theorem Term.head {ts : List Token} {term : String} (isTerm : Term ts term) :
    ∃ t us, ts = t :: us ∧ t.symbol?.isSome := by
  cases isTerm with
  | quoted s => exact ⟨_, _, rfl, rfl⟩
  | words w ws free => exact ⟨_, _, rfl, rfl⟩

theorem Says.head {ts : List Token} {c : Clause} (stated : Says ts c) :
    ∃ t us, ts = t :: us ∧ t.symbol?.isSome := by
  cases stated with
  | alone isTerm => exact ⟨_, _, rfl, by rw [isTerm]; rfl⟩
  | inFull isIndex => exact ⟨_, _, rfl, by rw [isIndex]; rfl⟩

/-- A query starts with a parenthesis, a name or a term, and a query that may be declared also with
the sign of a declaration. -/
theorem Derives.head {kind : Kind} {n : Nat} {ts : List Token} {q : Query}
    (derives : Derives kind n ts q) : ∃ t us, ts = t :: us ∧
      (t = .openParen ∨ t.symbol?.isSome ∨
        t = .comparison .greater ∧ (kind = .query ∨ kind = .sortedQuery)) := by
  induction derives with
  | clause stated =>
      obtain ⟨t, us, rfl, isSymbol⟩ := stated.head
      exact ⟨t, us, rfl, .inr (.inl isSymbol)⟩
  | parens inside => exact ⟨_, _, rfl, .inl rfl⟩
  | operand first ih =>
      obtain ⟨t, us, rfl, starts⟩ := ih
      exact ⟨t, us, rfl, by simpa using starts⟩
  | operator before isOperator modified last ih =>
      obtain ⟨t, us, rfl, starts⟩ := ih
      exact ⟨t, _, rfl, by simpa using starts⟩
  | chain whole ih | unsorted whole ih =>
      obtain ⟨t, us, rfl, starts⟩ := ih
      exact ⟨t, us, rfl, starts.imp_right (Or.imp_right fun sign => ⟨sign.1, by simp⟩)⟩
  | sorted whole isSort sorting ih =>
      obtain ⟨t, us, rfl, starts⟩ := ih
      exact ⟨t, _, rfl, starts.imp_right (Or.imp_right fun sign => ⟨sign.1, by simp⟩)⟩
  | declared assigns inside | declaredSorted assigns inside =>
      cases assigns with
      | named isName isUri => exact ⟨_, _, rfl, .inr (.inr ⟨rfl, by simp⟩)⟩
      | bare isUri => exact ⟨_, _, rfl, .inr (.inr ⟨rfl, by simp⟩)⟩

/-- The operators of a chain count towards its nesting. -/
theorem Derives.operators_le {k n : Nat} {ts : List Token} {q : Query}
    (derives : Derives (.scopedClause k) n ts q) : k ≤ n := by
  cases derives with
  | operand first => exact Nat.zero_le n
  | operator before isOperator modified last => omega

/-- A query that may be declared is also one that may be sorted. -/
theorem Derives.sortedQuery {n : Nat} {ts : List Token} {q : Query}
    (derives : Derives .query n ts q) : Derives .sortedQuery n ts q := by
  generalize same : Kind.query = kind at derives
  induction derives with
  | chain whole => exact .unsorted whole
  | declared assigns inside ih => exact .declaredSorted assigns (ih same)
  | clause | parens | operand | operator | unsorted | sorted | declaredSorted => cases same

end Grammar

end ContextQuery
