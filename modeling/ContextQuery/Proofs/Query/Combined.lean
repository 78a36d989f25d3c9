import Mathlib
import ContextQuery.Proofs.Query.Completeness
import ContextQuery.Proofs.Query.Parentheses
import ContextQuery.Proofs.Select.Meaning
import ContextQuery.Query.Combine

/-!
# Two queries as one

Two queries are combined as texts, each between parentheses, and the whole is read once more. A text
stays between its parentheses when it closes no other than its own and leaves no quoted string open.
Just then the whole is the conjunction of what the two texts are by themselves, and selects only
what the first selects (`Query.combine_conjoins_iff_closed`). Other texts can be combined as well,
and reach beyond their parentheses (`Query.combine_reaches_out`).
-/

namespace ContextQuery

open Grammar

/-- The text splits into tokens to its end, and none of them closes a parenthesis that it has not
opened. -/
def Query.Closed (s : String) : Prop :=
  (∃ position, (lex s).ending = .finished position) ∧
    (openAfter 0 (tokens (lex s).lexemes)).isSome

namespace Parser

variable {ending : Ending} {room start place : Nat} {inner rest after : List Lexeme} {q : Query}

/-- What stands between parentheses that pair up is read by itself. -/
theorem searchClause_paired (paired : Paired (tokens inner))
    (read : searchClause ending (room + 1)
      (⟨.openParen, start⟩ :: (inner ++ ⟨.closeParen, place⟩ :: rest)) = .ok (q, after)) :
    after = rest ∧ ∃ n ≤ room, Derives .query n (tokens inner) q := by
  rw [searchClause_succ] at read
  obtain ⟨⟨subtree, between⟩, first, closed⟩ := bind_eq_ok.mp read
  obtain ⟨used, n, split, fits, derives⟩ := (sound ending room).2.2 first
  dsimp only at closed
  split at closed
  · next place after =>
    cases closed
    -- the parenthesis that the reader took for the closing one is the closing one
    have same := congrArg tokens split
    rw [tokens_append, tokens_append, tokens_cons, tokens_cons] at same
    obtain ⟨sameInner, -⟩ := paired.close_unique derives.paired same
    have sameLength := congrArg List.length sameInner
    unfold tokens at sameLength
    rw [List.length_map, List.length_map] at sameLength
    obtain ⟨rfl, sameRest⟩ := List.append_inj split sameLength
    cases sameRest
    exact ⟨rfl, n, fits, derives⟩
  · cases closed

/-- Two paired texts in parentheses, with `and` between them, are read as their conjunction. -/
theorem sortedQuery_conjunction {ls : List Lexeme} {ts us : List Token} {w : String}
    (isAnd : Text.foldCase w = BooleanOp.keyword .and) (first : Paired ts) (second : Paired us)
    (same : tokens ls =
      Token.openParen :: (ts ++
        Token.closeParen :: Token.word w :: Token.openParen :: (us ++ [Token.closeParen])))
    (read : sortedQuery ending (room + 2) ls = .ok (q, [])) :
    ∃ left right, q = .boolean .and [] left right ∧
      (∃ n ≤ room + 1, Derives .query n ts left) ∧ ∃ n ≤ room, Derives .query n us right := by
  obtain ⟨start, ls₁, rfl, same₁⟩ := tokens_eq_cons.mp same
  obtain ⟨front, ls₂, rfl, rfl, same₂⟩ := tokens_eq_append.mp same₁
  obtain ⟨place, ls₃, rfl, same₃⟩ := tokens_eq_cons.mp same₂
  obtain ⟨sign, ls₄, rfl, same₄⟩ := tokens_eq_cons.mp same₃
  obtain ⟨start', ls₅, rfl, same₅⟩ := tokens_eq_cons.mp same₄
  obtain ⟨back, ls₆, rfl, rfl, same₆⟩ := tokens_eq_append.mp same₅
  obtain ⟨place', ls₇, rfl, same₇⟩ := tokens_eq_cons.mp same₆
  rw [tokens_eq_nil.mp same₇, sortedQuery_query (by simp)] at read
  obtain ⟨⟨whole, afterWhole⟩, operands, sorted⟩ := bind_eq_ok.mp read
  rw [query_operands (by simp)] at operands
  -- the first text, then the operator, then the second text
  obtain ⟨⟨left, afterLeft⟩, readLeft, chained⟩ := bind_eq_ok.mp operands
  obtain ⟨rfl, derivesLeft⟩ := searchClause_paired first readLeft
  have ends : EndsModifiers (⟨.openParen, start'⟩ :: (back ++ [⟨.closeParen, place'⟩])) := by
    simp [EndsModifiers, EndsModifier]
  dsimp only at chained
  rw [chain_succ (operator?_of_keyword isAnd), modifiers_of_ends ends, ok_bind] at chained
  obtain ⟨⟨right, afterRight⟩, readRight, last⟩ := bind_eq_ok.mp chained
  obtain ⟨rfl, derivesRight⟩ := searchClause_paired second readRight
  dsimp only at last
  rw [chain_none rfl] at last
  cases last
  cases sorted
  exact ⟨left, right, rfl, derivesLeft, derivesRight⟩

end Parser

/-! ## The combined text -/

namespace Query

/-- Texts that split on their own do so between their parentheses. -/
theorem splits_combinedText {first : Query} {second : String} {ts us : List Token}
    (splitsFirst : Splits first.withoutSort.canonical.toList ts)
    (splitsSecond : Splits second.toList us) :
    Splits (combinedText first second).toList (Token.openParen :: (ts ++
      Token.closeParen :: Token.word "AND" :: Token.openParen :: (us ++ [Token.closeParen]))) := by
  have characters : (combinedText first second).toList =
      '(' :: (first.withoutSort.canonical.toList ++
        ')' :: (" AND ".toList ++ '(' :: (second.toList ++ [')']))) := by
    unfold combinedText
    simp
  have between {cs : List Char} {ts : List Token} (splits : Splits ('(' :: cs) ts) :
      Splits (" AND ".toList ++ '(' :: cs) (.word "AND" :: ts) := by
    have starts : (" AND ".toList ++ '(' :: cs).dropWhile Text.isBlank =
        'A' :: 'N' :: 'D' :: ' ' :: '(' :: cs := rfl
    have read : Lexer.readToken 'A' ('N' :: 'D' :: ' ' :: '(' :: cs) =
        some (.word "AND", ' ' :: '(' :: cs) := rfl
    have blank : ('(' :: cs).dropWhile Text.isBlank =
        (' ' :: '(' :: cs).dropWhile Text.isBlank := rfl
    exact .token starts read (splits.of_dropWhile blank)
  rw [characters]
  exact splits_open (splitsFirst.append_close (splits_close (between splitsSecond.parens)))

/-- A text that is a query is closed. -/
theorem closed_of_parse {s : String} {q : Query} (parsed : parse s = .ok q) : Closed s := by
  obtain ⟨finished, n, _, derives⟩ := parse_eq_ok_iff_derives.mp parsed
  refine ⟨finished, ?_⟩
  rw [derives.paired.openAfter 0]
  rfl

/-- A conjunction is true only where its left side is. -/
theorem truth?_of_and {answer : Clause → Except SelectError (Option String)}
    {ν : String → Sql.Truth} {ms : List Modifier} {left right : Query}
    (holds : truth? answer ν (.boolean .and ms left right) = some .true) :
    left.truth? answer ν = some .true := by
  obtain ⟨v, left, holds⟩ := Option.bind_eq_some_iff.mp holds
  obtain ⟨w, _, joined⟩ := Option.bind_eq_some_iff.mp holds
  have both : v.and w = .true := Option.some.inj joined
  rw [left, (Sql.Truth.and_eq_true.mp both).1]

/-- Closed texts that are combined are queries by themselves, and the whole is their conjunction. -/
theorem conjunction_of_closed {first q : Query} {second : String}
    (closedFirst : Closed first.withoutSort.canonical) (closedSecond : Closed second)
    (parsed : parse (combinedText first second) = .ok q) :
    ∃ left right, parse first.withoutSort.canonical = .ok left ∧ parse second = .ok right ∧
      q = .boolean .and [] left right := by
  obtain ⟨finishedFirst, openFirst⟩ := closedFirst
  obtain ⟨finishedSecond, openSecond⟩ := closedSecond
  obtain ⟨j, countFirst⟩ := Option.isSome_iff_exists.mp openFirst
  obtain ⟨k, countSecond⟩ := Option.isSome_iff_exists.mp openSecond
  have splits := splits_combinedText (splits_iff_lex.mpr ⟨finishedFirst, rfl⟩)
    (splits_iff_lex.mpr ⟨finishedSecond, rfl⟩)
  obtain ⟨_, same⟩ := splits_iff_lex.mp splits
  obtain ⟨_, n, _, derives⟩ := parse_eq_ok_iff_derives.mp parsed
  -- the whole closes what it opens, so neither text leaves anything open
  have total : openAfter 0 (tokens (lex (combinedText first second)).lexemes) =
      some (0 + j + k) := by
    rw [same, openAfter_parens countFirst, openAfter_plain (t := .word "AND") nofun nofun,
      openAfter_parens countSecond]
    rfl
  rw [derives.paired.openAfter 0, Option.some.injEq] at total
  have pairedFirst : Paired (tokens (lex first.withoutSort.canonical).lexemes) := by
    unfold Paired
    rw [countFirst, show j = 0 by omega]
  have pairedSecond : Paired (tokens (lex second).lexemes) := by
    unfold Paired
    rw [countSecond, show k = 0 by omega]
  obtain ⟨left, right, isConjunction, ⟨n, fitsLeft, derivesLeft⟩, m, fitsRight, derivesRight⟩ :=
    @Parser.sortedQuery_conjunction _ 254 _ _ _ _ _ foldCase_capital_and pairedFirst pairedSecond same
      (parse_eq_ok.mp parsed).2
  refine ⟨left, right, ?_, ?_, isConjunction⟩
  · exact parse_eq_ok_iff_derives.mpr
      ⟨finishedFirst, n, Nat.le_trans fitsLeft (by decide), derivesLeft.sortedQuery⟩
  · exact parse_eq_ok_iff_derives.mpr
      ⟨finishedSecond, m, Nat.le_trans fitsRight (by decide), derivesRight.sortedQuery⟩

/-- **Conjunction.** Of two texts that are combined, the second is a query by itself and the whole
the conjunction of both, which selects nothing that the first does not, just when both texts are
closed. -/
theorem combine_conjoins_iff_closed (first second : String) (q : Query)
    (combined : combine (some first) (some second) = .ok (some q)) :
    ∃ whole, parse first = .ok whole ∧
      (Closed whole.withoutSort.canonical ∧ Closed second ↔
        ∃ left right, parse whole.withoutSort.canonical = .ok left ∧ parse second = .ok right ∧
          q = .boolean .and [] left right ∧
          ∀ answer ν, q.truth? answer ν = some .true → left.truth? answer ν = some .true) := by
  obtain ⟨whole, parsedFirst, parsedBoth⟩ := bind_eq_ok.mp combined
  obtain ⟨q', parsed, same⟩ := bind_pure_eq_ok.mp parsedBoth
  cases same
  refine ⟨whole, parsedFirst, ?_, ?_⟩
  · rintro ⟨closedFirst, closedSecond⟩
    obtain ⟨left, right, parsedLeft, parsedRight, rfl⟩ :=
      conjunction_of_closed closedFirst closedSecond parsed
    exact ⟨left, right, parsedLeft, parsedRight, rfl, fun answer ν => truth?_of_and⟩
  · rintro ⟨left, right, parsedLeft, parsedRight, _⟩
    exact ⟨closed_of_parse parsedLeft, closed_of_parse parsedRight⟩

/-- A second text of two clauses is the right side as a whole. -/
theorem combine_conjoins_disjunction :
    combine (some "cost=1") (some "cost=2 or cost=3") =
      .ok (some (.boolean .and [] (.clause ⟨"cost", ⟨"=", []⟩, "1"⟩)
        (.boolean .or [] (.clause ⟨"cost", ⟨"=", []⟩, "2"⟩) (.clause ⟨"cost", ⟨"=", []⟩, "3"⟩)))) ∧
    ∃ whole, parse "cost=1" = .ok whole ∧
      (Closed whole.withoutSort.canonical ∧ Closed "cost=2 or cost=3" ↔
        ∃ left right, parse whole.withoutSort.canonical = .ok left ∧
          parse "cost=2 or cost=3" = .ok right ∧
          Query.boolean .and [] (.clause ⟨"cost", ⟨"=", []⟩, "1"⟩) (.boolean .or []
            (.clause ⟨"cost", ⟨"=", []⟩, "2"⟩) (.clause ⟨"cost", ⟨"=", []⟩, "3"⟩)) =
              .boolean .and [] left right ∧
          ∀ answer ν, Query.truth? answer ν (.boolean .and [] (.clause ⟨"cost", ⟨"=", []⟩, "1"⟩)
            (.boolean .or [] (.clause ⟨"cost", ⟨"=", []⟩, "2"⟩)
              (.clause ⟨"cost", ⟨"=", []⟩, "3"⟩))) = some .true →
            left.truth? answer ν = some .true) := by
  have combined : combine (some "cost=1") (some "cost=2 or cost=3") =
      .ok (some (.boolean .and [] (.clause ⟨"cost", ⟨"=", []⟩, "1"⟩)
        (.boolean .or [] (.clause ⟨"cost", ⟨"=", []⟩, "2"⟩)
          (.clause ⟨"cost", ⟨"=", []⟩, "3"⟩)))) := by
    cbv
  exact ⟨combined, combine_conjoins_iff_closed _ _ _ combined⟩

/-- A second text that closes the parenthesis before it and opens the one after it is read as two
halves, one of them outside the conjunction, and rows are selected that the first does not admit. -/
theorem combine_reaches_out :
    combine (some "cost=1") (some "cost=2) or (cost=3") =
      .ok (some (.boolean .or []
        (.boolean .and [] (.clause ⟨"cost", ⟨"=", []⟩, "1"⟩) (.clause ⟨"cost", ⟨"=", []⟩, "2"⟩))
        (.clause ⟨"cost", ⟨"=", []⟩, "3"⟩))) ∧
    ¬ Closed "cost=2) or (cost=3" := by
  refine ⟨by cbv, ?_⟩
  rintro ⟨_, paired⟩
  have unpaired : openAfter 0 (tokens (lex "cost=2) or (cost=3").lexemes) = none := by cbv
  rw [unpaired] at paired
  cases paired

end Query

end ContextQuery
