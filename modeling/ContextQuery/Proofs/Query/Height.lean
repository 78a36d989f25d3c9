import Mathlib
import ContextQuery.Proofs.Query.Completeness
import ContextQuery.Proofs.Token.Spelling

/-!
# How high the trees of queries are

The room that a reader has left counts how an operator stands in its chain, and not how high the
tree above its left operand will become: a chain between parentheses may be an operand that another
chain goes on after, which has as much room again, less the one level of the parentheses. Only there
does a tree become higher than the room (`Query.height_of_parse_le`), but there it does: a path to the
right is as long as the room at most, and one to the left can be as long as all these chains together
(`Query.height_of_parse_isGreatest`).
-/

namespace ContextQuery

open Grammar

/-- The token joins the operands before and after it. -/
def Token.isOperator : Token → Bool
  | .word w => (BooleanOp.ofWord? w).isSome
  | _ => false

namespace Query

/-- The most operators and declarations that a path from the root to a clause passes. -/
def height : Query → Nat
  | .clause _ => 0
  | .boolean _ _ left right => max left.height right.height + 1
  | .sorted subtree _ => subtree.height
  | .scoped _ _ subtree => subtree.height + 1

/-- The same, where an operator counts only on the way to its right operand. -/
def turns : Query → Nat
  | .clause _ => 0
  | .boolean _ _ left right => max left.turns (right.turns + 1)
  | .sorted subtree _ => subtree.turns
  | .scoped _ _ subtree => subtree.turns + 1

/-- The height of a tree that has in each of `n` levels a chain as long as there is room for. -/
def tallest : Nat → Nat
  | 0 => 0
  | n + 1 => tallest n + (n + 1)

theorem tallest_eq (n : Nat) : tallest n = n * (n + 1) / 2 := by
  have twice : 2 * tallest n = n * (n + 1) := by
    induction n with
    | zero => rfl
    | succ n ih =>
        rw [tallest, Nat.mul_add, ih]
        ring
  omega

/-- One level more admits at least as many operators more as there are levels already. -/
theorem tallest_step {n m : Nat} (le : n ≤ m) : tallest n + m ≤ tallest m + n := by
  induction le with
  | refl => exact Nat.le_refl _
  | @step m le ih =>
      have fewer : n ≤ m := le
      rw [tallest]
      omega

/-! ## No tree is higher -/

/-- What the nesting of a derivation says about the height of its tree. A clause, or a query between
parentheses, has one level less to itself; a chain adds its operators. -/
def HeightFits : Kind → Nat → Query → Prop
  | .searchClause, n, q => q.height + n ≤ tallest n
  | .scopedClause k, n, q => q.height + n ≤ tallest n + k
  | .query, n, q => q.height ≤ tallest n
  | .sortedQuery, n, q => q.height ≤ tallest n

theorem heightFits_of_derives {kind : Kind} {n : Nat} {ts : List Token} {q : Query}
    (derives : Derives kind n ts q) : HeightFits kind n q := by
  induction derives with
  | clause stated => exact Nat.le_refl 0
  | @parens n ts q inside ih =>
      have below : q.height ≤ tallest n := ih
      show q.height + (n + 1) ≤ tallest n + (n + 1)
      omega
  | operand first ih => exact ih
  | @operator k n m ts ms us left right w op modifiers before isOperator modified last ihl ihr =>
      have onLeft : left.height + n ≤ tallest n + k := ihl
      have onRight : right.height + m ≤ tallest m := ihr
      have moreLeft := @tallest_step n (max n (k + 1 + m)) (by omega)
      have moreRight := @tallest_step m (max n (k + 1 + m)) (by omega)
      show max left.height right.height + 1 + _ ≤ _ + (k + 1)
      omega
  | @chain k n ts q whole ih | @unsorted k n ts q whole ih =>
      have all : q.height + n ≤ tallest n + k := ih
      have fits := whole.operators_le
      show q.height ≤ tallest n
      omega
  | @sorted k n ts ks q w key keys whole isSort sorting ih =>
      have all : q.height + n ≤ tallest n + k := ih
      have fits := whole.operators_le
      show q.height ≤ tallest n
      omega
  | @declared n as ts name uri q assigns inside ih
  | @declaredSorted n as ts name uri q assigns inside ih =>
      have below : q.height ≤ tallest n := ih
      show q.height + 1 ≤ tallest n + (n + 1)
      omega

/-- On the way to a right operand, or under a declaration, each level counts. -/
theorem turns_le_of_derives {kind : Kind} {n : Nat} {ts : List Token} {q : Query}
    (derives : Derives kind n ts q) : q.turns ≤ n := by
  induction derives with
  | clause stated => exact Nat.le_refl 0
  | parens inside ih => exact Nat.le_succ_of_le ih
  | operand first ih | chain whole ih | unsorted whole ih => exact ih
  | operator before isOperator modified last ihl ihr =>
      rw [turns]
      omega
  | sorted whole isSort sorting ih => exact ih
  | declared assigns inside ih | declaredSorted assigns inside ih => exact Nat.succ_le_succ ih

/-! ## Operators after parentheses -/

/-- One if an operator comes next after a parenthesis that closes. -/
def resumes : Token → List Token → Nat
  | .closeParen, u :: _ => if u.isOperator then 1 else 0
  | _, _ => 0

/-- How many operators come right after a parenthesis that closes. -/
def resumptions : List Token → Nat
  | [] => 0
  | t :: ts => resumes t ts + resumptions ts

/-- One if the tokens end in a parenthesis, so that an operator after them would count. -/
def closing (ts : List Token) : Nat :=
  if ts.getLast? = some .closeParen then 1 else 0

theorem le_resumptions_append (ts us : List Token) :
    resumptions ts + resumptions us ≤ resumptions (ts ++ us) := by
  induction ts with
  | nil =>
      show 0 + resumptions us ≤ resumptions us
      omega
  | cons t ts ih =>
      have first : resumes t ts ≤ resumes t (ts ++ us) := by
        cases ts with
        | nil => cases t <;> exact Nat.zero_le _
        | cons u ts => cases t <;> exact Nat.le_refl _
      rw [List.cons_append, resumptions, resumptions]
      omega

theorem le_resumptions_operator {w : String} (isOperator : (Token.word w).isOperator = true)
    (ts us : List Token) :
    resumptions ts + closing ts + resumptions us ≤ resumptions (ts ++ .word w :: us) := by
  have after : resumptions (.word w :: us) = resumptions us := by
    show 0 + resumptions us = resumptions us
    omega
  induction ts with
  | nil =>
      show 0 + 0 + resumptions us ≤ resumptions (.word w :: us)
      omega
  | cons t ts ih =>
      rw [List.cons_append, resumptions, resumptions]
      -- the operator is a new neighbour for the last token only
      cases ts with
      | nil =>
          have counted : closing [t] ≤ resumes t (.word w :: us) := by
            cases t with
            | closeParen =>
                show 1 ≤ if (Token.word w).isOperator then 1 else 0
                rw [isOperator]
                decide
            | _ => exact Nat.zero_le _
          have none : resumes t [] = 0 := by
            cases t <;> rfl
          show resumes t [] + 0 + closing [t] + resumptions us ≤
            resumes t (.word w :: us) + resumptions (.word w :: us)
          omega
      | cons u ts =>
          have sameEnd : closing (t :: u :: ts) = closing (u :: ts) := by
            unfold closing
            rw [List.getLast?_cons_cons]
          have sameNext : resumes t (u :: ts ++ .word w :: us) = resumes t (u :: ts) := by
            cases t <;> rfl
          omega

/-- Parentheses keep what comes right after those inside them. -/
theorem le_resumptions_parens (ts : List Token) :
    resumptions ts ≤ resumptions (.openParen :: (ts ++ [.closeParen])) := by
  have front := le_resumptions_append [.openParen] (ts ++ [.closeParen])
  have back := le_resumptions_append ts [.closeParen]
  rw [List.singleton_append] at front
  omega

theorem closing_parens (ts : List Token) : closing (.openParen :: (ts ++ [.closeParen])) = 1 := by
  unfold closing
  rw [← List.cons_append, List.getLast?_concat]
  rfl

/-- Tokens end as the clause, or the query in parentheses, that they end with. -/
theorem closing_append {n : Nat} {us : List Token} {q : Query}
    (last : Derives .searchClause n us q) (ts ms : List Token) (t : Token) :
    closing (ts ++ t :: (ms ++ us)) = closing us := by
  obtain ⟨u, vs, rfl, -⟩ := last.head
  unfold closing
  rw [List.getLast?_append_cons, ← List.cons_append, List.getLast?_append_cons]

/-! ## Heights in a room -/

section

variable {h n x y k room : Nat}

/-- What fits `x` times into a part of the room fits at least as often into the room. -/
theorem le_room (high : h ≤ n * x + k) (fits : n ≤ room) (within : x ≤ y) : h ≤ room * y + k :=
  Nat.le_trans high (Nat.add_le_add_right (Nat.mul_le_mul fits within) k)

/-- One more fits where a level of the room is left. -/
theorem succ_le_room (high : h ≤ n * (x + 1)) (fits : n + 1 ≤ room) (within : x ≤ y) :
    h + 1 ≤ room * (y + 1) := by
  have more : (n + 1) * (x + 1) ≤ room * (y + 1) := Nat.mul_le_mul fits (Nat.succ_le_succ within)
  rw [Nat.succ_mul] at more
  omega

end

/-- What the resumptions in some tokens say about the height of their tree. The operators of a chain
come on top of what is in parentheses only where they follow it. -/
def HeightResumes : Kind → Nat → List Token → Query → Prop
  | .searchClause, n, ts, q =>
    q.height ≤ n * (resumptions ts + closing ts) ∧ q.height ≤ n * (resumptions ts + 1)
  | .scopedClause k, n, ts, q =>
    q.height ≤ n * (resumptions ts + closing ts) + k ∧ q.height ≤ n * (resumptions ts + 1)
  | .query, n, ts, q => q.height ≤ n * (resumptions ts + 1)
  | .sortedQuery, n, ts, q => q.height ≤ n * (resumptions ts + 1)

/-- A chain with an operator more. Its left operand is as high as the chain was, and counts as closed
if the operator follows a parenthesis; its right operand stands one level below. -/
theorem heightResumes_operator {k n m : Nat} {ts ms us : List Token} {left right : Query}
    {w : String} (op : BooleanOp) (modifiers : List Modifier)
    (isOperator : (Token.word w).isOperator = true) (last : Derives .searchClause m us right)
    (onLeft : HeightResumes (.scopedClause k) n ts left)
    (onRight : HeightResumes .searchClause m us right) :
    HeightResumes (.scopedClause (k + 1)) (max n (k + 1 + m)) (ts ++ .word w :: (ms ++ us))
      (.boolean op modifiers left right) := by
  obtain ⟨openLeft, -⟩ := onLeft
  obtain ⟨openRight, closedRight⟩ := onRight
  have joined := le_resumptions_operator isOperator ts (ms ++ us)
  have afterModifiers := le_resumptions_append ms us
  have fitsLeft : n ≤ max n (k + 1 + m) := Nat.le_max_left _ _
  have fitsRight : k + 1 + m ≤ max n (k + 1 + m) := Nat.le_max_right _ _
  show max left.height right.height + 1 ≤ _ * (_ + closing _) + (k + 1) ∧
    max left.height right.height + 1 ≤ _ * (_ + 1)
  rw [closing_append last]
  generalize resumptions (ts ++ .word w :: (ms ++ us)) = total at joined ⊢
  generalize max n (k + 1 + m) = room at fitsLeft fitsRight ⊢
  have leftOpen : left.height ≤ room * total + k := le_room openLeft fitsLeft (by omega)
  refine ⟨?_, ?_⟩
  · have more : room * total ≤ room * (total + closing us) :=
      Nat.mul_le_mul_left room (Nat.le_add_right _ _)
    have rightOpen : right.height ≤ room * (total + closing us) :=
      le_room (k := 0) openRight (by omega) (by omega)
    omega
  · have rightClosed : right.height + 1 ≤ room * (total + 1) :=
      succ_le_room closedRight (by omega) (by omega)
    rw [Nat.mul_succ] at rightClosed ⊢
    omega

theorem heightResumes_of_derives {kind : Kind} {n : Nat} {ts : List Token} {q : Query}
    (derives : Derives kind n ts q) : HeightResumes kind n ts q := by
  induction derives with
  | clause stated => exact ⟨Nat.zero_le _, Nat.zero_le _⟩
  | @parens n ts q inside ih =>
      have within := le_resumptions_parens ts
      have fits : q.height ≤
          (n + 1) * (resumptions (.openParen :: (ts ++ [.closeParen])) + 1) :=
        le_room (k := 0) ih (Nat.le_succ n) (Nat.succ_le_succ within)
      refine ⟨?_, fits⟩
      rw [closing_parens]
      exact fits
  | operand first ih => exact ih
  | operator before isOperator modified last ihl ihr =>
      refine heightResumes_operator _ _ ?_ last ihl ihr
      show (BooleanOp.ofWord? _).isSome = true
      rw [BooleanOp.ofWord?_eq_some.mpr isOperator]
      rfl
  | chain whole ih | unsorted whole ih => exact ih.2
  | @sorted k n ts ks q w key keys whole isSort sorting ih =>
      have within := le_resumptions_append ts (.word w :: ks)
      have more : resumptions ts + 1 ≤ resumptions (ts ++ .word w :: ks) + 1 := by omega
      exact le_room (k := 0) ih.2 (Nat.le_refl n) more
  | @declared n as ts name uri q assigns inside ih
  | @declaredSorted n as ts name uri q assigns inside ih =>
      have within := le_resumptions_append as ts
      exact succ_le_room ih (Nat.le_refl _) (by omega)

/-! ## Trees that are as high -/

/-- The operators of a chain after its first operand, all `and`, with the shortest operands. -/
def ands : Nat → String
  | 0 => ""
  | k + 1 => " and a" ++ ands k

/-- A text with a chain in each of `n` levels, all but the last as the first operand of another. -/
def tower : Nat → String
  | 0 => "a"
  | n + 1 => "(" ++ tower n ++ ")" ++ ands (n + 1)

theorem endsWord_ands (k : Nat) {more : List Char} (ends : EndsWord more) :
    EndsWord ((ands k).toList ++ more) := by
  cases k with
  | zero => exact ends
  | succ k =>
      rw [ands, String.toList_append]
      exact endsWord_cons rfl

theorem isBareWord_a : IsBareWord "a" := ⟨by decide, rfl⟩

/-- A chain goes on with any number of operators, each of which makes its tree higher. -/
theorem derives_ands (j : Nat) {k n : Nat} {ts : List Token} {q : Query}
    (derives : Derives (.scopedClause k) n ts q) :
    ∃ us r, Writes (ands j) us ∧ Derives (.scopedClause (k + j)) (max n (k + j)) (ts ++ us) r ∧
      r.height = q.height + j := by
  induction j generalizing k n ts q with
  | zero =>
      refine ⟨[], q, fun more us _ _ splits => splits, ?_, rfl⟩
      rw [Nat.add_zero, Nat.max_eq_left derives.operators_le, List.append_nil]
      exact derives
  | succ j ih =>
      have isAnd : Text.foldCase "and" = BooleanOp.keyword .and := foldCase_keyword .and
      have longer := derives.operator isAnd .none (.clause (.alone (t := .word "a") rfl))
      obtain ⟨us, r, writes, derivesAll, height⟩ := ih longer
      refine ⟨.word "and" :: .word "a" :: us, r, ?_, ?_, ?_⟩
      · intro more vs endsWord endsSign splits
        have characters : (ands (j + 1)).toList ++ more =
            ' ' :: ("and".toList ++ ' ' :: ("a".toList ++ ((ands j).toList ++ more))) := by
          rw [ands, String.toList_append]
          rfl
        have bareAnd : IsBareWord "and" := ⟨by decide, rfl⟩
        rw [characters]
        exact splits_space (splits_word bareAnd (endsWord_cons rfl) (splits_space
          (splits_word isBareWord_a (endsWord_ands j endsWord) (writes endsWord endsSign splits))))
      · rw [show k + (j + 1) = k + 1 + j by omega]
        rw [show max n (k + 1 + j) = max (max n (k + 1 + 0)) (k + 1 + j) by omega]
        simpa using derivesAll
      · rw [height, Query.height, Query.height]
        omega

/-- A chain between parentheses is the first operand of another. -/
theorem derives_above (j : Nat) {text : String} {k n : Nat} {ts : List Token} {q : Query}
    (writes : Writes text ts) (derives : Derives (.scopedClause k) n ts q) :
    ∃ us r, Writes ("(" ++ text ++ ")" ++ ands j) us ∧
      Derives (.scopedClause j) (max (n + 1) j) us r ∧ r.height = q.height + j := by
  obtain ⟨us, r, writesMore, derivesAll, higher⟩ :=
    derives_ands j (.operand (.parens (.chain derives)))
  refine ⟨.openParen :: (ts ++ [.closeParen]) ++ us, r, ?_, ?_, higher⟩
  · intro more vs endsWord endsSign splits
    have characters : ("(" ++ text ++ ")" ++ ands j).toList ++ more =
        '(' :: (text.toList ++ ')' :: ((ands j).toList ++ more)) := by
      simp
    have inside := writes (endsWord_cons rfl) (endsSign_cons (by decide) (by decide))
      (splits_close (writesMore endsWord endsSign splits))
    rw [characters]
    simpa using splits_open inside
  · rwa [Nat.zero_add] at derivesAll

theorem derives_tower (n : Nat) : ∃ k ts q, Writes (tower n) ts ∧
    Derives (.scopedClause k) n ts q ∧ q.height = tallest n := by
  induction n with
  | zero =>
      refine ⟨0, [.word "a"], _, ?_, .operand (.clause (.alone rfl)), rfl⟩
      exact fun more us endsWord _ splits => splits_word isBareWord_a endsWord splits
  | succ n ih =>
      obtain ⟨k, ts, q, writes, derives, height⟩ := ih
      obtain ⟨us, r, writesAll, derivesAll, higher⟩ := derives_above (n + 1) writes derives
      rw [Nat.max_self] at derivesAll
      refine ⟨n + 1, us, r, writesAll, derivesAll, ?_⟩
      rw [higher, height, tallest]

theorem parse_of_writes {text : String} {k n : Nat} {ts : List Token} {q : Query}
    (writes : Writes text ts) (derives : Derives (.scopedClause k) n ts q) (fits : n ≤ maxDepth) :
    parse text = .ok q :=
  parse_of_splits writes.splits (.unsorted derives) fits

theorem height_le_tallest_of_parse {s : String} {q : Query} (parsed : parse s = .ok q) :
    q.height ≤ maxDepth * (maxDepth + 1) / 2 := by
  obtain ⟨_, n, fits, derives⟩ := parse_eq_ok_iff_derives.mp parsed
  have bound : q.height ≤ tallest n := heightFits_of_derives derives
  have more := tallest_step fits
  rw [← tallest_eq]
  omega

/-- The highest trees of accepted texts have `maxDepth` chains one above the other. -/
theorem height_of_parse_isGreatest :
    IsGreatest {h | ∃ s q, parse s = .ok q ∧ q.height = h} (maxDepth * (maxDepth + 1) / 2) := by
  refine ⟨?_, ?_⟩
  · obtain ⟨k, ts, q, writes, derives, height⟩ := derives_tower maxDepth
    refine ⟨tower maxDepth, q, parse_of_writes writes derives (Nat.le_refl _), ?_⟩
    rw [height, tallest_eq]
  · rintro h ⟨s, q, parsed, rfl⟩
    exact height_le_tallest_of_parse parsed

/-- **Height.** Where no operator comes right after a closing parenthesis, the tree of an accepted
text is at most `maxDepth` high, and each such operator can make it higher by that much at most. In
all it is never higher than `maxDepth` chains one above the other, and on each path at most `maxDepth`
declarations and right operands are passed. -/
theorem height_of_parse_le (s : String) (q : Query) (parsed : parse s = .ok q) :
    q.height ≤ maxDepth * (resumptions (tokens (lex s).lexemes) + 1) ∧
    q.height ≤ maxDepth * (maxDepth + 1) / 2 ∧ q.turns ≤ maxDepth := by
  refine ⟨?_, height_le_tallest_of_parse parsed, ?_⟩
  · obtain ⟨_, n, fits, derives⟩ := parse_eq_ok_iff_derives.mp parsed
    have bound := heightResumes_of_derives derives
    exact Nat.le_trans bound (Nat.mul_le_mul_right _ fits)
  · obtain ⟨_, n, fits, derives⟩ := parse_eq_ok_iff_derives.mp parsed
    exact Nat.le_trans (turns_le_of_derives derives) fits

/-- In this text the chain between parentheses is the last operand. -/
theorem height_of_parse_le_nested :
    parse "a and (b or c)" = .ok (.boolean .and [] (.clause (.ofTerm "a"))
      (.boolean .or [] (.clause (.ofTerm "b")) (.clause (.ofTerm "c")))) ∧
    resumptions (tokens (lex "a and (b or c)").lexemes) = 0 ∧
    height (.boolean .and [] (.clause (.ofTerm "a"))
      (.boolean .or [] (.clause (.ofTerm "b")) (.clause (.ofTerm "c")))) ≤
        maxDepth * (resumptions (tokens (lex "a and (b or c)").lexemes) + 1) ∧
    height (.boolean .and [] (.clause (.ofTerm "a"))
      (.boolean .or [] (.clause (.ofTerm "b")) (.clause (.ofTerm "c")))) ≤
        maxDepth * (maxDepth + 1) / 2 ∧
    turns (.boolean .and [] (.clause (.ofTerm "a"))
      (.boolean .or [] (.clause (.ofTerm "b")) (.clause (.ofTerm "c")))) ≤ maxDepth := by
  have parsed : parse "a and (b or c)" = .ok (.boolean .and [] (.clause (.ofTerm "a"))
      (.boolean .or [] (.clause (.ofTerm "b")) (.clause (.ofTerm "c")))) := by
    cbv
  exact ⟨parsed, by cbv, height_of_parse_le _ _ parsed⟩

/-- With two clauses between parentheses for its first operand, a chain of `maxDepth` operators is
higher than that already. -/
theorem parse_higher_than_maxDepth :
    ∃ q, parse ("(" ++ tower 1 ++ ")" ++ ands 256) = .ok q ∧ q.height = 257 := by
  obtain ⟨k, ts, q, writes, derives, height⟩ := derives_tower 1
  obtain ⟨us, r, writesAll, derivesAll, higher⟩ := derives_above 256 writes derives
  refine ⟨r, parse_of_writes writesAll derivesAll (by decide), ?_⟩
  rw [higher, height]
  rfl

end Query

end ContextQuery
