import ContextQuery.Proofs.Query.Grammar

/-!
# Parentheses

Parentheses pair up in the tokens of every query (`Derives.paired`), since only the rule for a query
between parentheses admits them. So the parenthesis that closes a query is the first one that can
(`Paired.close_unique`): nothing that stands between two that pair up can reach beyond them.
-/

namespace ContextQuery.Grammar

/-! ## Counting -/

/-- How many parentheses are open after a token; `none` if it closes one that was not open. -/
def openAfterToken : Nat → Token → Option Nat
  | n, .openParen => some (n + 1)
  | 0, .closeParen => none
  | n + 1, .closeParen => some n
  | n, _ => some n

/-- How many parentheses are open after some tokens where `n` are open before them; `none` if one is
closed that was not open. -/
def openAfter (n : Nat) (ts : List Token) : Option Nat :=
  ts.foldlM openAfterToken n

/-- Each parenthesis pairs up with another. -/
def Paired (ts : List Token) : Prop :=
  openAfter 0 ts = some 0

theorem openAfter_cons (n : Nat) (t : Token) (ts : List Token) :
    openAfter n (t :: ts) = (openAfterToken n t).bind fun k => openAfter k ts :=
  List.foldlM_cons

theorem openAfter_append (n : Nat) (ts us : List Token) :
    openAfter n (ts ++ us) = (openAfter n ts).bind fun k => openAfter k us :=
  List.foldlM_append

theorem openAfter_openParen (n : Nat) (ts : List Token) :
    openAfter n (.openParen :: ts) = openAfter (n + 1) ts := rfl

/-- A token that is no parenthesis does not count. -/
theorem openAfter_plain {t : Token} (noOpen : t ≠ .openParen) (noClose : t ≠ .closeParen) (n : Nat)
    (ts : List Token) : openAfter n (t :: ts) = openAfter n ts := by
  cases t with
  | openParen => exact absurd rfl noOpen
  | closeParen => exact absurd rfl noClose
  | slash | comparison sign | word w | quoted s => cases n <;> rfl

/-- More open parentheses before are as many more after. -/
theorem openAfter_add {n k : Nat} {ts : List Token} (m : Nat) (counted : openAfter n ts = some k) :
    openAfter (n + m) ts = some (k + m) := by
  have token {n k : Nat} {t : Token} (counted : openAfterToken n t = some k) :
      openAfterToken (n + m) t = some (k + m) := by
    cases t with
    | openParen =>
        cases counted
        show some (n + m + 1) = some (n + 1 + m)
        rw [Nat.add_right_comm]
    | closeParen =>
        cases n with
        | zero => cases counted
        | succ n =>
            cases counted
            rw [Nat.add_right_comm]
            rfl
    | slash | comparison sign | word w | quoted s =>
        cases n <;> cases counted <;> simp [openAfterToken]
  induction ts generalizing n with
  | nil =>
      cases counted
      rfl
  | cons t ts ih =>
      rw [openAfter_cons] at counted
      obtain ⟨between, first, rest⟩ := Option.bind_eq_some_iff.mp counted
      rw [openAfter_cons, token first]
      exact ih rest

/-- Between parentheses, what tokens leave open is open after. -/
theorem openAfter_parens {j : Nat} {ts : List Token} (counted : openAfter 0 ts = some j) (n : Nat)
    (rest : List Token) :
    openAfter n (.openParen :: (ts ++ .closeParen :: rest)) = openAfter (n + j) rest := by
  have shifted := openAfter_add (n + 1) counted
  rw [Nat.zero_add] at shifted
  rw [openAfter_openParen, openAfter_append, shifted, Nat.add_comm n j]
  rfl

/-! ## Paired tokens -/

/-- Paired tokens leave as many parentheses open as were open before them. -/
theorem Paired.openAfter {ts : List Token} (paired : Paired ts) (n : Nat) :
    openAfter n ts = some n := by
  have counted := openAfter_add n paired
  rwa [Nat.zero_add] at counted

theorem paired_nil : Paired [] := rfl

theorem Paired.append {ts us : List Token} (front : Paired ts) (back : Paired us) :
    Paired (ts ++ us) := by
  unfold Paired
  rw [openAfter_append, front.openAfter 0]
  exact back

theorem Paired.parens {ts : List Token} (inside : Paired ts) :
    Paired (.openParen :: (ts ++ [.closeParen])) := by
  unfold Paired
  rw [openAfter_parens inside]
  rfl

theorem Paired.cons {t : Token} {ts : List Token} (noOpen : t ≠ .openParen)
    (noClose : t ≠ .closeParen) (rest : Paired ts) : Paired (t :: ts) := by
  unfold Paired
  rw [openAfter_plain noOpen noClose]
  exact rest

/-- A name or a string is no parenthesis. -/
theorem Paired.symbol {t : Token} {s : String} {ts : List Token} (isSymbol : t.symbol? = some s)
    (rest : Paired ts) : Paired (t :: ts) := by
  refine rest.cons ?_ ?_
  · rintro rfl
    cases isSymbol
  · rintro rfl
    cases isSymbol

/-- Paired tokens end at the first parenthesis that closes none of theirs. -/
theorem Paired.close_unique {ts us ts' us' : List Token} (first : Paired ts)
    (second : Paired ts') (same : ts ++ .closeParen :: us = ts' ++ .closeParen :: us') :
    ts = ts' ∧ us = us' := by
  -- if one were longer, it would close a parenthesis that is not open
  have noLonger {ts ts' more : List Token} (first : Paired ts) (second : Paired ts')
      (longer : ts' = ts ++ .closeParen :: more) : False := by
    rw [longer, Paired, openAfter_append, first.openAfter 0] at second
    cases second
  -- one of the two is a front of the other, with nothing or with the parenthesis after it
  rcases List.append_eq_append_iff.mp same with ⟨more, longer, rest⟩ | ⟨more, longer, rest⟩
  · cases more with
    | nil =>
        cases rest
        exact ⟨by rw [longer, List.append_nil], rfl⟩
    | cons t more =>
        cases rest
        exact (noLonger first second longer).elim
  · cases more with
    | nil =>
        cases rest
        exact ⟨by rw [longer, List.append_nil], rfl⟩
    | cons t more =>
        cases rest
        exact (noLonger second first longer).elim

/-! ## Queries -/

theorem Modifiers.paired {ts : List Token} {ms : List Modifier} (modified : Modifiers ts ms) :
    Paired ts := by
  induction modified with
  | none => exact paired_nil
  | named isName more ih => exact .cons nofun nofun (.symbol isName ih)
  | valued isName isValue more ih =>
      exact .cons nofun nofun (.symbol isName (.cons nofun nofun (.symbol isValue ih)))

theorem Term.paired {ts : List Token} {s : String} (isTerm : Term ts s) : Paired ts := by
  cases isTerm with
  | quoted s => exact paired_nil.cons nofun nofun
  | words w ws free =>
      refine .cons nofun nofun ?_
      clear free
      induction ws with
      | nil => exact paired_nil
      | cons v vs ih => exact ih.cons nofun nofun

/-- A clause holds no parentheses. -/
theorem Says.paired {ts : List Token} {c : Clause} (stated : Says ts c) : Paired ts := by
  cases stated with
  | alone isTerm => exact paired_nil.symbol isTerm
  | inFull isIndex isBase modified isTerm =>
      have rest := modified.paired.append isTerm.paired
      cases isBase with
      | sign sign => exact .symbol isIndex (rest.cons nofun nofun)
      | named w free => exact .symbol isIndex (rest.cons nofun nofun)

theorem Assigns.paired {as : List Token} {name : Option String} {uri : String}
    (assigns : Assigns as name uri) : Paired as := by
  cases assigns with
  | named isName isUri =>
      exact .cons nofun nofun (.symbol isName (.cons nofun nofun (paired_nil.symbol isUri)))
  | bare isUri => exact .cons nofun nofun (paired_nil.symbol isUri)

theorem Keys.paired {ts : List Token} {keys : List SortKey} (areKeys : Keys ts keys) :
    Paired ts := by
  induction areKeys with
  | none => exact paired_nil
  | key isBase modified more ih => exact .symbol isBase (modified.paired.append ih)

/-- The parentheses of a query pair up. -/
theorem Derives.paired {kind : Kind} {n : Nat} {ts : List Token} {q : Query}
    (derives : Derives kind n ts q) : Paired ts := by
  induction derives with
  | clause stated => exact stated.paired
  | parens inside ih => exact ih.parens
  | operand first ih => exact ih
  | operator before isOperator modified last ihBefore ihLast =>
      exact ihBefore.append (.cons nofun nofun (modified.paired.append ihLast))
  | chain whole ih | unsorted whole ih => exact ih
  | declared assigns inside ih | declaredSorted assigns inside ih =>
      exact assigns.paired.append ih
  | sorted whole isSort sorting ih => exact ih.append (.cons nofun nofun sorting.paired)

end ContextQuery.Grammar
