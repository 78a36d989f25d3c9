import ContextQuery.Query.Basic
import ContextQuery.Token.Lexer

/-!
# Reading a query

`Query.parse` reads a query text by recursive descent with one token of lookahead:

    sortedQuery   = prefixAssign sortedQuery | scopedClause ["sortby" 1*sortKey]
    query         = prefixAssign query | scopedClause
    scopedClause  = searchClause *(boolean [modifiers] searchClause)
    searchClause  = "(" query ")" | index relation [modifiers] term | term
    relation      = comparison sign | word that is not reserved
    modifiers     = 1*("/" name [comparison value])
    prefixAssign  = ">" name "=" uri | ">" uri
    sortKey       = index [modifiers]

Boolean operators have one precedence and group to the left. A tree has at most `maxDepth` levels:
the readers carry the room that is left, and a parenthesis, a namespace declaration and each operator
of a chain take one level of it. That room is also what makes the reading end.
-/

namespace ContextQuery

/-- What a reader looked for. -/
inductive Expectation where
  | sortIndex
  | namespaceNameOrUri
  | namespaceUri
  | indexOrTerm
  | searchTerm
  | modifierName
  | modifierValue
  | closeParen
  | operatorOrSort
  deriving DecidableEq, Repr

/-- How a message names what was looked for. -/
def Expectation.describe : Expectation → String
  | .sortIndex => "sort index"
  | .namespaceNameOrUri => "prefix name or uri"
  | .namespaceUri => "prefix uri"
  | .indexOrTerm => "index or term"
  | .searchTerm => "search term"
  | .modifierName => "modifier name"
  | .modifierValue => "modifier value"
  | .closeParen => "\")\""
  | .operatorOrSort => "boolean or sortby"

/-- Why a text is not a query. `found` is `none` at the end of the text. -/
inductive ParseFault where
  | unterminated
  | tooDeep
  | expected (what : Expectation) (found : Option Token)
  deriving DecidableEq, Repr

/-- A fault and the byte offset at which it was noticed. -/
structure ParseError where
  fault : ParseFault
  position : Nat
  deriving DecidableEq, Repr

/-- The wording of a fault. -/
def ParseFault.message : ParseFault → String
  | .unterminated => "unterminated quoted string"
  | .tooDeep => "query too deeply nested"
  | .expected what found =>
    "expected " ++ what.describe ++ ", got " ++
      match found with
      | some t => t.describe
      | none => "EOF"

/-- The wording of an error; the position is told apart from it. -/
def ParseError.message (e : ParseError) : String :=
  e.fault.message

/-- The most levels that a tree may have. -/
def maxDepth : Nat :=
  256

namespace Parser

/-- The error of a reader that looked for something and has these tokens before it. -/
def unexpected (ending : Ending) (what : Expectation) : List Lexeme → ParseError
  | l :: _ => ⟨.expected what (some l.token), l.start⟩
  | [] =>
    match ending with
    | .finished position => ⟨.expected what none, position⟩
    | .unterminated position => ⟨.unterminated, position⟩

/-- The error for `found`, which was taken for a term: it is placed where the next token starts,
unless that token is a string that is never closed. -/
def notATerm (ending : Ending) (found : Token) : List Lexeme → ParseError
  | l :: _ => ⟨.expected .searchTerm (some found), l.start⟩
  | [] =>
    match ending with
    | .finished position => ⟨.expected .searchTerm (some found), position⟩
    | .unterminated position => ⟨.unterminated, position⟩

variable (ending : Ending)

/-! ## Names, modifiers, terms -/

/-- A word, reserved or not, or a quoted string. -/
def symbol (what : Expectation) (ls : List Lexeme) : Except ParseError (String × List Lexeme) :=
  match ls with
  | ⟨.word s, _⟩ :: rest => .ok (s, rest)
  | ⟨.quoted s, _⟩ :: rest => .ok (s, rest)
  | ls => .error (unexpected ending what ls)

theorem length_of_symbol {what : Expectation} {ls rest : List Lexeme} {s : String}
    (h : symbol ending what ls = .ok (s, rest)) : rest.length < ls.length := by
  unfold symbol at h
  split at h <;> simp_all

/-- What follows the slash of a modifier. -/
def modifier (ls : List Lexeme) : Except ParseError (Modifier × List Lexeme) := do
  let (name, ls) ← symbol ending .modifierName ls
  match ls with
  | ⟨.comparison sign, _⟩ :: ls =>
    let (value, ls) ← symbol ending .modifierValue ls
    return (⟨name, some sign.symbol, some value⟩, ls)
  | ls => return (⟨name, none, none⟩, ls)

theorem length_of_modifier {ls rest : List Lexeme} {m : Modifier}
    (h : modifier ending ls = .ok (m, rest)) : rest.length < ls.length := by
  unfold modifier at h
  cases hn : symbol ending .modifierName ls with
  | error e => simp [hn, bind, Except.bind] at h
  | ok p =>
    have h₁ := length_of_symbol ending hn
    simp only [hn, bind, Except.bind] at h
    split at h
    · next sign _ r hr =>
      cases hv : symbol ending .modifierValue r with
      | error e => simp [hv] at h
      | ok q =>
        have h₂ := length_of_symbol ending hv
        simp only [hv, pure, Except.pure, Except.ok.injEq, Prod.mk.injEq] at h
        rw [hr, List.length_cons] at h₁
        rw [← h.2]
        omega
    · simp only [pure, Except.pure, Except.ok.injEq, Prod.mk.injEq] at h
      rw [← h.2]
      exact h₁

/-- All modifiers that come next. -/
def modifiers (ls : List Lexeme) : Except ParseError (List Modifier × List Lexeme) :=
  match ls with
  | ⟨.slash, _⟩ :: rest =>
    match _ : modifier ending rest with
    | .error e => .error e
    | .ok (m, rest') =>
      match modifiers rest' with
      | .error e => .error e
      | .ok (ms, after) => .ok (m :: ms, after)
  | ls => .ok ([], ls)
termination_by ls.length
decreasing_by
  have := length_of_modifier ending ‹modifier ending rest = .ok (m, rest')›
  simp only [List.length_cons]
  omega

theorem length_of_modifiers {ls rest : List Lexeme} {ms : List Modifier}
    (h : modifiers ending ls = .ok (ms, rest)) : rest.length ≤ ls.length := by
  fun_induction modifiers ending ls generalizing ms rest with
  | case1 => simp at h
  | case2 => simp at h
  | case3 start rest₀ m rest' hm ms' after hms ih =>
    have h₁ := length_of_modifier ending hm
    have h₂ := ih hms
    simp only [Except.ok.injEq, Prod.mk.injEq] at h
    rw [← h.2, List.length_cons]
    omega
  | case4 => simp_all

/-- The words that come next, up to a reserved one. -/
def phrase : List Lexeme → List String × List Lexeme
  | ⟨.word w, start⟩ :: rest =>
    if isReserved w then ([], ⟨.word w, start⟩ :: rest)
    else ((w :: (phrase rest).1), (phrase rest).2)
  | ls => ([], ls)

/-- Words with one space between neighbours. -/
def joinWords (first : String) : List String → String
  | [] => first
  | w :: ws => first ++ " " ++ joinWords w ws

/-- The term of a clause: a quoted string, or a word, even a reserved one, and the words after it. -/
def term (ls : List Lexeme) : Except ParseError (String × List Lexeme) :=
  match ls with
  | ⟨.quoted s, _⟩ :: rest => .ok (s, rest)
  | ⟨.word w, _⟩ :: rest => .ok (joinWords w (phrase rest).1, (phrase rest).2)
  | l :: rest => .error (notATerm ending l.token rest)
  | [] => .error (unexpected ending .searchTerm [])

/-- The base of the relation that comes next, if one does. Named relations are written small. -/
def relationBase? : List Lexeme → Option (String × List Lexeme)
  | ⟨.comparison sign, _⟩ :: rest => some (sign.symbol, rest)
  | ⟨.word w, _⟩ :: rest => if isReserved w then none else some (Text.foldCase w, rest)
  | _ => none

/-- The boolean operator that comes next, if one does, and where. -/
def operator? : List Lexeme → Option (BooleanOp × Nat × List Lexeme)
  | ⟨.word w, start⟩ :: rest => (BooleanOp.ofWord? w).map fun op => (op, start, rest)
  | _ => none

/-- A clause: a term alone, or an index with relation and term. -/
def clause (ls : List Lexeme) : Except ParseError (Clause × List Lexeme) := do
  let (first, ls) ← symbol ending .indexOrTerm ls
  match relationBase? ls with
  | none => return (Clause.ofTerm first, ls)
  | some (base, ls) =>
    let (ms, ls) ← modifiers ending ls
    let (text, ls) ← term ending ls
    return (⟨first, ⟨base, ms⟩, text⟩, ls)

/-- What follows the sign of a namespace declaration: the name if it has one, and the URI. -/
def assignment (ls : List Lexeme) :
    Except ParseError ((Option String × String) × List Lexeme) := do
  let (first, ls) ← symbol ending .namespaceNameOrUri ls
  match ls with
  | ⟨.comparison .equal, _⟩ :: ls =>
    let (uri, ls) ← symbol ending .namespaceUri ls
    return ((some first, uri), ls)
  | ls => return ((none, first), ls)

/-! ## Queries -/

mutual

/-- A query as it stands between parentheses. -/
def query (room : Nat) (ls : List Lexeme) : Except ParseError (Query × List Lexeme) :=
  match ls with
  | ⟨.comparison .greater, start⟩ :: rest =>
    match room with
    | 0 => .error ⟨.tooDeep, start⟩
    | room + 1 => do
      let ((name, uri), rest) ← assignment ending rest
      let (subtree, rest) ← query room rest
      return (.scoped name uri subtree, rest)
  | ls => do
    let (first, rest) ← searchClause room ls
    chain room first rest
termination_by (room, 2)

/-- A clause, or a query between parentheses. -/
def searchClause (room : Nat) (ls : List Lexeme) : Except ParseError (Query × List Lexeme) :=
  match ls with
  | ⟨.openParen, start⟩ :: rest =>
    match room with
    | 0 => .error ⟨.tooDeep, start⟩
    | room + 1 => do
      let (inner, rest) ← query room rest
      match rest with
      | ⟨.closeParen, _⟩ :: rest => return (inner, rest)
      | rest => throw (unexpected ending .closeParen rest)
  | ls => do
    let (c, rest) ← clause ending ls
    return (.clause c, rest)
termination_by (room, 1)

/-- The operators and operands that follow `left`, folded to the left. -/
def chain (room : Nat) (left : Query) (ls : List Lexeme) :
    Except ParseError (Query × List Lexeme) :=
  match operator? ls with
  | none => .ok (left, ls)
  | some (op, start, rest) =>
    match room with
    | 0 => .error ⟨.tooDeep, start⟩
    | room + 1 => do
      let (ms, rest) ← modifiers ending rest
      let (right, rest) ← searchClause room rest
      chain room (.boolean op ms left right) rest
termination_by (room, 0)

end

/-- The sort keys that come next, as many as there are. -/
def sortKeys (ls : List Lexeme) : Except ParseError (List SortKey × List Lexeme) :=
  match ls with
  | [] => .ok ([], [])
  | l :: rest =>
    match l.token.symbol? with
    | none => .ok ([], l :: rest)
    | some base =>
      match _ : modifiers ending rest with
      | .error e => .error e
      | .ok (ms, rest') =>
        match sortKeys rest' with
        | .error e => .error e
        | .ok (keys, after) => .ok (⟨base, ms⟩ :: keys, after)
termination_by ls.length
decreasing_by
  have := length_of_modifiers ending ‹modifiers ending rest = .ok (ms, rest')›
  simp only [List.length_cons]
  omega

/-- What may follow the query that a text holds: a sort. -/
def sorting (q : Query) (ls : List Lexeme) : Except ParseError (Query × List Lexeme) :=
  match ls with
  | [] => .ok (q, [])
  | l :: rest =>
    if l.token.isKeyword "sortby" then do
      match ← sortKeys ending rest with
      | ([], rest) => throw (unexpected ending .sortIndex rest)
      | (keys, rest) => return (.sorted q keys, rest)
    else .ok (q, l :: rest)

/-- A query with what may only stand around a whole text: after the namespace declarations that
open it, a sort. -/
def sortedQuery (room : Nat) (ls : List Lexeme) : Except ParseError (Query × List Lexeme) :=
  match ls with
  | ⟨.comparison .greater, start⟩ :: rest =>
    match room with
    | 0 => .error ⟨.tooDeep, start⟩
    | room + 1 => do
      let ((name, uri), rest) ← assignment ending rest
      let (subtree, rest) ← sortedQuery room rest
      return (.scoped name uri subtree, rest)
  | ls => do
    let (q, rest) ← query ending room ls
    sorting ending q rest

end Parser

/-- Reads a query text. -/
def Query.parse (s : String) : Except ParseError Query := do
  let scan := lex s
  let (q, rest) ← Parser.sortedQuery scan.ending maxDepth scan.lexemes
  match rest, scan.ending with
  | [], .finished _ => return q
  | rest, ending => throw (Parser.unexpected ending .operatorOrSort rest)

end ContextQuery
