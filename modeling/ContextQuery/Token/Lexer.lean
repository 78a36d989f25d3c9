import ContextQuery.Text.Blank
import ContextQuery.Token

/-!
# Splitting a query text into tokens

`lex` cuts a text into tokens, each with the byte offset at which it starts. Blank characters only
separate. The one thing that can go wrong is a quoted string without its closing quote; the tokens
before it are kept, so that a reader of tokens meets the fault where it comes to it.
-/

namespace ContextQuery

/-- A token and the byte offset of its first character. -/
structure Lexeme where
  token : Token
  start : Nat
  deriving DecidableEq, Repr

/-- How the tokens of a text end: at the end of the text, or at the opening quote of a string that
is never closed. Either way with the byte offset. -/
inductive Ending where
  | finished (position : Nat)
  | unterminated (position : Nat)
  deriving DecidableEq, Repr

/-- A text as tokens. -/
structure Scan where
  lexemes : List Lexeme
  ending : Ending
  deriving DecidableEq, Repr

namespace Lexer

/-- The characters that end a bare word, blanks apart. -/
def isBreak (c : Char) : Bool :=
  c == '(' || c == ')' || c == '=' || c == '<' || c == '>' || c == '"' || c == '/'

/-- A character that may stand in a bare word. -/
def isBare (c : Char) : Bool :=
  !Text.isBlank c && !isBreak c

/-- The text up to the quote that closes it, and what follows that quote. A backslash keeps the
character after it from closing the text; both stay in it. -/
def splitQuoted : List Char → Option (List Char × List Char)
  | [] => none
  | '"' :: rest => some ([], rest)
  | '\\' :: c :: rest => (splitQuoted rest).map fun (inside, after) => ('\\' :: c :: inside, after)
  | c :: rest => (splitQuoted rest).map fun (inside, after) => (c :: inside, after)

/-- The token that starts with the character `c`, which is not blank, and the characters after it;
`none` if it is a quoted string that is never closed. Comparison signs are as long as can be. -/
def readToken (c : Char) (rest : List Char) : Option (Token × List Char) :=
  match c with
  | '(' => some (.openParen, rest)
  | ')' => some (.closeParen, rest)
  | '/' => some (.slash, rest)
  | '=' =>
    match rest with
    | '=' :: rest => some (.comparison .exact, rest)
    | rest => some (.comparison .equal, rest)
  | '<' =>
    match rest with
    | '=' :: rest => some (.comparison .atMost, rest)
    | '>' :: rest => some (.comparison .different, rest)
    | rest => some (.comparison .less, rest)
  | '>' =>
    match rest with
    | '=' :: rest => some (.comparison .atLeast, rest)
    | rest => some (.comparison .greater, rest)
  | '"' => (splitQuoted rest).map fun (inside, after) => (.quoted (String.ofList inside), after)
  | c => some (.word (String.ofList (c :: rest.takeWhile isBare)), rest.dropWhile isBare)

theorem length_of_splitQuoted {cs inside rest : List Char}
    (h : splitQuoted cs = some (inside, rest)) : rest.length < cs.length := by
  fun_induction splitQuoted cs generalizing inside rest with
  | case1 => simp at h
  | case2 => simp_all
  | case3 c r ih =>
    obtain ⟨⟨i, r'⟩, hr, he⟩ := Option.map_eq_some_iff.1 h
    have := ih hr
    simp only [Prod.mk.injEq] at he
    simp only [List.length_cons, ← he.2]
    omega
  | case4 c r _ _ ih =>
    obtain ⟨⟨i, r'⟩, hr, he⟩ := Option.map_eq_some_iff.1 h
    have := ih hr
    simp only [Prod.mk.injEq] at he
    simp only [List.length_cons, ← he.2]
    omega

/-- A token leaves fewer characters than there were with its first. -/
theorem length_of_readToken {c : Char} {cs rest : List Char} {t : Token}
    (h : readToken c cs = some (t, rest)) : rest.length ≤ cs.length := by
  unfold readToken at h
  split at h <;> try (split at h)
  all_goals try (simp only [Option.some.injEq, Prod.mk.injEq] at h; obtain ⟨-, rfl⟩ := h)
  all_goals try simp
  · obtain ⟨⟨i, r'⟩, hr, he⟩ := Option.map_eq_some_iff.1 h
    have := length_of_splitQuoted hr
    simp only [Prod.mk.injEq] at he
    simp only [← he.2]
    omega
  · exact (List.dropWhile_sublist _).length_le

/-- The tokens of the characters, the first of which has the byte offset `position`. -/
def lexFrom (position : Nat) (cs : List Char) : Scan :=
  let start := position + Text.utf8Length (cs.takeWhile Text.isBlank)
  match _ : cs.dropWhile Text.isBlank with
  | [] => ⟨[], .finished start⟩
  | c :: rest =>
    match _ : readToken c rest with
    | none => ⟨[], .unterminated start⟩
    | some (t, rest') =>
      let scan := lexFrom (start + Text.utf8Length t.source) rest'
      ⟨⟨t, start⟩ :: scan.lexemes, scan.ending⟩
termination_by cs.length
decreasing_by
  have h₁ := (List.dropWhile_sublist (l := cs) Text.isBlank).length_le
  have h₂ := length_of_readToken ‹readToken c rest = some (t, rest')›
  rw [‹cs.dropWhile Text.isBlank = c :: rest›, List.length_cons] at h₁
  omega

end Lexer

/-- The tokens of a query text. -/
def lex (s : String) : Scan :=
  Lexer.lexFrom 0 s.toList

end ContextQuery
