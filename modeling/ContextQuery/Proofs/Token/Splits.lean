import ContextQuery.Token.Lexer

/-!
# Texts and their tokens

`Splits cs ts` says that the characters split into the tokens to their end, and leaves out where the
tokens start. It is what the lexer does, from any position on (`splits_iff_lexFrom`).
-/

namespace ContextQuery

/-- The tokens of some lexemes. -/
def tokens (ls : List Lexeme) : List Token :=
  ls.map Lexeme.token

@[simp] theorem tokens_nil : tokens [] = [] := rfl

@[simp] theorem tokens_cons (l : Lexeme) (ls : List Lexeme) :
    tokens (l :: ls) = l.token :: tokens ls := rfl

@[simp] theorem tokens_append (ls ls' : List Lexeme) :
    tokens (ls ++ ls') = tokens ls ++ tokens ls' :=
  List.map_append

theorem tokens_eq_nil {ls : List Lexeme} : tokens ls = [] ↔ ls = [] :=
  List.map_eq_nil_iff

theorem tokens_eq_cons {ls : List Lexeme} {t : Token} {ts : List Token} :
    tokens ls = t :: ts ↔ ∃ start rest, ls = ⟨t, start⟩ :: rest ∧ tokens rest = ts := by
  unfold tokens
  rw [List.map_eq_cons_iff]
  constructor
  · rintro ⟨⟨t, start⟩, rest, rfl, rfl, rfl⟩
    exact ⟨start, rest, rfl, rfl⟩
  · rintro ⟨start, rest, rfl, rfl⟩
    exact ⟨⟨t, start⟩, rest, rfl, rfl, rfl⟩

theorem tokens_eq_append {ls : List Lexeme} {ts ts' : List Token} :
    tokens ls = ts ++ ts' ↔
      ∃ front back, ls = front ++ back ∧ tokens front = ts ∧ tokens back = ts' :=
  List.map_eq_append_iff

/-! ## Splitting -/

/-- The characters split into the tokens to their end. -/
inductive Splits : List Char → List Token → Prop where
  | blank {cs : List Char} (rest : cs.dropWhile Text.isBlank = []) : Splits cs []
  | token {cs after rest : List Char} {c : Char} {t : Token} {ts : List Token}
      (start : cs.dropWhile Text.isBlank = c :: rest)
      (read : Lexer.readToken c rest = some (t, after)) (more : Splits after ts) :
      Splits cs (t :: ts)

/-- Splitting is what the lexer does, from any position on. -/
theorem splits_iff_lexFrom {cs : List Char} {ts : List Token} (position : Nat) :
    Splits cs ts ↔ (∃ p, (Lexer.lexFrom position cs).ending = .finished p) ∧
      tokens (Lexer.lexFrom position cs).lexemes = ts := by
  constructor
  · intro splits
    induction splits generalizing position with
    | blank rest =>
        rw [Lexer.lexFrom]
        split
        · exact ⟨⟨_, rfl⟩, rfl⟩
        · next start => rw [rest] at start; cases start
    | token start read more ih =>
        rw [Lexer.lexFrom]
        split
        · next rest => rw [start] at rest; cases rest
        · next start' =>
          rw [start] at start'
          cases start'
          split
          · next failed => rw [read] at failed; cases failed
          · next read' =>
            rw [read] at read'
            cases read'
            obtain ⟨⟨p, finished⟩, same⟩ := ih _
            exact ⟨⟨p, finished⟩, by rw [tokens_cons, same]⟩
  · -- the lexer stops without a token at the end of the text only, or at an open string
    rintro ⟨⟨p, finished⟩, rfl⟩
    fun_induction Lexer.lexFrom position cs with
    | case1 position cs place rest => exact .blank rest
    | case2 position cs place c rest start failed => cases finished
    | case3 position cs place c rest start t after read scan ih =>
        exact .token start read (ih finished)

/-- A text splits into the tokens that the lexer finds, if it comes to its end. -/
theorem splits_iff_lex {s : String} {ts : List Token} :
    Splits s.toList ts ↔ (∃ p, (lex s).ending = .finished p) ∧ tokens (lex s).lexemes = ts :=
  splits_iff_lexFrom 0

/-- Blanks in front make no difference. -/
theorem Splits.of_dropWhile {cs ds : List Char} {ts : List Token}
    (same : cs.dropWhile Text.isBlank = ds.dropWhile Text.isBlank) (splits : Splits cs ts) :
    Splits ds ts := by
  cases splits with
  | blank rest => exact .blank (same ▸ rest)
  | token start read more => exact .token (same ▸ start) read more

/-- A token does not start with a blank. -/
theorem isBlank_of_start {cs rest : List Char} {c : Char}
    (start : cs.dropWhile Text.isBlank = c :: rest) : Text.isBlank c = false := by
  have first := List.head?_dropWhile_not Text.isBlank cs
  rw [start] at first
  exact first

section

variable {cs : List Char} {ts : List Token}

theorem splits_space (splits : Splits cs ts) : Splits (' ' :: cs) ts := by
  have same : cs.dropWhile Text.isBlank = (' ' :: cs).dropWhile Text.isBlank := rfl
  exact splits.of_dropWhile same

theorem splits_open (splits : Splits cs ts) : Splits ('(' :: cs) (.openParen :: ts) :=
  .token rfl rfl splits

theorem splits_close (splits : Splits cs ts) : Splits (')' :: cs) (.closeParen :: ts) :=
  .token rfl rfl splits

theorem splits_slash (splits : Splits cs ts) : Splits ('/' :: cs) (.slash :: ts) :=
  .token rfl rfl splits

end

end ContextQuery
