import ContextQuery.Proofs.Token.Cursor

/-!
# Gaps and tokens

A text is gaps of blanks and tokens in turn, each token as it is written (`Divides`). There is one
way to divide it so that no token could be longer, and the lexer finds it (`divides_iff`): nothing
is passed over and nothing is read twice. What follows for every text, and for the cursor that keeps
a byte offset in it, is in `lex_divides`.
-/

namespace ContextQuery

/-- No quote of the characters closes a string that was opened before them. -/
def Unclosed (cs : List Char) : Prop :=
  ∀ inside after, cs = inside ++ '"' :: after → isQuotable inside = false

/-- The characters from the position on are gaps and tokens in turn. They end with a gap, or with a
string that is never closed. -/
inductive Divides : Nat → List Char → Scan → Prop where
  | finished {position : Nat} {gap : List Char} (blank : ∀ d ∈ gap, Text.isBlank d = true) :
      Divides position gap ⟨[], .finished (position + Text.utf8Length gap)⟩
  | unterminated {position : Nat} {gap rest : List Char}
      (blank : ∀ d ∈ gap, Text.isBlank d = true) (unclosed : Unclosed rest) :
      Divides position (gap ++ '"' :: rest) ⟨[], .unterminated (position + Text.utf8Length gap)⟩
  | token {position : Nat} {gap rest : List Char} {t : Token} {scan : Scan}
      (blank : ∀ d ∈ gap, Text.isBlank d = true) (proper : t.IsProper) (ends : t.EndsAt rest)
      (more : Divides (position + Text.utf8Length gap + Text.utf8Length t.source) rest scan) :
      Divides position (gap ++ (t.source ++ rest))
        ⟨⟨t, position + Text.utf8Length gap⟩ :: scan.lexemes, scan.ending⟩

namespace Lexer

/-! ## Steps of the lexer -/

theorem splitQuoted_eq_none {cs : List Char} : splitQuoted cs = none ↔ Unclosed cs := by
  constructor
  · rintro none inside after rfl
    refine Bool.eq_false_iff.mpr fun quotable => ?_
    rw [splitQuoted_of_isQuotable after quotable] at none
    cases none
  · intro unclosed
    refine Option.eq_none_iff_forall_ne_some.mpr ?_
    rintro ⟨inside, after⟩ split
    have quotable := isQuotable_of_splitQuoted split
    rw [unclosed inside after (eq_append_of_splitQuoted split)] at quotable
    cases quotable

/-- The one thing that is no token is a string that is never closed. -/
theorem readToken_eq_none {c : Char} {rest : List Char} :
    readToken c rest = none ↔ c = '"' ∧ Unclosed rest := by
  constructor
  · intro failed
    unfold readToken at failed
    split at failed
    · cases failed
    · cases failed
    · cases failed
    · split at failed <;> cases failed
    · split at failed <;> cases failed
    · split at failed <;> cases failed
    · exact ⟨rfl, splitQuoted_eq_none.mp (Option.map_eq_none_iff.mp failed)⟩
    · cases failed
  · rintro ⟨rfl, unclosed⟩
    show (splitQuoted rest).map _ = none
    rw [splitQuoted_eq_none.mpr unclosed]
    rfl

theorem lexFrom_unterminated {blanks rest : List Char}
    (blank : ∀ d ∈ blanks, Text.isBlank d = true) (unclosed : Unclosed rest) (position : Nat) :
    lexFrom position (blanks ++ '"' :: rest) =
      ⟨[], .unterminated (position + Text.utf8Length blanks)⟩ := by
  obtain ⟨taken, left⟩ := span_blanks (c := '"') blank rfl rest
  rw [lexFrom]
  split
  · next none => rw [left] at none; cases none
  · next start =>
    rw [left] at start
    cases start
    split
    · rw [taken]
    · next read =>
      rw [readToken_eq_none.mpr ⟨rfl, unclosed⟩] at read
      cases read

/-! ## The one way to divide a text -/

theorem divides_lexFrom (position : Nat) (cs : List Char) :
    Divides position cs (lexFrom position cs) := by
  fun_induction lexFrom position cs with
  | case1 position cs place blank =>
      have gap := takeWhile_isBlank blank
      have here : place = position + Text.utf8Length cs := by
        show position + Text.utf8Length (cs.takeWhile Text.isBlank) = _
        rw [gap]
      rw [here]
      refine .finished ?_
      rw [← gap]
      exact List.all_eq_true.mp List.all_takeWhile
  | case2 position cs place c rest start failed =>
      obtain ⟨rfl, unclosed⟩ := readToken_eq_none.mp failed
      obtain ⟨split, blank, -⟩ := exists_blanks start
      rw [split]
      exact .unterminated blank unclosed
  | case3 position cs place c rest start t after read scan ih =>
      obtain ⟨split, blank, noBlank⟩ := exists_blanks start
      obtain ⟨characters, ends, proper⟩ := (readToken_iff noBlank).mp read
      rw [characters] at split
      rw [split]
      exact .token blank proper ends ih

end Lexer

theorem Divides.eq_lexFrom {position : Nat} {cs : List Char} {scan : Scan}
    (divides : Divides position cs scan) : scan = Lexer.lexFrom position cs := by
  induction divides with
  | finished blank => exact (Lexer.lexFrom_blank blank _).symm
  | unterminated blank unclosed => exact (Lexer.lexFrom_unterminated blank unclosed _).symm
  | token blank proper ends more ih =>
      obtain ⟨c, rest, characters, noBlank, read⟩ := Lexer.readToken_source proper ends
      rw [characters, Lexer.lexFrom_token blank noBlank read, ← ih]

theorem divides_iff {position : Nat} {cs : List Char} {scan : Scan} :
    Divides position cs scan ↔ scan = Lexer.lexFrom position cs := by
  constructor
  · exact Divides.eq_lexFrom
  · rintro rfl
    exact Lexer.divides_lexFrom position cs

/-! ## What the division says -/

namespace Divides

variable {s : String} {position : Nat} {cs : List Char} {scan : Scan}

/-- Each token takes a character at least. -/
theorem length_le (divides : Divides position cs scan) : scan.lexemes.length ≤ cs.length := by
  induction divides with
  | finished => exact Nat.zero_le _
  | unterminated => exact Nat.zero_le _
  | token blank proper ends more ih =>
      have nonempty := List.length_pos_iff.mpr (Token.source_ne_nil proper)
      rw [List.length_cons, List.length_append, List.length_append]
      omega

theorem le_start (divides : Divides position cs scan) : ∀ l ∈ scan.lexemes, position ≤ l.start := by
  induction divides with
  | finished => nofun
  | unterminated => nofun
  | token blank proper ends more ih =>
      intro l member
      rcases List.mem_cons.mp member with rfl | member
      · exact Nat.le_add_right _ _
      · have later := ih l member
        omega

theorem starts_increase (divides : Divides position cs scan) :
    scan.lexemes.Pairwise fun l l' => l.start < l'.start := by
  induction divides with
  | finished => exact .nil
  | unterminated => exact .nil
  | token blank proper ends more ih =>
      have bytes := Text.utf8Length_pos (Token.source_ne_nil proper)
      refine .cons (fun l member => ?_) ih
      have later := more.le_start l member
      show _ + _ < l.start
      omega

/-- Where a token starts, the text goes on with it. -/
theorem at_start (divides : Divides position cs scan) (here : Cursor.At s position cs) :
    ∀ l ∈ scan.lexemes, ∃ after, Cursor.At s l.start (l.token.source ++ after) := by
  induction divides with
  | finished => nofun
  | unterminated => nofun
  | @token position gap rest t scan blank proper ends more ih =>
      have there := here.pass
      intro l member
      rcases List.mem_cons.mp member with rfl | member
      · exact ⟨rest, there⟩
      · exact ih there.pass l member

/-- The text ends where the lexer does, or has an opening quote there that nothing closes. -/
theorem at_outcome (divides : Divides position cs scan) (here : Cursor.At s position cs) :
    match scan.ending.outcome with
    | .ok stop => Cursor.At s stop []
    | .error e => e.message = "unterminated quoted string" ∧
        ∃ rest, Cursor.At s e.position ('"' :: rest) ∧ Unclosed rest := by
  induction divides with
  | @finished position gap blank =>
      rw [← List.append_nil gap] at here
      exact here.pass
  | @unterminated position gap rest blank unclosed => exact ⟨rfl, rest, here.pass, unclosed⟩
  | token blank proper ends more ih => exact ih here.pass.pass

end Divides

/-- **The lexer divides its text.** From the start of any text the cursor comes to an end, and every
slice that it takes on the way is between two characters of the text. It finds at most as many
tokens as there are characters, each of them stands in the text where it starts, and they start one
after another. Apart from the tokens there are blanks: the text is divided into both, in the one way
there is. The end is the end of the text, or the error of an opening quote that nothing closes. -/
theorem lex_divides (s : String) :
    (∀ lexemes outcome, Cursor.Runs s 0 lexemes outcome ↔
        lexemes = (lex s).lexemes ∧ outcome = (lex s).ending.outcome) ∧
      (lex s).lexemes.length ≤ s.length ∧
      (lex s).lexemes.Pairwise (fun l l' => l.start < l'.start) ∧
      (∀ l ∈ (lex s).lexemes, ∃ after, Cursor.At s l.start (l.token.source ++ after)) ∧
      (∀ scan, Divides 0 s.toList scan ↔ scan = lex s) ∧
      match (lex s).ending.outcome with
      | .ok stop => Cursor.At s stop []
      | .error e => e.message = "unterminated quoted string" ∧
          ∃ rest, Cursor.At s e.position ('"' :: rest) ∧ Unclosed rest := by
  have divides : Divides 0 s.toList (lex s) := divides_iff.mpr rfl
  have here : Cursor.At s 0 s.toList := ⟨[], rfl, rfl⟩
  refine ⟨fun lexemes outcome => Cursor.runs_iff, ?_, divides.starts_increase,
    divides.at_start here, fun scan => divides_iff, divides.at_outcome here⟩
  rw [← String.length_toList]
  exact divides.length_le

/-- A word of two bytes, a sign, a quoted quote, and an opening quote that nothing closes. -/
theorem lex_divides_of_openQuote :
    lex "é<>\"\\\"\" \"" =
        ⟨[⟨.word "é", 0⟩, ⟨.comparison .different, 2⟩, ⟨.quoted "\\\"", 4⟩], .unterminated 9⟩ ∧
      Cursor.Runs "é<>\"\\\"\" \"" 0
        [⟨.word "é", 0⟩, ⟨.comparison .different, 2⟩, ⟨.quoted "\\\"", 4⟩]
        (.error ⟨.unterminated, 9⟩) ∧
      ∃ rest, Cursor.At "é<>\"\\\"\" \"" 9 ('"' :: rest) ∧ Unclosed rest := by
  obtain ⟨runs, -, -, -, divides, outcome⟩ := lex_divides "é<>\"\\\"\" \""
  have noBlank : ∀ d ∈ ([] : List Char), Text.isBlank d = true := nofun
  have oneBlank : ∀ d ∈ [' '], Text.isBlank d = true := List.forall_mem_singleton.mpr rfl
  have unclosed : Unclosed [] := fun inside after split => by cases inside <;> cases split
  have last := @Divides.unterminated 8 [' '] [] oneBlank unclosed
  have third := @Divides.token 4 [] _ (.quoted "\\\"") _ noBlank rfl trivial last
  have second := @Divides.token 2 [] _ (.comparison .different) _ noBlank trivial
    (Comparison.isLongest_iff.mpr nofun) third
  have first := @Divides.token 0 [] _ (.word "é") _ noBlank ⟨by decide, by decide⟩
    (endsWord_cons rfl) second
  have found := (divides _).mp first
  rw [← found] at runs outcome
  exact ⟨found.symm, (runs _ _).mpr ⟨rfl, rfl⟩, outcome.2⟩

end ContextQuery
