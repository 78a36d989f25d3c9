import ContextQuery.Proofs.Token.Positions
import ContextQuery.Query.Parser

/-!
# Reading tokens at byte offsets

The lexer as a cursor that keeps the text as it is and has nothing but a byte offset in it. To see a
character the cursor slices the text at its offset, and to pass one it adds the bytes of the
character; a slice at an offset within a character, or past the end, is an error that nothing
catches (`Cursor.rest_eq_some`). No such slice is ever made: from the start of any text the cursor
finds the tokens that `lex` finds (`Cursor.runs_iff`).
-/

namespace ContextQuery

/-! ## Slices -/

namespace Text

/-- The characters in two parts, the first of so many bytes; `none` where that is within a character
or past the end. -/
def splitBytes : Nat → List Char → Option (List Char × List Char)
  | 0, cs => some ([], cs)
  | _ + 1, [] => none
  | n + 1, c :: cs =>
    if c.utf8Size ≤ n + 1 then
      (splitBytes (n + 1 - c.utf8Size) cs).map fun (front, back) => (c :: front, back)
    else none

theorem splitBytes_append (front back : List Char) :
    splitBytes (utf8Length front) (front ++ back) = some (front, back) := by
  induction front with
  | nil => rw [utf8Length, splitBytes, List.nil_append]
  | cons c front ih =>
      have size := c.utf8Size_pos
      obtain ⟨n, bytes⟩ : ∃ n, c.utf8Size + utf8Length front = n + 1 :=
        Nat.exists_eq_add_one.mpr (by omega)
      have left : n + 1 - c.utf8Size = utf8Length front := by omega
      rw [utf8Length, bytes, List.cons_append, splitBytes, if_pos (by omega), left, ih]
      rfl

theorem splitBytes_eq_some {n : Nat} {cs front back : List Char} :
    splitBytes n cs = some (front, back) ↔ cs = front ++ back ∧ utf8Length front = n := by
  constructor
  · intro split
    fun_induction splitBytes n cs generalizing front back with
    | case1 cs =>
        cases split
        exact ⟨rfl, rfl⟩
    | case2 => cases split
    | case3 n c cs fits ih =>
        obtain ⟨⟨front, back⟩, split, same⟩ := Option.map_eq_some_iff.mp split
        cases same
        obtain ⟨rfl, bytes⟩ := ih split
        exact ⟨rfl, by rw [utf8Length]; omega⟩
    | case4 => cases split
  · rintro ⟨rfl, rfl⟩
    exact splitBytes_append front back

end Text

/-- What a reader of tokens gets behind the last one. -/
def Ending.outcome : Ending → Except ParseError Nat
  | .finished position => .ok position
  | .unterminated position => .error ⟨.unterminated, position⟩

/-!
## The cursor

Each reader gives `none` where it would make a slice that cannot be made, and passes on the `none`
of every reader that it calls.
-/

namespace Cursor

variable (s : String)

/-- The characters from the offset on. -/
def rest (offset : Nat) : Option (List Char) :=
  (Text.splitBytes offset s.toList).map Prod.snd

/-- The characters between two offsets. -/
def slice (start stop : Nat) : Option (List Char) :=
  if start ≤ stop then do
    let after ← rest s start
    return (← Text.splitBytes (stop - start) after).1
  else none

/-- The character at the offset, or none at the end. -/
def peek (offset : Nat) : Option (Option Char) :=
  (rest s offset).map List.head?

/-- The offset is between two characters of the text, and these come after it. -/
def At (offset : Nat) (cs : List Char) : Prop :=
  ∃ before, s.toList = before ++ cs ∧ Text.utf8Length before = offset

variable {s} in
theorem rest_eq_some {offset : Nat} {cs : List Char} :
    rest s offset = some cs ↔ At s offset cs := by
  constructor
  · intro found
    obtain ⟨⟨front, back⟩, split, rfl⟩ := Option.map_eq_some_iff.mp found
    exact ⟨front, Text.splitBytes_eq_some.mp split⟩
  · rintro ⟨before, whole, bytes⟩
    rw [rest, Text.splitBytes_eq_some.mpr ⟨whole, bytes⟩]
    rfl

variable {s} in
theorem le_of_peek {offset : Nat} {c : Char} (peeked : peek s offset = some (some c)) :
    offset + c.utf8Size ≤ Text.utf8Length s.toList := by
  obtain ⟨cs, found, first⟩ := Option.map_eq_some_iff.mp peeked
  obtain ⟨before, whole, rfl⟩ := rest_eq_some.mp found
  obtain ⟨ds, rfl⟩ := List.head?_eq_some_iff.mp first
  rw [whole, Text.utf8Length_append, Text.utf8Length]
  omega

/-- The offset of the first character from here on that is not of the class. -/
def skip (p : Char → Bool) (offset : Nat) : Option Nat :=
  match _ : peek s offset with
  | none => none
  | some none => some offset
  | some (some c) => if p c then skip p (offset + c.utf8Size) else some offset
termination_by Text.utf8Length s.toList - offset
decreasing_by
  have within := le_of_peek ‹peek s offset = some (some c)›
  have size := c.utf8Size_pos
  omega

/-- The content of a quoted string and the offset behind its closing quote, or none where it has no
such quote. -/
def quoted (offset : Nat) : Option (Option (List Char × Nat)) :=
  match _ : peek s offset with
  | none => none
  | some none => some none
  | some (some c) =>
    if c = '"' then some (some ([], offset + c.utf8Size))
    else if c = '\\' then
      match _ : peek s (offset + c.utf8Size) with
      | none => none
      | some none => some none
      | some (some d) =>
        (quoted (offset + c.utf8Size + d.utf8Size)).map fun found =>
          found.map fun (inside, stop) => (c :: d :: inside, stop)
    else
      (quoted (offset + c.utf8Size)).map fun found =>
        found.map fun (inside, stop) => (c :: inside, stop)
termination_by Text.utf8Length s.toList - offset
decreasing_by
  · have within := le_of_peek ‹peek s (offset + c.utf8Size) = some (some d)›
    have size := d.utf8Size_pos
    omega
  · have within := le_of_peek ‹peek s offset = some (some c)›
    have size := c.utf8Size_pos
    omega

/-- What the cursor comes to next: a token between two offsets, the end of the text, or an error. -/
inductive Step where
  | found (t : Token) (start stop : Nat)
  | finished (start : Nat)
  | failed (error : ParseError)
  deriving DecidableEq, Repr

/-- The token that starts with the character at the offset. -/
def token (start : Nat) (c : Char) : Option Step :=
  let after := start + c.utf8Size
  match c with
  | '(' => some (.found .openParen start after)
  | ')' => some (.found .closeParen start after)
  | '/' => some (.found .slash start after)
  | '=' =>
    (peek s after).map fun next =>
      if next = some '=' then .found (.comparison .exact) start (after + '='.utf8Size)
      else .found (.comparison .equal) start after
  | '<' =>
    (peek s after).map fun next =>
      if next = some '=' then .found (.comparison .atMost) start (after + '='.utf8Size)
      else if next = some '>' then .found (.comparison .different) start (after + '>'.utf8Size)
      else .found (.comparison .less) start after
  | '>' =>
    (peek s after).map fun next =>
      if next = some '=' then .found (.comparison .atLeast) start (after + '='.utf8Size)
      else .found (.comparison .greater) start after
  | '"' =>
    (quoted s after).map fun closed =>
      match closed with
      | some (inside, stop) => .found (.quoted (String.ofList inside)) start stop
      | none => .failed ⟨.unterminated, start⟩
  | _ => do
    let stop ← skip s Lexer.isBare after
    let text ← slice s start stop
    return .found (.word (String.ofList text)) start stop

/-- One step from the offset on. -/
def next (offset : Nat) : Option Step := do
  let start ← skip s Text.isBlank offset
  match ← peek s start with
  | none => return .finished start
  | some c => token s start c

/-- Steps from the offset on, until there is no token: the tokens of the steps, and the offset at
which the text ends or the error. -/
inductive Runs : Nat → List Lexeme → Except ParseError Nat → Prop where
  | finished {offset start : Nat} (step : next s offset = some (.finished start)) :
      Runs offset [] (.ok start)
  | failed {offset : Nat} {error : ParseError} (step : next s offset = some (.failed error)) :
      Runs offset [] (.error error)
  | found {offset start stop : Nat} {t : Token} {lexemes : List Lexeme}
      {outcome : Except ParseError Nat} (step : next s offset = some (.found t start stop))
      (more : Runs stop lexemes outcome) : Runs offset (⟨t, start⟩ :: lexemes) outcome

/-! ## Between characters -/

variable {s} {offset : Nat} {c : Char} {cs ds : List Char}

theorem At.peek_eq (here : At s offset cs) : peek s offset = some cs.head? := by
  rw [peek, rest_eq_some.mpr here]
  rfl

theorem At.pass (here : At s offset (cs ++ ds)) : At s (offset + Text.utf8Length cs) ds := by
  obtain ⟨before, whole, rfl⟩ := here
  exact ⟨before ++ cs, by rw [whole, List.append_assoc], Text.utf8Length_append before cs⟩

theorem At.pass_cons (here : At s offset (c :: cs)) : At s (offset + c.utf8Size) cs := by
  rw [← List.singleton_append] at here
  exact here.pass

/-- A slice between two offsets that the cursor has passed is what it passed. -/
theorem At.slice_eq (here : At s offset (cs ++ ds)) :
    slice s offset (offset + Text.utf8Length cs) = some cs := by
  rw [slice, if_pos (Nat.le_add_right _ _), rest_eq_some.mpr here,
    Nat.add_sub_cancel_left]
  show (Text.splitBytes _ (cs ++ ds)).bind _ = _
  rw [Text.splitBytes_append]
  rfl

/-! ## Passes of the loops -/

/-- One pass of the loop over a class of characters. -/
theorem skip_pass (p : Char → Bool) (offset : Nat) :
    skip s p offset =
      match peek s offset with
      | none => none
      | some none => some offset
      | some (some c) => if p c then skip s p (offset + c.utf8Size) else some offset := by
  rw [skip]
  split
  · next peeked => rw [peeked]
  · next peeked => rw [peeked]
  · next peeked => rw [peeked]

/-- One pass of the loop over a quoted string. A backslash takes the character after it along. -/
theorem quoted_pass (offset : Nat) :
    quoted s offset =
      match peek s offset with
      | none => none
      | some none => some none
      | some (some c) =>
        if c = '"' then some (some ([], offset + c.utf8Size))
        else if c = '\\' then
          match peek s (offset + c.utf8Size) with
          | none => none
          | some none => some none
          | some (some d) =>
            (quoted s (offset + c.utf8Size + d.utf8Size)).map fun found =>
              found.map fun (inside, stop) => (c :: d :: inside, stop)
        else
          (quoted s (offset + c.utf8Size)).map fun found =>
            found.map fun (inside, stop) => (c :: inside, stop) := by
  rw [quoted]
  split
  · next peeked => rw [peeked]
  · next peeked => rw [peeked]
  · next peeked =>
    rw [peeked]
    dsimp only
    congr 2
    split
    · next second => rw [second]
    · next second => rw [second]
    · next second => rw [second]

theorem At.quoted_cons (here : At s offset (c :: cs)) :
    quoted s offset =
      if c = '"' then some (some ([], offset + c.utf8Size))
      else if c = '\\' then
        match cs with
        | [] => some none
        | d :: _ =>
          (quoted s (offset + c.utf8Size + d.utf8Size)).map fun found =>
            found.map fun (inside, stop) => (c :: d :: inside, stop)
      else
        (quoted s (offset + c.utf8Size)).map fun found =>
          found.map fun (inside, stop) => (c :: inside, stop) := by
  rw [quoted_pass, here.peek_eq]
  dsimp only [List.head?_cons]
  rw [here.pass_cons.peek_eq]
  cases cs with
  | nil => rfl
  | cons d cs => rfl

/-! ## What the cursor finds -/

/-- The loop over a class of characters stops behind all that are of it. -/
theorem At.skip_eq (p : Char → Bool) (here : At s offset cs) :
    skip s p offset = some (offset + Text.utf8Length (cs.takeWhile p)) := by
  induction cs generalizing offset with
  | nil =>
      rw [skip_pass, here.peek_eq]
      rfl
  | cons c cs ih =>
      rw [skip_pass, here.peek_eq]
      dsimp only [List.head?_cons]
      by_cases taken : p c = true
      · rw [if_pos taken, ih here.pass_cons, List.takeWhile_cons_of_pos taken, Text.utf8Length,
          Nat.add_assoc]
      · rw [if_neg taken, List.takeWhile_cons_of_neg taken]
        rfl

/-- The loop over a quoted string finds its content and stops behind its closing quote. -/
theorem At.quoted_eq (here : At s offset cs) :
    quoted s offset = some ((Lexer.splitQuoted cs).map fun (inside, _) =>
      (inside, offset + Text.utf8Length inside + '"'.utf8Size)) := by
  fun_induction Lexer.splitQuoted cs generalizing offset with
  | case1 =>
      rw [quoted_pass, here.peek_eq]
      rfl
  | case2 rest => exact here.quoted_cons
  | case3 c rest ih =>
      rw [here.quoted_cons]
      show (quoted s _).map _ = _
      rw [ih here.pass_cons.pass_cons]
      cases Lexer.splitQuoted rest with
      | none => rfl
      | some found => simp [Text.utf8Length, Nat.add_assoc]
  | case4 c rest noQuote noPair ih =>
      rw [here.quoted_cons, if_neg noQuote]
      by_cases backslash : c = '\\'
      · -- a backslash that is paired with nothing is the last character
        cases rest with
        | nil => rw [if_pos backslash]; rfl
        | cons d rest => exact absurd rfl (noPair d rest backslash)
      · rw [if_neg backslash, ih here.pass_cons]
        cases Lexer.splitQuoted rest with
        | none => rfl
        | some found => simp [Text.utf8Length, Nat.add_assoc]

/-- A word is sliced out of the text, from its first character to where the bare ones end. -/
theorem At.slice_word {start : Nat} (here : At s start (c :: cs)) :
    slice s start (start + c.utf8Size + Text.utf8Length (cs.takeWhile Lexer.isBare)) =
      some (c :: cs.takeWhile Lexer.isBare) := by
  have split : c :: cs = (c :: cs.takeWhile Lexer.isBare) ++ cs.dropWhile Lexer.isBare := by
    rw [List.cons_append, List.takeWhile_append_dropWhile]
  rw [split] at here
  have text := here.slice_eq
  rwa [Text.utf8Length, ← Nat.add_assoc] at text

/-- The cursor finds the token that the lexer reads. It is where it starts and stops behind its
characters. -/
theorem At.token_eq {start : Nat} (here : At s start (c :: cs)) :
    token s start c = some (match Lexer.readToken c cs with
      | some (t, _) => .found t start (start + Text.utf8Length t.source)
      | none => .failed ⟨.unterminated, start⟩) := by
  have after := here.pass_cons
  unfold token
  dsimp only
  split
  · rfl
  · rfl
  · rfl
  · rw [after.peek_eq]
    by_cases equal : cs.head? = some '='
    · obtain ⟨ds, rfl⟩ := List.head?_eq_some_iff.mp equal
      rfl
    · have read : Lexer.readToken '=' cs = some (.comparison .equal, cs) :=
        Lexer.readToken_single rfl (List.forall_mem_singleton.mpr equal)
      rw [read, Option.map_some, if_neg equal]
      rfl
  · rw [after.peek_eq]
    by_cases equal : cs.head? = some '='
    · obtain ⟨ds, rfl⟩ := List.head?_eq_some_iff.mp equal
      rfl
    · by_cases greater : cs.head? = some '>'
      · obtain ⟨ds, rfl⟩ := List.head?_eq_some_iff.mp greater
        rfl
      · have read : Lexer.readToken '<' cs = some (.comparison .less, cs) :=
          Lexer.readToken_single rfl
            (List.forall_mem_cons.mpr ⟨equal, List.forall_mem_singleton.mpr greater⟩)
        rw [read, Option.map_some, if_neg equal, if_neg greater]
        rfl
  · rw [after.peek_eq]
    by_cases equal : cs.head? = some '='
    · obtain ⟨ds, rfl⟩ := List.head?_eq_some_iff.mp equal
      rfl
    · have read : Lexer.readToken '>' cs = some (.comparison .greater, cs) :=
        Lexer.readToken_single rfl (List.forall_mem_singleton.mpr equal)
      rw [read, Option.map_some, if_neg equal]
      rfl
  · rw [after.quoted_eq, Lexer.readToken]
    cases Lexer.splitQuoted cs with
    | none => rfl
    | some found => simp [Token.source, Text.utf8Length_append, Text.utf8Length, Nat.add_assoc]
  · have read : Lexer.readToken c cs =
        some (.word (String.ofList (c :: cs.takeWhile Lexer.isBare)),
          cs.dropWhile Lexer.isBare) := by
      rw [Lexer.readToken]
      all_goals assumption
    rw [read, after.skip_eq]
    show (slice s start _).bind _ = _
    rw [here.slice_word]
    simp [Token.source, Text.utf8Length, Nat.add_assoc]

/-- The blanks before a token are passed, and the cursor is where the token starts. -/
theorem At.start (here : At s offset cs) :
    At s (offset + Text.utf8Length (cs.takeWhile Text.isBlank)) (cs.dropWhile Text.isBlank) := by
  rw [← List.takeWhile_append_dropWhile (p := Text.isBlank) (l := cs)] at here
  exact here.pass

/-- One step passes the blanks, and then finds a token or the end. -/
theorem At.next_eq (here : At s offset cs) :
    next s offset = match cs.dropWhile Text.isBlank with
      | [] => some (.finished (offset + Text.utf8Length (cs.takeWhile Text.isBlank)))
      | c :: _ => token s (offset + Text.utf8Length (cs.takeWhile Text.isBlank)) c := by
  have peeked := here.start.peek_eq
  rw [next, here.skip_eq]
  show (peek s _).bind _ = _
  rw [peeked]
  cases cs.dropWhile Text.isBlank <;> rfl

/-- Step after step the cursor finds what the lexer finds in the characters from here on. -/
theorem At.runs (here : At s offset cs) : Runs s offset (Lexer.lexFrom offset cs).lexemes
    (Lexer.lexFrom offset cs).ending.outcome := by
  fun_induction Lexer.lexFrom offset cs with
  | case1 offset cs place blank =>
      refine .finished ?_
      rw [here.next_eq, blank]
  | case2 offset cs place c rest start failed =>
      have there := here.start
      rw [start] at there
      refine .failed ?_
      rw [here.next_eq, start]
      show token s _ c = _
      rw [there.token_eq, failed]
  | case3 offset cs place c rest start t after read scan ih =>
      have there := here.start
      rw [start] at there
      refine .found ?_ (ih ?_)
      · rw [here.next_eq, start]
        show token s _ c = _
        rw [there.token_eq, read]
      · rw [Lexer.eq_source_append read] at there
        exact there.pass

/-- There is one way to go on from an offset. -/
theorem Runs.unique {lexemes lexemes' : List Lexeme} {outcome outcome' : Except ParseError Nat}
    (first : Runs s offset lexemes outcome) (second : Runs s offset lexemes' outcome') :
    lexemes = lexemes' ∧ outcome = outcome' := by
  induction first generalizing lexemes' with
  | finished step =>
      cases second with
      | finished step' => cases step.symm.trans step'; exact ⟨rfl, rfl⟩
      | failed step' => cases step.symm.trans step'
      | found step' more => cases step.symm.trans step'
  | failed step =>
      cases second with
      | finished step' => cases step.symm.trans step'
      | failed step' => cases step.symm.trans step'; exact ⟨rfl, rfl⟩
      | found step' more => cases step.symm.trans step'
  | found step more ih =>
      cases second with
      | finished step' => cases step.symm.trans step'
      | failed step' => cases step.symm.trans step'
      | found step' more' =>
          cases step.symm.trans step'
          obtain ⟨rfl, rfl⟩ := ih more'
          exact ⟨rfl, rfl⟩

/-- From the start of any text the cursor comes to an end, and what it has found is what the lexer
finds: no slice is made within a character or past the end. -/
theorem runs_iff {lexemes : List Lexeme} {outcome : Except ParseError Nat} :
    Runs s 0 lexemes outcome ↔ lexemes = (lex s).lexemes ∧ outcome = (lex s).ending.outcome := by
  have runs : Runs s 0 (lex s).lexemes (lex s).ending.outcome := At.runs ⟨[], rfl, rfl⟩
  constructor
  · exact fun other => other.unique runs
  · rintro ⟨rfl, rfl⟩
    exact runs

end Cursor

end ContextQuery
