import ContextQuery.Proofs.Token.Spelling

/-!
# Where tokens start

A text can be cut in front of any of its tokens: the part before the cut has the tokens before it
and lexes to its end, and the part after it starts with the token (`Lexer.lexFrom_cut`). So the place
of a token, in bytes, is the size of the part before it (`cut_of_lexemes`), and the place at which a
text ends is its size (`cut_of_finished`).
-/

namespace ContextQuery

theorem Text.utf8ByteSize_ofList (cs : List Char) :
    (String.ofList cs).utf8ByteSize = utf8Length cs := by
  induction cs with
  | nil => rfl
  | cons c cs ih =>
      have split : String.ofList (c :: cs) = String.singleton c ++ String.ofList cs := by
        rw [← String.toList_inj]
        simp
      rw [split, String.utf8ByteSize_append, String.utf8ByteSize_singleton, ih]
      rfl

theorem Text.utf8Length_pos {cs : List Char} (nonempty : cs ≠ []) : 0 < utf8Length cs := by
  cases cs with
  | nil => exact absurd rfl nonempty
  | cons c cs =>
      have size := c.utf8Size_pos
      rw [utf8Length]
      omega

/-- A text is cut in one way at an offset. -/
theorem Text.eq_of_append_of_utf8Length {xs ys xs' ys' : List Char} (same : xs ++ ys = xs' ++ ys')
    (bytes : utf8Length xs = utf8Length xs') : xs = xs' ∧ ys = ys' := by
  have whole {ds es : List Char} (bytes : utf8Length ds = utf8Length (ds ++ es)) : es = [] := by
    rw [utf8Length_append] at bytes
    cases es with
    | nil => rfl
    | cons e es =>
        have size := utf8Length_pos (List.cons_ne_nil e es)
        omega
  rcases List.append_eq_append_iff.mp same with ⟨es, rfl, split⟩ | ⟨es, rfl, split⟩
  · have none := whole bytes
    rw [none] at split ⊢
    exact ⟨(List.append_nil xs).symm, split⟩
  · have none := whole bytes.symm
    rw [none] at split ⊢
    exact ⟨List.append_nil xs', split.symm⟩

namespace Lexer

/-! ## Steps of the lexer -/

theorem takeWhile_isBlank {cs : List Char} (blank : cs.dropWhile Text.isBlank = []) :
    cs.takeWhile Text.isBlank = cs := by
  have split := List.takeWhile_append_dropWhile (p := Text.isBlank) (l := cs)
  rwa [blank, List.append_nil] at split

theorem lexFrom_blank {cs : List Char} (blank : ∀ d ∈ cs, Text.isBlank d = true) (position : Nat) :
    lexFrom position cs = ⟨[], .finished (position + Text.utf8Length cs)⟩ := by
  have none : cs.dropWhile Text.isBlank = [] := by
    rw [← List.append_nil cs, List.dropWhile_append_of_pos blank]
    rfl
  rw [lexFrom]
  split
  · rw [takeWhile_isBlank none]
  · next start => rw [none] at start; cases start

/-- The blanks before a token are those before its first character. -/
theorem span_blanks {blanks : List Char} {c : Char} (blank : ∀ d ∈ blanks, Text.isBlank d = true)
    (starts : Text.isBlank c = false) (rest : List Char) :
    (blanks ++ c :: rest).takeWhile Text.isBlank = blanks ∧
      (blanks ++ c :: rest).dropWhile Text.isBlank = c :: rest := by
  refine Text.span_append blank ?_
  intro d first
  cases first
  exact starts

theorem lexFrom_token {blanks rest after : List Char} {c : Char} {t : Token}
    (blank : ∀ d ∈ blanks, Text.isBlank d = true) (starts : Text.isBlank c = false)
    (read : readToken c rest = some (t, after)) (position : Nat) :
    lexFrom position (blanks ++ c :: rest) =
      ⟨⟨t, position + Text.utf8Length blanks⟩ :: (lexFrom
          (position + Text.utf8Length blanks + Text.utf8Length t.source) after).lexemes,
        (lexFrom (position + Text.utf8Length blanks + Text.utf8Length t.source) after).ending⟩ := by
  obtain ⟨taken, left⟩ := span_blanks blank starts rest
  rw [lexFrom]
  split
  · next none => rw [left] at none; cases none
  · next start =>
    rw [left] at start
    cases start
    split
    · next failed => rw [read] at failed; cases failed
    · next read' =>
      rw [read] at read'
      cases read'
      rw [taken]

/-- The characters of a text up to its first token, and the first character of the token. -/
theorem exists_blanks {cs rest : List Char} {c : Char}
    (start : cs.dropWhile Text.isBlank = c :: rest) :
    cs = cs.takeWhile Text.isBlank ++ c :: rest ∧
      (∀ d ∈ cs.takeWhile Text.isBlank, Text.isBlank d = true) ∧ Text.isBlank c = false := by
  refine ⟨?_, List.all_eq_true.mp List.all_takeWhile, isBlank_of_start start⟩
  rw [← start, List.takeWhile_append_dropWhile]

theorem utf8Length_source_pos {c : Char} {rest after : List Char} {t : Token}
    (read : readToken c rest = some (t, after)) : 0 < Text.utf8Length t.source := by
  refine Text.utf8Length_pos ?_
  intro empty
  have characters := eq_source_append read
  have shorter := length_of_readToken read
  rw [empty, List.nil_append] at characters
  rw [← characters, List.length_cons] at shorter
  omega

/-- The bytes of a text are those before its first token, those of the token and those after it. -/
theorem utf8Length_of_start {cs rest after : List Char} {c : Char} {t : Token}
    (start : cs.dropWhile Text.isBlank = c :: rest) (read : readToken c rest = some (t, after)) :
    Text.utf8Length cs = Text.utf8Length (cs.takeWhile Text.isBlank) +
      Text.utf8Length t.source + Text.utf8Length after := by
  have split := (exists_blanks start).1
  rw [eq_source_append read] at split
  have bytes := congrArg Text.utf8Length split
  rwa [Text.utf8Length_append, Text.utf8Length_append, ← Nat.add_assoc] at bytes

/-! ## Positions -/

/-- A text that lexes to its end ends where its characters end. -/
theorem eq_of_lexFrom_finished {position e : Nat} {cs : List Char}
    (finished : (lexFrom position cs).ending = .finished e) :
    e = position + Text.utf8Length cs := by
  fun_induction lexFrom position cs with
  | case1 position cs place blank =>
      have here : place = e := Ending.finished.inj finished
      rw [← here]
      show position + Text.utf8Length (cs.takeWhile Text.isBlank) = _
      rw [takeWhile_isBlank blank]
  | case2 position cs place c rest start failed => cases finished
  | case3 position cs place c rest start t after read scan ih =>
      rw [ih finished, utf8Length_of_start start read]
      show position + Text.utf8Length (cs.takeWhile Text.isBlank) + _ + _ = _
      omega

/-- Tokens start before the text ends. -/
theorem start_lt_of_mem {position : Nat} {cs : List Char} {l : Lexeme}
    (member : l ∈ (lexFrom position cs).lexemes) : l.start < position + Text.utf8Length cs := by
  fun_induction lexFrom position cs with
  | case1 => cases member
  | case2 => cases member
  | case3 position cs place c rest start t after read scan ih =>
      have bytes := utf8Length_of_start start read
      have nonempty := utf8Length_source_pos read
      have here : place = position + Text.utf8Length (cs.takeWhile Text.isBlank) := rfl
      rcases List.mem_cons.mp member with rfl | member
      · show place < _
        omega
      · have later := ih member
        omega

/-- What the first lexeme says about the characters. -/
theorem exists_of_lexFrom_cons {position : Nat} {cs : List Char} {l : Lexeme} {ls : List Lexeme}
    (found : (lexFrom position cs).lexemes = l :: ls) :
    ∃ blanks c rest after, cs = blanks ++ c :: rest ∧ (∀ d ∈ blanks, Text.isBlank d = true) ∧
      Text.isBlank c = false ∧ readToken c rest = some (l.token, after) ∧
      l.start = position + Text.utf8Length blanks ∧
      (lexFrom (l.start + Text.utf8Length l.token.source) after).lexemes = ls := by
  rw [lexFrom] at found
  split at found
  · cases found
  · next c rest starts =>
    split at found
    · cases found
    · next t after read =>
      obtain ⟨rfl, rfl⟩ := List.cons.inj found
      obtain ⟨split, blank, first⟩ := exists_blanks starts
      exact ⟨_, c, rest, after, split, blank, first, read, rfl, rfl⟩

/-- A text is cut in front of one of its tokens. The part before has the tokens before it and lexes
to the end, where the token starts, and the part after begins with the token. -/
theorem lexFrom_cut {position : Nat} {cs : List Char} {used rest : List Lexeme} {t : Token}
    {start : Nat} (found : (lexFrom position cs).lexemes = used ++ ⟨t, start⟩ :: rest) :
    ∃ before c tail after, cs = before ++ c :: tail ∧
      lexFrom position before = ⟨used, .finished start⟩ ∧
      Text.isBlank c = false ∧ readToken c tail = some (t, after) := by
  induction used generalizing position cs with
  | nil =>
      obtain ⟨blanks, c, tail, after, rfl, blank, first, read, here, -⟩ :=
        exists_of_lexFrom_cons found
      refine ⟨blanks, c, tail, after, rfl, ?_, first, read⟩
      rw [lexFrom_blank blank, ← here]
  | cons l used ih =>
      obtain ⟨blanks, c, tail, after, rfl, blank, first, read, here, more⟩ :=
        exists_of_lexFrom_cons found
      obtain ⟨before, d, ds, after', rfl, lexed, first', read'⟩ := ih more
      -- what follows the token in the part before is the beginning of what follows it here
      have goesOn : ∀ e ∈ before.head?, (before ++ d :: ds).head? = some e := by
        intro e head
        rw [List.head?_append, head]
        rfl
      have ends := (readToken_eq_some read).2.1.of_head? goesOn
      obtain ⟨own, rfl, front⟩ := readToken_front first read ends
      refine ⟨blanks ++ c :: (own ++ before), d, ds, after', by simp, ?_, first', read'⟩
      rw [lexFrom_token blank first front position, ← here, lexed]

end Lexer

/-! ## Places in a text -/

/-- The text begins with the token; or it is empty, where there is none. -/
def Opens (s : String) : Option Token → Prop
  | some t => (lex s).lexemes.head? = some ⟨t, 0⟩
  | none => s = ""

/-- The offset is between two characters of the text, or at one of its ends, and what is before it
lexes to its end. -/
structure Cut (s : String) (position : Nat) (before after : String) : Prop where
  whole : s = before ++ after
  size : before.utf8ByteSize = position
  lexes : (lex before).ending = .finished position

/-- At the offset the token starts, or the text ends where there is none. What is before it lexes to
its end. -/
def PointsAt (s : String) (position : Nat) (found : Option Token) : Prop :=
  ∃ before after, Cut s position before after ∧ Opens after found

/-- The token is the last one that ends at the offset or before. What is before the offset lexes to
its end. -/
def Follows (s : String) (position : Nat) (t : Token) : Prop :=
  ∃ before after start, Cut s position before after ∧
    (lex before).lexemes.getLast? = some ⟨t, start⟩ ∧ start < position

theorem Cut.unique {s before after before' after' : String} {position : Nat}
    (first : Cut s position before after) (second : Cut s position before' after') :
    before = before' ∧ after = after' := by
  have same : before.toList ++ after.toList = before'.toList ++ after'.toList := by
    rw [← String.toList_append, ← String.toList_append, ← first.whole, ← second.whole]
  have bytes : Text.utf8Length before.toList = Text.utf8Length before'.toList := by
    rw [← Text.utf8ByteSize_ofList, ← Text.utf8ByteSize_ofList, String.ofList_toList,
      String.ofList_toList, first.size, second.size]
  obtain ⟨fronts, backs⟩ := Text.eq_of_append_of_utf8Length same bytes
  exact ⟨String.toList_inj.mp fronts, String.toList_inj.mp backs⟩

theorem Opens.unique {s : String} {t u : Option Token} (first : Opens s t) (second : Opens s u) :
    t = u := by
  have empty : (lex "").lexemes.head? = none := by
    rw [lex, String.toList_empty, Lexer.lexFrom_blank (List.forall_mem_nil _)]
    rfl
  cases t with
  | none =>
      cases first
      cases u with
      | none => rfl
      | some u => exact absurd (empty.symm.trans second) nofun
  | some t =>
      cases u with
      | none =>
          cases second
          exact absurd (empty.symm.trans first) nofun
      | some u =>
          have same := Option.some.inj (first.symm.trans second)
          rw [(Lexeme.mk.inj same).1]

/-- There is one thing at an offset. -/
theorem PointsAt.unique {s : String} {position : Nat} {t u : Option Token}
    (first : PointsAt s position t) (second : PointsAt s position u) : t = u := by
  obtain ⟨before, after, cut, opens⟩ := first
  obtain ⟨before', after', cut', opens'⟩ := second
  obtain ⟨-, rfl⟩ := cut.unique cut'
  exact opens.unique opens'

/-- A text is cut in front of each of its tokens. -/
theorem cut_of_lexemes {s : String} {used rest : List Lexeme} {t : Token} {start : Nat}
    (found : (lex s).lexemes = used ++ ⟨t, start⟩ :: rest) :
    ∃ before after, Cut s start before after ∧ (lex before).lexemes = used ∧
      Opens after (some t) := by
  obtain ⟨before, c, tail, after, split, lexed, starts, read⟩ := Lexer.lexFrom_cut found
  have scan : lex (String.ofList before) = ⟨used, .finished start⟩ := by
    rw [lex, String.toList_ofList]
    exact lexed
  refine ⟨String.ofList before, String.ofList (c :: tail), ⟨?_, ?_, ?_⟩, ?_, ?_⟩
  · rw [← String.toList_inj]
    simpa using split
  · rw [Text.utf8ByteSize_ofList]
    have ends := Lexer.eq_of_lexFrom_finished (congrArg Scan.ending lexed)
    omega
  · rw [scan]
  · rw [scan]
  · have noBlanks : ∀ d ∈ ([] : List Char), Text.isBlank d = true := nofun
    have head := Lexer.lexFrom_token noBlanks starts read 0
    rw [Opens, lex, String.toList_ofList, ← List.nil_append (c :: tail), head]
    rfl

/-- A text that lexes to its end is cut there. -/
theorem cut_of_finished {s : String} {position : Nat}
    (finished : (lex s).ending = .finished position) : Cut s position s "" := by
  have ends := Lexer.eq_of_lexFrom_finished finished
  refine ⟨by simp, ?_, finished⟩
  rw [← Text.utf8ByteSize_ofList, String.ofList_toList, Nat.zero_add] at ends
  exact ends.symm

theorem pointsAt_of_lexemes {s : String} {used rest : List Lexeme} {t : Token} {start : Nat}
    (found : (lex s).lexemes = used ++ ⟨t, start⟩ :: rest) : PointsAt s start (some t) := by
  obtain ⟨before, after, cut, -, opens⟩ := cut_of_lexemes found
  exact ⟨before, after, cut, opens⟩

theorem pointsAt_of_finished {s : String} {position : Nat}
    (finished : (lex s).ending = .finished position) : PointsAt s position none :=
  ⟨s, "", cut_of_finished finished, rfl⟩

/-- Tokens start before the place at which their text ends. -/
theorem start_lt_of_finished {s : String} {position : Nat} {l : Lexeme}
    (finished : (lex s).ending = .finished position) (member : l ∈ (lex s).lexemes) :
    l.start < position := by
  have ends := Lexer.eq_of_lexFrom_finished finished
  have starts := Lexer.start_lt_of_mem member
  omega

end ContextQuery
