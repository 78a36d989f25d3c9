import ContextQuery.Proofs.Token.Splits
import ContextQuery.Text.Pieces

/-!
# What can be spelled as one token

A text can be written between quotes or as a bare word, and not every text can be written in either
way. What the lexer reads is a token of one of these kinds that could not be longer, and it reads
every such token from its characters (`Lexer.readToken_iff`). So a token is found again in front of
what cannot go on with it (`splits_source`), and tokens that are found are found in front of every
closing parenthesis (`Splits.append_close`).
-/

namespace ContextQuery

/-- The text may stand between quotes: each backslash goes with the character after it, none is left
over at the end, and no other quote stands on its own. -/
def isQuotable : List Char → Bool
  | [] => true
  | ['\\'] => false
  | '\\' :: _ :: cs => isQuotable cs
  | '"' :: _ => false
  | _ :: cs => isQuotable cs

/-- The text is a word that needs no quotes. -/
def IsBareWord (s : String) : Prop :=
  s ≠ "" ∧ s.toList.all Lexer.isBare = true

/-- The token has a spelling of its own. -/
def Token.IsProper : Token → Prop
  | .word w => IsBareWord w
  | .quoted s => isQuotable s.toList = true
  | _ => True

/-! ## Characters between quotes -/

theorem isQuotable_cons {c : Char} (noBackslash : c ≠ '\\') (noQuote : c ≠ '"') (cs : List Char) :
    isQuotable (c :: cs) = isQuotable cs :=
  isQuotable.eq_5 c cs (fun same _ => noBackslash same) (fun _ _ same _ => noBackslash same) noQuote

/-- A character that is neither a last backslash nor one with a character to go with is none. -/
theorem ne_backslash_of_unpaired {c : Char} {cs : List Char} (noLast : c = '\\' → cs = [] → False)
    (noPair : ∀ d ds, c = '\\' → cs = d :: ds → False) : c ≠ '\\' := by
  intro same
  cases cs with
  | nil => exact noLast same rfl
  | cons d ds => exact noPair d ds same rfl

/-- The text of a quoted string can be written between quotes. -/
theorem Lexer.isQuotable_of_splitQuoted {cs inside after : List Char}
    (split : splitQuoted cs = some (inside, after)) : isQuotable inside = true := by
  fun_induction splitQuoted cs generalizing inside after with
  | case1 => cases split
  | case2 rest =>
      cases split
      rfl
  | case3 c rest ih =>
      obtain ⟨⟨inside, after⟩, split, same⟩ := Option.map_eq_some_iff.mp split
      cases same
      show isQuotable inside = true
      exact ih split
  | case4 c rest noQuote noPair ih =>
      obtain ⟨⟨inside, after⟩, split, same⟩ := Option.map_eq_some_iff.mp split
      cases same
      have noBackslash : c ≠ '\\' := by
        rintro rfl
        cases rest with
        | nil => cases split
        | cons d rest => exact noPair d rest rfl rfl
      rw [isQuotable_cons noBackslash noQuote]
      exact ih split

/-- A quoted string takes its text and the quote that closes it. -/
theorem Lexer.eq_append_of_splitQuoted {cs inside after : List Char}
    (split : splitQuoted cs = some (inside, after)) : cs = inside ++ '"' :: after := by
  fun_induction splitQuoted cs generalizing inside after with
  | case1 => cases split
  | case2 rest =>
      cases split
      rfl
  | case3 c rest ih =>
      obtain ⟨⟨inside, after⟩, split, same⟩ := Option.map_eq_some_iff.mp split
      cases same
      rw [ih split]
      rfl
  | case4 c rest noQuote noPair ih =>
      obtain ⟨⟨inside, after⟩, split, same⟩ := Option.map_eq_some_iff.mp split
      cases same
      rw [ih split]
      rfl

/-- A text that can be written between quotes is closed by the quote behind it. -/
theorem Lexer.splitQuoted_of_isQuotable {inside : List Char} (after : List Char)
    (quotable : isQuotable inside = true) :
    splitQuoted (inside ++ '"' :: after) = some (inside, after) := by
  fun_induction isQuotable inside with
  | case1 => rfl
  | case2 => cases quotable
  | case3 c cs ih =>
      show (splitQuoted (cs ++ '"' :: after)).map _ = _
      rw [ih quotable]
      rfl
  | case4 => cases quotable
  | case5 c cs noLast noPair noQuote ih =>
      have noBackslash := ne_backslash_of_unpaired noLast noPair
      rw [List.cons_append, splitQuoted, ih quotable]
      · rfl
      · exact noQuote
      · exact fun d ds same => absurd same noBackslash

/-! ## Characters of a word -/

theorem Lexer.isBare_iff {c : Char} :
    isBare c = true ↔ Text.isBlank c = false ∧ isBreak c = false := by
  rw [isBare, Bool.and_eq_true, Bool.not_eq_true', Bool.not_eq_true']

/-- A character that starts no sign and no quoted string starts a word. -/
theorem Lexer.readToken_bare {c : Char} {rest : List Char} (bare : isBare c = true) :
    readToken c rest =
      some (.word (String.ofList (c :: rest.takeWhile isBare)), rest.dropWhile isBare) := by
  have noBreak := (isBare_iff.mp bare).2
  unfold isBreak at noBreak
  unfold readToken
  split <;> simp_all

theorem isBareWord_cons {c : Char} {cs : List Char} (first : Lexer.isBare c = true)
    (more : cs.all Lexer.isBare = true) : IsBareWord (String.ofList (c :: cs)) := by
  refine ⟨?_, ?_⟩
  · intro empty
    rw [← String.toList_inj, String.toList_ofList] at empty
    cases empty
  · rw [String.toList_ofList, List.all_cons, first, more]
    rfl

theorem IsBareWord.toList_eq_cons {w : String} (bare : IsBareWord w) :
    ∃ c cs, w.toList = c :: cs ∧ Lexer.isBare c = true ∧ ∀ d ∈ cs, Lexer.isBare d = true := by
  obtain ⟨nonempty, all⟩ := bare
  cases characters : w.toList with
  | nil => exact absurd (String.toList_inj.mp characters) nonempty
  | cons c cs =>
      rw [characters, List.all_cons, Bool.and_eq_true] at all
      exact ⟨c, cs, rfl, all.1, List.all_eq_true.mp all.2⟩

/-! ## What may follow a token -/

/-- What comes next does not go on with a word. -/
def EndsWord (cs : List Char) : Prop :=
  ∀ c ∈ cs.head?, Lexer.isBare c = false

/-- What comes next does not go on with a comparison sign. -/
def EndsSign (cs : List Char) : Prop :=
  ∀ c ∈ cs.head?, c ≠ '=' ∧ c ≠ '>'

/-- No longer comparison sign begins here. -/
def Comparison.IsLongest (sign : Comparison) (cs : List Char) : Prop :=
  ∀ other : Comparison, other.symbol.toList <+: sign.symbol.toList ++ cs →
    other.symbol.length ≤ sign.symbol.length

/-- What comes next does not go on with the token. -/
def Token.EndsAt (cs : List Char) : Token → Prop
  | .word _ => EndsWord cs
  | .comparison sign => sign.IsLongest cs
  | _ => True

/-- The characters that make another comparison sign of this one. -/
def Comparison.continuations : Comparison → List Char
  | .equal | .greater => ['=']
  | .less => ['=', '>']
  | .exact | .different | .atMost | .atLeast => []

section

variable {cs ds : List Char}

/-- A word is all that is bare: what follows it is not. -/
theorem EndsWord.span {ds : List Char} (ends : EndsWord cs)
    (bare : ∀ d ∈ ds, Lexer.isBare d = true) :
    (ds ++ cs).takeWhile Lexer.isBare = ds ∧ (ds ++ cs).dropWhile Lexer.isBare = cs :=
  Text.span_append bare ends

/-- A comparison sign has one character or two. -/
theorem Comparison.length_symbol (sign : Comparison) :
    0 < sign.symbol.toList.length ∧ sign.symbol.toList.length ≤ 2 := by
  cases sign <;> decide

theorem Token.source_ne_nil {t : Token} (proper : t.IsProper) : t.source ≠ [] := by
  cases t with
  | openParen | closeParen | slash | quoted s => nofun
  | comparison sign => exact List.length_pos_iff.mp sign.length_symbol.1
  | word w =>
      obtain ⟨c, ds, characters, -⟩ := IsBareWord.toList_eq_cons proper
      rw [source, characters]
      nofun

/-- What makes another sign of this one is its next character. -/
theorem Comparison.mem_continuations_iff {sign : Comparison} {d : Char} :
    d ∈ sign.continuations ↔
      ∃ other : Comparison, other.symbol.toList = sign.symbol.toList ++ [d] := by
  constructor
  · intro member
    cases sign with
    | equal => cases List.mem_singleton.mp member; exact ⟨.exact, rfl⟩
    | greater => cases List.mem_singleton.mp member; exact ⟨.atLeast, rfl⟩
    | less =>
        rcases List.mem_cons.mp member with rfl | member
        · exact ⟨.atMost, rfl⟩
        · cases List.mem_singleton.mp member
          exact ⟨.different, rfl⟩
    | exact | different | atMost | atLeast => cases member
  · rintro ⟨other, same⟩
    cases sign <;> cases other <;> cases same <;> decide

/-- A sign is the longest where no character stands next that makes another of it. -/
theorem Comparison.isLongest_iff {sign : Comparison} :
    sign.IsLongest cs ↔ ∀ d ∈ sign.continuations, cs.head? ≠ some d := by
  constructor
  · intro longest d member head
    obtain ⟨other, same⟩ := mem_continuations_iff.mp member
    obtain ⟨ds, rfl⟩ := List.head?_eq_some_iff.mp head
    have short := longest other ⟨ds, by rw [same, List.append_assoc, List.singleton_append]⟩
    rw [← String.length_toList, ← String.length_toList, same, List.length_append] at short
    exact Nat.not_succ_le_self _ short
  · intro stop other start
    refine Nat.not_lt.mp fun longer => ?_
    rw [← String.length_toList, ← String.length_toList] at longer
    obtain ⟨more, whole⟩ :=
      List.prefix_of_prefix_length_le (List.prefix_append _ _) start (Nat.le_of_lt longer)
    -- the other sign has one character more
    have one : more.length = 1 := by
      have positive := sign.length_symbol.1
      have few := other.length_symbol.2
      rw [← whole, List.length_append] at longer few
      omega
    obtain ⟨d, rfl⟩ := List.length_eq_one_iff.mp one
    rw [← whole, List.prefix_append_right_inj] at start
    obtain ⟨es, rfl⟩ := start
    exact stop d (mem_continuations_iff.mpr ⟨other, whole.symm⟩) rfl

theorem EndsSign.isLongest (ends : EndsSign cs) (sign : Comparison) : sign.IsLongest cs := by
  refine Comparison.isLongest_iff.mpr fun d member head => ?_
  obtain ⟨noEqual, noGreater⟩ := ends d head
  cases sign with
  | equal | greater => exact noEqual (List.mem_singleton.mp member)
  | less =>
      rcases List.mem_cons.mp member with same | member
      · exact noEqual same
      · exact noGreater (List.mem_singleton.mp member)
  | exact | different | atMost | atLeast => cases member

/-- Only the next character decides whether a token ends. -/
theorem Token.EndsAt.of_head? {t : Token} (ends : t.EndsAt cs)
    (goesOn : ∀ d ∈ ds.head?, cs.head? = some d) : t.EndsAt ds := by
  cases t with
  | openParen | closeParen | slash | quoted s => trivial
  | word w => exact fun d first => ends d (goesOn d first)
  | comparison sign =>
      exact Comparison.isLongest_iff.mpr fun d member head =>
        Comparison.isLongest_iff.mp ends d member (goesOn d head)

theorem endsWord_cons {c : Char} (stop : Lexer.isBare c = false) : EndsWord (c :: cs) := by
  intro d first
  cases first
  exact stop

theorem endsSign_cons {c : Char} (noEqual : c ≠ '=') (noGreater : c ≠ '>') :
    EndsSign (c :: cs) := by
  intro d first
  cases first
  exact ⟨noEqual, noGreater⟩


/-- A space ends what is before it. -/
theorem ends_space (cs : List Char) : EndsWord (' ' :: cs) ∧ EndsSign (' ' :: cs) :=
  ⟨endsWord_cons rfl, endsSign_cons (by decide) (by decide)⟩

/-- A closing parenthesis ends what is before it. -/
theorem ends_close (cs : List Char) : EndsWord (')' :: cs) ∧ EndsSign (')' :: cs) :=
  ⟨endsWord_cons rfl, endsSign_cons (by decide) (by decide)⟩

theorem Token.EndsAt.of_ends {t : Token} (ends : EndsWord cs ∧ EndsSign cs) : t.EndsAt cs := by
  cases t with
  | openParen | closeParen | slash | quoted s => trivial
  | word w => exact ends.1
  | comparison sign => exact ends.2.isLongest sign

end

/-! ## Tokens that are read -/

namespace Lexer

variable {c : Char} {cs rest after : List Char} {t : Token}

/-- A sign of one character is read where the next one makes no other sign of it. -/
theorem readToken_single {sign : Comparison} (single : sign.symbol.toList = [c])
    (stop : ∀ d ∈ sign.continuations, cs.head? ≠ some d) :
    readToken c cs = some (.comparison sign, cs) := by
  have isFirst {d : Char} (symbol : sign.symbol.toList = [d]) : c = d :=
    List.singleton_inj.mp (single.symm.trans symbol)
  cases sign with
  | exact | different | atMost | atLeast => cases single
  | equal =>
      obtain rfl : c = '=' := isFirst rfl
      cases cs <;> simp_all [readToken, Comparison.continuations]
  | less =>
      obtain rfl : c = '<' := isFirst rfl
      cases cs <;> simp_all [readToken, Comparison.continuations]
  | greater =>
      obtain rfl : c = '>' := isFirst rfl
      cases cs <;> simp_all [readToken, Comparison.continuations]

theorem head?_ne_of_forall_ne {d : Char} (other : ∀ ds, cs = d :: ds → False) :
    cs.head? ≠ some d := by
  intro head
  obtain ⟨ds, same⟩ := List.head?_eq_some_iff.mp head
  exact other ds same

/-- A token takes the characters it is made of and no others, and it is as long as can be. It has a
spelling of its own, if it does not start with a blank. -/
theorem readToken_eq_some (read : readToken c rest = some (t, after)) :
    c :: rest = t.source ++ after ∧ t.EndsAt after ∧ (Text.isBlank c = false → t.IsProper) := by
  have single {sign : Comparison} (stop : ∀ d ∈ sign.continuations, ∀ ds, after = d :: ds → False) :
      sign.IsLongest after :=
    Comparison.isLongest_iff.mpr fun d member => head?_ne_of_forall_ne (stop d member)
  unfold readToken at read
  split at read
  · cases read; exact ⟨rfl, trivial, fun _ => trivial⟩
  · cases read; exact ⟨rfl, trivial, fun _ => trivial⟩
  · cases read; exact ⟨rfl, trivial, fun _ => trivial⟩
  · split at read
    · cases read; exact ⟨rfl, single nofun, fun _ => trivial⟩
    · next noEqual =>
      cases read
      exact ⟨rfl, single (List.forall_mem_singleton.mpr noEqual), fun _ => trivial⟩
  · split at read
    · cases read; exact ⟨rfl, single nofun, fun _ => trivial⟩
    · cases read; exact ⟨rfl, single nofun, fun _ => trivial⟩
    · next noEqual noGreater =>
      cases read
      exact ⟨rfl, single (List.forall_mem_cons.mpr
        ⟨noEqual, List.forall_mem_singleton.mpr noGreater⟩), fun _ => trivial⟩
  · split at read
    · cases read; exact ⟨rfl, single nofun, fun _ => trivial⟩
    · next noEqual =>
      cases read
      exact ⟨rfl, single (List.forall_mem_singleton.mpr noEqual), fun _ => trivial⟩
  · obtain ⟨⟨inside, end'⟩, split, same⟩ := Option.map_eq_some_iff.mp read
    cases same
    refine ⟨?_, trivial, fun _ => ?_⟩
    · rw [eq_append_of_splitQuoted split]
      simp [Token.source]
    · show isQuotable (String.ofList inside).toList = true
      rw [String.toList_ofList]
      exact isQuotable_of_splitQuoted split
  · cases read
    refine ⟨?_, ?_, fun noBlank => ?_⟩
    · simp [Token.source, List.takeWhile_append_dropWhile]
    · intro d first
      have stop := List.head?_dropWhile_not isBare rest
      rw [first] at stop
      exact stop
    · -- what is neither blank nor a break is bare
      have bare : isBare c = true := by simp_all [isBare, isBreak]
      exact isBareWord_cons bare List.all_takeWhile

theorem eq_source_append (read : readToken c rest = some (t, after)) :
    c :: rest = t.source ++ after :=
  (readToken_eq_some read).1

/-- In front of what does not go on with it, the lexer reads a token from its characters. -/
theorem readToken_source (proper : t.IsProper) (ends : t.EndsAt cs) :
    ∃ c rest, t.source ++ cs = c :: rest ∧ Text.isBlank c = false ∧
      readToken c rest = some (t, cs) := by
  cases t with
  | openParen | closeParen | slash => exact ⟨_, cs, rfl, rfl, rfl⟩
  | word w =>
      obtain ⟨c, ds, characters, first, more⟩ := IsBareWord.toList_eq_cons proper
      obtain ⟨taken, left⟩ := EndsWord.span ends more
      refine ⟨c, ds ++ cs, ?_, (isBare_iff.mp first).1, ?_⟩
      · rw [Token.source, characters, List.cons_append]
      · rw [readToken_bare first, taken, left, ← characters, String.ofList_toList]
  | quoted s =>
      refine ⟨'"', s.toList ++ '"' :: cs, by simp [Token.source], rfl, ?_⟩
      show (splitQuoted (s.toList ++ '"' :: cs)).map _ = _
      rw [splitQuoted_of_isQuotable cs proper]
      show some (Token.quoted (String.ofList s.toList), cs) = _
      rw [String.ofList_toList]
  | comparison sign =>
      have stop := Comparison.isLongest_iff.mp ends
      cases sign with
      | exact | different | atMost | atLeast => exact ⟨_, _, rfl, rfl, rfl⟩
      | equal | less | greater => exact ⟨_, cs, rfl, rfl, readToken_single rfl stop⟩

/-- What the lexer reads is a token with a spelling, as long as can be, from the characters it is
made of. -/
theorem readToken_iff (noBlank : Text.isBlank c = false) :
    readToken c rest = some (t, after) ↔
      c :: rest = t.source ++ after ∧ t.EndsAt after ∧ t.IsProper := by
  constructor
  · intro read
    obtain ⟨characters, ends, proper⟩ := readToken_eq_some read
    exact ⟨characters, ends, proper noBlank⟩
  · rintro ⟨characters, ends, proper⟩
    obtain ⟨d, ds, same, -, read⟩ := readToken_source proper ends
    rw [← characters] at same
    cases same
    exact read

/-- A token is the same in front of any text that does not go on with it. -/
theorem readToken_front {more : List Char} (noBlank : Text.isBlank c = false)
    (read : readToken c rest = some (t, after)) (ends : t.EndsAt more) :
    ∃ tail, rest = tail ++ after ∧ readToken c (tail ++ more) = some (t, more) := by
  obtain ⟨characters, -, proper⟩ := (readToken_iff noBlank).mp read
  cases source : t.source with
  | nil => exact absurd source (Token.source_ne_nil proper)
  | cons d tail =>
      rw [source] at characters
      cases characters
      have again : c :: (tail ++ more) = t.source ++ more := by rw [source, List.cons_append]
      exact ⟨tail, rfl, (readToken_iff noBlank).mpr ⟨again, ends, proper⟩⟩

end Lexer

/-! ## First and last characters -/

/-- The tokens of a text have spellings. -/
theorem Splits.proper {cs : List Char} {ts : List Token} (splits : Splits cs ts) :
    ∀ t ∈ ts, t.IsProper := by
  induction splits with
  | blank rest => exact fun t member => absurd member List.not_mem_nil
  | token start read more ih =>
      obtain ⟨-, -, proper⟩ := (Lexer.readToken_iff (isBlank_of_start start)).mp read
      exact List.forall_mem_cons.mpr ⟨proper, ih⟩

theorem dropWhile_append_stop {p : Char → Bool} {d : Char} (cs ds : List Char)
    (stop : p d = false) : (cs ++ d :: ds).dropWhile p = cs.dropWhile p ++ d :: ds := by
  induction cs with
  | nil => rw [List.nil_append, List.dropWhile_cons_of_neg (by rw [stop]; decide)]; rfl
  | cons c cs ih =>
      by_cases taken : p c = true
      · rw [List.cons_append, List.dropWhile_cons_of_pos taken,
          List.dropWhile_cons_of_pos taken, ih]
      · rw [List.cons_append, List.dropWhile_cons_of_neg taken, List.dropWhile_cons_of_neg taken]
        rfl

theorem Token.eq_closeParen_of_source {t : Token} (proper : t.IsProper)
    (last : t.source.getLast? = some ')') : t = .closeParen := by
  cases t with
  | closeParen => rfl
  | openParen | slash => cases last
  | comparison sign => cases sign <;> cases last
  | word w =>
      have isBare := List.all_eq_true.mp proper.2 ')' (List.mem_of_getLast? last)
      exact absurd isBare (by decide)
  | quoted s =>
      have quote : (quoted s).source.getLast? = some '"' := by
        simp [source, List.getLast?_cons]
      rw [quote] at last
      cases last

/-- Characters that end with a closing parenthesis end with that token. -/
theorem Splits.getLast?_close {cs : List Char} {ts : List Token}
    (splits : Splits (cs ++ [')']) ts) : ts.getLast? = some .closeParen := by
  have proper := splits.proper
  generalize whole : cs ++ [')'] = ds at splits
  induction splits generalizing cs with
  | @blank ds rest =>
      rw [← whole, dropWhile_append_stop cs [] (by decide)] at rest
      simp at rest
  | @token ds after tail c t ts start read more ih =>
      rw [← whole, dropWhile_append_stop cs [] (by decide), Lexer.eq_source_append read] at start
      rcases after.eq_nil_or_concat with rfl | ⟨before, d, rfl⟩
      · -- the parenthesis is the last character of this token
        rw [List.append_nil] at start
        have last : t.source.getLast? = some ')' := by
          rw [← start]
          simp
        cases more with
        | blank =>
            rw [Token.eq_closeParen_of_source (proper t List.mem_cons_self) last]
            rfl
        | token noMore => cases noMore
      · rw [List.concat_eq_append, ← List.append_assoc] at start
        obtain ⟨-, same⟩ := List.append_inj' start rfl
        cases same
        rw [List.getLast?_cons, ih (fun u member => proper u (List.mem_cons_of_mem t member))
          List.concat_eq_append.symm]
        rfl

/-- Characters that start with the sign of a declaration start with a comparison. -/
theorem Splits.head_greater {cs : List Char} {ts : List Token} (splits : Splits ('>' :: cs) ts) :
    ∃ sign us, ts = .comparison sign :: us := by
  have proper := splits.proper
  cases splits with
  | blank none => cases none
  | @token _ after tail c t us start read more =>
      cases start
      have characters := Lexer.eq_source_append read
      cases t with
      | comparison sign => exact ⟨sign, us, rfl⟩
      | openParen | closeParen | slash | quoted s => cases characters
      | word w =>
          obtain ⟨d, ds, same, isBare, -⟩ := (proper _ List.mem_cons_self).toList_eq_cons
          rw [Token.source, same] at characters
          cases characters
          exact absurd isBare (by decide)

/-! ## Spellings that are found again -/

variable {cs : List Char} {ts : List Token}

/-- Characters that split do so in front of a closing parenthesis too. -/
theorem Splits.append_close {more : List Char} {us : List Token} (splits : Splits cs ts)
    (rest : Splits (')' :: more) us) : Splits (cs ++ ')' :: more) (ts ++ us) := by
  have close : Text.isBlank ')' = false := by decide
  induction splits with
  | blank none =>
      refine rest.of_dropWhile ?_
      rw [dropWhile_append_stop _ more close, none]
      rfl
  | @token cs after tail c t ts start read others ih =>
      have starts : (cs ++ ')' :: more).dropWhile Text.isBlank = c :: (tail ++ ')' :: more) := by
        rw [dropWhile_append_stop _ more close, start, List.cons_append]
      have ends : t.EndsAt (after ++ ')' :: more) := by
        cases after with
        | nil => exact .of_ends (ends_close more)
        | cons d after => exact (Lexer.readToken_eq_some read).2.1.of_head? fun d first => first
      obtain ⟨own, rfl, front⟩ := Lexer.readToken_front (isBlank_of_start start) read ends
      rw [← List.append_assoc] at front
      exact .token starts front ih

/-- Characters between parentheses. -/
theorem Splits.parens (splits : Splits cs ts) :
    Splits ('(' :: (cs ++ [')'])) (.openParen :: (ts ++ [.closeParen])) :=
  splits_open (splits.append_close (splits_close (.blank rfl)))

/-- A token with a spelling is found again in front of what does not go on with it. -/
theorem splits_source {t : Token} (proper : t.IsProper) (ends : t.EndsAt cs)
    (splits : Splits cs ts) : Splits (t.source ++ cs) (t :: ts) := by
  obtain ⟨c, rest, characters, noBlank, read⟩ := Lexer.readToken_source proper ends
  refine .token ?_ read splits
  rw [characters, List.dropWhile_cons_of_neg]
  rw [noBlank]
  decide

theorem splits_word {w : String} (bare : IsBareWord w) (ends : EndsWord cs)
    (splits : Splits cs ts) : Splits (w.toList ++ cs) (.word w :: ts) :=
  splits_source (t := .word w) bare ends splits

theorem splits_quoted {s : String} (quotable : isQuotable s.toList = true)
    (splits : Splits cs ts) : Splits ('"' :: (s.toList ++ '"' :: cs)) (.quoted s :: ts) := by
  have whole := splits_source (t := .quoted s) quotable trivial splits
  rwa [Token.source, List.append_assoc] at whole

theorem splits_sign (sign : Comparison) (ends : EndsSign cs) (splits : Splits cs ts) :
    Splits (sign.symbol.toList ++ cs) (.comparison sign :: ts) :=
  splits_source (t := .comparison sign) trivial (ends.isLongest sign) splits

/-- In front of anything that goes on neither with a word nor with a comparison sign, the text
splits into the tokens. -/
def Writes (text : String) (ts : List Token) : Prop :=
  ∀ ⦃more us⦄, EndsWord more → EndsSign more → Splits more us →
    Splits (text.toList ++ more) (ts ++ us)

theorem Writes.splits {text : String} (writes : Writes text ts) : Splits text.toList ts := by
  have whole := @writes [] [] nofun nofun (.blank rfl)
  rwa [List.append_nil, List.append_nil] at whole

end ContextQuery
