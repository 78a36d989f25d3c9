import ContextQuery.Proofs.Except
import ContextQuery.Proofs.Query.Grammar

/-!
# The readers below queries

Each reader of names, modifiers, terms, clauses, declarations and sort keys is compared with its
rule in both directions. What it takes from the front of the lexemes is what the rule admits
(`clause_sound`); and what the rule admits it takes, whatever follows, as long as that cannot
continue it (`clause_complete`).
-/

namespace ContextQuery.Parser

open Grammar

variable {ending : Ending} {ls rest used : List Lexeme}

/-! ## Names -/

/-- A name is read exactly where the first lexeme can stand for one, and only this lexeme is taken.
-/
theorem symbol_eq_ok {what : Expectation} {s : String} :
    symbol ending what ls = .ok (s, rest) ↔
      ∃ t start, ls = ⟨t, start⟩ :: rest ∧ t.symbol? = some s := by
  unfold symbol
  constructor
  · intro read
    split at read
    · cases read
      exact ⟨_, _, rfl, rfl⟩
    · cases read
      exact ⟨_, _, rfl, rfl⟩
    · cases read
  · rintro ⟨t, start, rfl, isSymbol⟩
    cases t with
    | word w => cases isSymbol; rfl
    | quoted w => cases isSymbol; rfl
    | openParen | closeParen | slash | comparison sign => cases isSymbol

theorem symbol_cons {what : Expectation} {t : Token} {start : Nat} {s : String}
    (isSymbol : t.symbol? = some s) : symbol ending what (⟨t, start⟩ :: ls) = .ok (s, ls) :=
  symbol_eq_ok.mpr ⟨t, start, rfl, isSymbol⟩

/-! ## Modifiers -/

/-- What comes next cannot continue a modifier. -/
def EndsModifier (ls : List Lexeme) : Prop :=
  ∀ l ∈ ls.head?, ∀ sign, l.token ≠ .comparison sign

/-- What comes next can neither continue a modifier nor be another one. -/
def EndsModifiers (ls : List Lexeme) : Prop :=
  EndsModifier ls ∧ ∀ l ∈ ls.head?, l.token ≠ .slash

theorem endsModifiers_nil : EndsModifiers [] := by
  constructor <;> simp [EndsModifier]

/-- A name or a string ends the modifiers before it. -/
theorem endsModifiers_of_symbol {l : Lexeme} (isSymbol : l.token.symbol?.isSome) :
    EndsModifiers (l :: ls) := by
  obtain ⟨t, start⟩ := l
  cases t <;> simp_all [EndsModifiers, EndsModifier, Token.symbol?]

/-- What a modifier is read from makes, behind a slash, one modifier more in front of any others. -/
theorem modifier_sound {m : Modifier} (read : modifier ending ls = .ok (m, rest)) :
    ∃ used, ls = used ++ rest ∧
      ∀ {ts ms}, Modifiers ts ms → Modifiers (.slash :: (tokens used ++ ts)) (m :: ms) := by
  obtain ⟨⟨name, after⟩, named, choice⟩ := bind_eq_ok.mp read
  obtain ⟨t, start, rfl, isName⟩ := symbol_eq_ok.mp named
  dsimp only at choice
  split at choice
  · next sign place after =>
    obtain ⟨⟨value, more⟩, valued, last⟩ := bind_eq_ok.mp choice
    obtain ⟨u, start', rfl, isValue⟩ := symbol_eq_ok.mp valued
    cases last
    exact ⟨[_, ⟨.comparison sign, place⟩, _], rfl, fun more => .valued isName isValue more⟩
  · cases choice
    exact ⟨[_], rfl, fun more => .named isName more⟩

/-- Modifiers are read from lexemes that the grammar admits as these modifiers. -/
theorem modifiers_sound {ms : List Modifier} (read : modifiers ending ls = .ok (ms, rest)) :
    ∃ used, ls = used ++ rest ∧ Modifiers (tokens used) ms := by
  fun_induction modifiers ending ls generalizing ms rest with
  | case1 => cases read
  | case2 => cases read
  | case3 start after m between first ms' last more ih =>
      cases read
      obtain ⟨used, rfl, modified⟩ := modifier_sound first
      obtain ⟨used', rfl, others⟩ := ih more
      refine ⟨⟨.slash, start⟩ :: (used ++ used'), by simp, ?_⟩
      rw [tokens_cons, tokens_append]
      exact modified others
  | case4 ls =>
      cases read
      exact ⟨[], rfl, .none⟩

theorem modifier_named {t : Token} {start : Nat} {name : String} (isName : t.symbol? = some name)
    (ends : EndsModifier ls) :
    modifier ending (⟨t, start⟩ :: ls) = .ok (⟨name, none, none⟩, ls) := by
  unfold modifier
  rw [symbol_cons isName, ok_bind]
  dsimp only
  split
  · next sign place ls => exact absurd rfl (ends ⟨.comparison sign, place⟩ rfl sign)
  · rfl

theorem modifier_valued {t u : Token} {start place start' : Nat} {sign : Comparison}
    {name value : String} (isName : t.symbol? = some name) (isValue : u.symbol? = some value) :
    modifier ending (⟨t, start⟩ :: ⟨.comparison sign, place⟩ :: ⟨u, start'⟩ :: ls) =
      .ok (⟨name, some sign.symbol, some value⟩, ls) := by
  unfold modifier
  rw [symbol_cons isName, ok_bind]
  dsimp only
  rw [symbol_cons isValue, ok_bind]
  rfl

theorem modifiers_cons {start : Nat} {m : Modifier} {ms : List Modifier} {between : List Lexeme}
    (first : modifier ending ls = .ok (m, between))
    (more : modifiers ending between = .ok (ms, rest)) :
    modifiers ending (⟨.slash, start⟩ :: ls) = .ok (m :: ms, rest) := by
  rw [modifiers]
  split
  · next failed => rw [first] at failed; cases failed
  · next succeeded =>
    rw [first] at succeeded
    cases succeeded
    rw [more]

theorem modifiers_of_ends (ends : EndsModifiers ls) : modifiers ending ls = .ok ([], ls) := by
  unfold modifiers
  split
  · next start rest => exact absurd rfl (ends.2 ⟨.slash, start⟩ rfl)
  · rfl

/-- Modifiers that the grammar admits are read as they are, where nothing comes next that could go
on with them. -/
theorem modifiers_complete {ts : List Token} {ms : List Modifier} (modified : Modifiers ts ms)
    (same : tokens used = ts) (ends : EndsModifiers rest) :
    modifiers ending (used ++ rest) = .ok (ms, rest) := by
  -- the next modifier starts with a slash, which ends the one before it
  have endsBetween {used : List Lexeme} {ts : List Token} {ms : List Modifier}
      (more : Modifiers ts ms) (same : tokens used = ts) : EndsModifier (used ++ rest) := by
    cases more with
    | none =>
        rw [tokens_eq_nil.mp same]
        exact ends.1
    | named isName more | valued isName isValue more =>
        obtain ⟨start, after, rfl, -⟩ := tokens_eq_cons.mp same
        simp [EndsModifier]
  induction modified generalizing used with
  | none =>
      rw [tokens_eq_nil.mp same]
      exact modifiers_of_ends ends
  | named isName more ih =>
      obtain ⟨slash, ls₁, rfl, same₁⟩ := tokens_eq_cons.mp same
      obtain ⟨start, ls₂, rfl, same₂⟩ := tokens_eq_cons.mp same₁
      exact modifiers_cons (modifier_named isName (endsBetween more same₂)) (ih same₂)
  | valued isName isValue more ih =>
      obtain ⟨slash, ls₁, rfl, same₁⟩ := tokens_eq_cons.mp same
      obtain ⟨start, ls₂, rfl, same₂⟩ := tokens_eq_cons.mp same₁
      obtain ⟨place, ls₃, rfl, same₃⟩ := tokens_eq_cons.mp same₂
      obtain ⟨start', ls₄, rfl, same₄⟩ := tokens_eq_cons.mp same₃
      exact modifiers_cons (modifier_valued isName isValue) (ih same₄)

/-! ## Terms -/

theorem joinWords_eq_intercalate (w : String) (ws : List String) :
    joinWords w ws = " ".intercalate (w :: ws) := by
  induction ws generalizing w with
  | nil => rfl
  | cons v vs ih =>
      show w ++ " " ++ joinWords v vs = " ".intercalate (w :: v :: vs)
      rw [ih, String.intercalate_cons_cons]

/-- The words that go on with a term are those in front, none of them reserved. -/
theorem phrase_sound (ls : List Lexeme) :
    ∃ used, ls = used ++ (phrase ls).2 ∧ tokens used = (phrase ls).1.map .word ∧
      ∀ v ∈ (phrase ls).1, isReserved v = false := by
  fun_induction phrase ls with
  | case1 w start rest reserved => exact ⟨[], rfl, rfl, by simp⟩
  | case2 w start rest free ih =>
      obtain ⟨used, split, same, all⟩ := ih
      refine ⟨⟨.word w, start⟩ :: used, ?_, ?_, ?_⟩
      · rw [List.cons_append, ← split]
      · rw [tokens_cons, same, List.map_cons]
      · intro v member
        rcases List.mem_cons.mp member with rfl | member
        · exact Bool.eq_false_iff.mpr free
        · exact all v member
  | case3 ls => exact ⟨[], rfl, rfl, by simp⟩

/-- A term is read from lexemes that the grammar admits as this term. -/
theorem term_sound {s : String} (read : term ending ls = .ok (s, rest)) :
    ∃ used, ls = used ++ rest ∧ Term (tokens used) s := by
  unfold term at read
  split at read
  · cases read
    exact ⟨[_], rfl, .quoted _⟩
  · next w start after =>
    cases read
    obtain ⟨used, split, same, all⟩ := phrase_sound after
    refine ⟨⟨.word w, start⟩ :: used, ?_, ?_⟩
    · rw [List.cons_append, ← split]
    · rw [tokens_cons, same, joinWords_eq_intercalate]
      exact .words w _ all
  · cases read
  · cases read

/-- Where no relation comes next, no word comes next that would continue a term. -/
theorem phrase_complete {ws : List String} (same : tokens used = ws.map .word)
    (all : ∀ v ∈ ws, isReserved v = false) (ends : relationBase? rest = none) :
    phrase (used ++ rest) = (ws, rest) := by
  induction ws generalizing used with
  | nil =>
      rw [tokens_eq_nil.mp same, List.nil_append]
      unfold phrase
      split
      · next w start rest =>
        have reserved : isReserved w = true := by
          by_contra free
          simp [relationBase?, free] at ends
        rw [if_pos reserved]
      · rfl
  | cons w ws ih =>
      obtain ⟨start, after, rfl, others⟩ := tokens_eq_cons.mp same
      have free : isReserved w = false := all w List.mem_cons_self
      have more := ih others fun v member => all v (List.mem_cons_of_mem w member)
      rw [List.cons_append, phrase, free, more]
      rfl

theorem term_complete {s : String} (isTerm : Term (tokens used) s)
    (ends : relationBase? rest = none) : term ending (used ++ rest) = .ok (s, rest) := by
  generalize same : tokens used = ts at isTerm
  cases isTerm with
  | quoted s =>
      obtain ⟨start, after, rfl, none⟩ := tokens_eq_cons.mp same
      rw [tokens_eq_nil.mp none]
      rfl
  | words w ws all =>
      obtain ⟨start, after, rfl, others⟩ := tokens_eq_cons.mp same
      rw [← joinWords_eq_intercalate]
      show Except.ok (joinWords w (phrase (after ++ rest)).1, (phrase (after ++ rest)).2) = _
      rw [phrase_complete others all ends]

/-! ## Clauses -/

/-- A relation is found exactly where the first lexeme is the base of one. -/
theorem relationBase?_eq_some {base : String} :
    relationBase? ls = some (base, rest) ↔ ∃ t start, ls = ⟨t, start⟩ :: rest ∧ Base t base := by
  constructor
  · intro found
    unfold relationBase? at found
    split at found
    · cases found
      exact ⟨_, _, rfl, .sign _⟩
    · next w start after =>
      split at found
      · cases found
      · next free =>
        cases found
        exact ⟨_, _, rfl, .named w (Bool.eq_false_iff.mpr free)⟩
    · cases found
  · rintro ⟨t, start, rfl, isBase⟩
    cases isBase with
    | sign sign => rfl
    | named w free => simp [relationBase?, free]

/-- A clause is read from lexemes that say it. -/
theorem clause_sound {c : Clause} (read : clause ending ls = .ok (c, rest)) :
    ∃ used, ls = used ++ rest ∧ Says (tokens used) c := by
  obtain ⟨⟨first, after⟩, named, choice⟩ := bind_eq_ok.mp read
  obtain ⟨t, start, rfl, isSymbol⟩ := symbol_eq_ok.mp named
  dsimp only at choice
  split at choice
  · cases choice
    exact ⟨[_], rfl, .alone isSymbol⟩
  · next base afterBase found =>
    obtain ⟨r, place, rfl, isBase⟩ := relationBase?_eq_some.mp found
    obtain ⟨⟨ms, afterModifiers⟩, modified, choice⟩ := bind_eq_ok.mp choice
    obtain ⟨⟨text, afterTerm⟩, termed, last⟩ := bind_eq_ok.mp choice
    obtain ⟨front, rfl, areModifiers⟩ := modifiers_sound modified
    obtain ⟨back, rfl, isTerm⟩ := term_sound termed
    cases last
    refine ⟨⟨t, start⟩ :: ⟨r, place⟩ :: (front ++ back), by simp, ?_⟩
    rw [tokens_cons, tokens_cons, tokens_append]
    exact .inFull isSymbol isBase areModifiers isTerm

/-- Lexemes that say a clause are read as this clause, where no relation comes next. -/
theorem clause_complete {c : Clause} (stated : Says (tokens used) c)
    (ends : relationBase? rest = none) : clause ending (used ++ rest) = .ok (c, rest) := by
  generalize same : tokens used = ts at stated
  cases stated with
  | alone isTerm =>
      obtain ⟨start, after, rfl, none⟩ := tokens_eq_cons.mp same
      rw [tokens_eq_nil.mp none]
      unfold clause
      rw [List.cons_append, List.nil_append, symbol_cons isTerm, ok_bind]
      dsimp only
      rw [ends]
      rfl
  | inFull isIndex isBase modified isTerm =>
      obtain ⟨start, ls₁, rfl, same₁⟩ := tokens_eq_cons.mp same
      obtain ⟨place, ls₂, rfl, same₂⟩ := tokens_eq_cons.mp same₁
      obtain ⟨front, back, rfl, sameFront, rfl⟩ := tokens_eq_append.mp same₂
      -- a term starts with a name or a string, which ends the modifiers
      have endsModifiers : EndsModifiers (back ++ rest) := by
        obtain ⟨u, us, split, isSymbol⟩ := isTerm.head
        obtain ⟨start, back, rfl, -⟩ := tokens_eq_cons.mp split
        exact endsModifiers_of_symbol isSymbol
      have found := (@relationBase?_eq_some _ (front ++ (back ++ rest)) _).mpr
        ⟨_, place, rfl, isBase⟩
      unfold clause
      rw [List.cons_append, symbol_cons isIndex, ok_bind]
      dsimp only
      rw [List.cons_append, List.append_assoc, found]
      dsimp only
      rw [modifiers_complete modified sameFront endsModifiers, ok_bind]
      dsimp only
      rw [term_complete isTerm ends, ok_bind]
      rfl

/-! ## Namespace declarations -/

/-- A declaration is read from lexemes that, behind the sign, make it. -/
theorem assignment_sound {name : Option String} {uri : String}
    (read : assignment ending ls = .ok ((name, uri), rest)) :
    ∃ used, ls = used ++ rest ∧ Assigns (.comparison .greater :: tokens used) name uri := by
  obtain ⟨⟨first, after⟩, named, choice⟩ := bind_eq_ok.mp read
  obtain ⟨t, start, rfl, isFirst⟩ := symbol_eq_ok.mp named
  dsimp only at choice
  split at choice
  · next place after =>
    obtain ⟨⟨second, more⟩, declared, last⟩ := bind_eq_ok.mp choice
    obtain ⟨u, start', rfl, isSecond⟩ := symbol_eq_ok.mp declared
    cases last
    exact ⟨[_, ⟨.comparison .equal, place⟩, _], rfl, .named isFirst isSecond⟩
  · cases choice
    exact ⟨[_], rfl, .bare isFirst⟩

theorem assignment_complete {name : Option String} {uri : String}
    (assigns : Assigns (.comparison .greater :: tokens used) name uri)
    (ends : ∀ l ∈ rest.head?, l.token ≠ .comparison .equal) :
    assignment ending (used ++ rest) = .ok ((name, uri), rest) := by
  generalize same : tokens used = ts at assigns
  cases assigns with
  | named isName isUri =>
      obtain ⟨start, ls₁, rfl, same₁⟩ := tokens_eq_cons.mp same
      obtain ⟨place, ls₂, rfl, same₂⟩ := tokens_eq_cons.mp same₁
      obtain ⟨start', ls₃, rfl, same₃⟩ := tokens_eq_cons.mp same₂
      rw [tokens_eq_nil.mp same₃]
      unfold assignment
      rw [List.cons_append, symbol_cons isName, ok_bind]
      dsimp only [List.cons_append, List.nil_append]
      rw [symbol_cons isUri, ok_bind]
      rfl
  | bare isUri =>
      obtain ⟨start, after, rfl, none⟩ := tokens_eq_cons.mp same
      rw [tokens_eq_nil.mp none]
      unfold assignment
      rw [List.cons_append, List.nil_append, symbol_cons isUri, ok_bind]
      dsimp only
      split
      · next place rest => exact absurd rfl (ends ⟨.comparison .equal, place⟩ rfl)
      · rfl

/-! ## Sort keys -/

/-- Sort keys are read from lexemes that the grammar admits as these keys. -/
theorem sortKeys_sound {keys : List SortKey} (read : sortKeys ending ls = .ok (keys, rest)) :
    ∃ used, ls = used ++ rest ∧ Keys (tokens used) keys := by
  fun_induction sortKeys ending ls generalizing keys rest with
  | case1 =>
      cases read
      exact ⟨[], rfl, .none⟩
  | case2 =>
      cases read
      exact ⟨[], rfl, .none⟩
  | case3 => cases read
  | case4 => cases read
  | case5 l after base isBase ms between modified keys last more ih =>
      cases read
      obtain ⟨front, rfl, areModifiers⟩ := modifiers_sound modified
      obtain ⟨back, rfl, others⟩ := ih more
      refine ⟨l :: (front ++ back), by simp, ?_⟩
      rw [tokens_cons, tokens_append]
      exact .key isBase areModifiers others

theorem sortKeys_complete {keys : List SortKey} (sorting : Keys (tokens ls) keys) :
    sortKeys ending ls = .ok (keys, []) := by
  generalize same : tokens ls = ts at sorting
  induction sorting generalizing ls with
  | none =>
      rw [tokens_eq_nil.mp same, sortKeys]
  | key isBase modified more ih =>
      obtain ⟨start, after, rfl, split⟩ := tokens_eq_cons.mp same
      obtain ⟨front, back, rfl, sameFront, sameBack⟩ := tokens_eq_append.mp split
      -- the next key starts with a name, which ends the modifiers of this one
      have endsModifiers : EndsModifiers back := by
        cases more with
        | none =>
            rw [tokens_eq_nil.mp sameBack]
            exact endsModifiers_nil
        | key isNext modified more =>
            obtain ⟨start, back, rfl, -⟩ := tokens_eq_cons.mp sameBack
            exact endsModifiers_of_symbol (by rw [isNext]; rfl)
      have first := @modifiers_complete ending _ _ _ _ modified sameFront endsModifiers
      rw [sortKeys]
      split
      · next absent =>
        rw [isBase] at absent
        cases absent
      · next present =>
        rw [isBase] at present
        cases present
        split
        · next failed =>
          rw [first] at failed
          cases failed
        · next succeeded =>
          rw [first] at succeeded
          cases succeeded
          rw [ih sameBack]

end ContextQuery.Parser
