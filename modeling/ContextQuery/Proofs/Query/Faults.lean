import ContextQuery.Proofs.Query.Soundness
import ContextQuery.Proofs.Token.Positions

/-!
# Where faults are noticed

A reader leaves the end of the lexemes that it was given, and a fault is noticed at such an end: the
message names its first token, and the position is that of this token. One reader differs. A token
that cannot be a term is taken before the fault is told, so that the message names it and the
position is that of the token after it (`Noticed.notATerm`).

Every reader keeps this (`Tracks`), the three that call each other by induction on the room. Over a
whole text the ends are places in the text (`Query.parse_error_points_at_token`).
-/

namespace ContextQuery

namespace Parser

/-- The errors that are told where these lexemes come next. -/
inductive Noticed (ending : Ending) : List Lexeme → ParseError → Prop where
  | unexpected {what : Expectation} {ls : List Lexeme} (other : what ≠ .searchTerm ∨ ls = []) :
      Noticed ending ls (unexpected ending what ls)
  | notATerm (l : Lexeme) (rest : List Lexeme) :
      Noticed ending (l :: rest) (notATerm ending l.token rest)
  | tooDeep (l : Lexeme) (rest : List Lexeme) : Noticed ending (l :: rest) ⟨.tooDeep, l.start⟩

/-- The reader that was given the lexemes leaves an end of them, or notices a fault at one. -/
def Tracks {α : Type} (ending : Ending) (ls : List Lexeme) :
    Except ParseError (α × List Lexeme) → Prop
  | .ok (_, rest) => rest <:+ ls
  | .error e => ∃ back, back <:+ ls ∧ Noticed ending back e

variable {ending : Ending} {ls rest : List Lexeme} {α β : Type}

namespace Tracks

theorem ok (a : α) (rest : List Lexeme) : Tracks ending rest (.ok (a, rest)) :=
  List.suffix_refl rest

theorem error {e : ParseError} (noticed : Noticed ending ls e) :
    Tracks ending ls (.error e : Except ParseError (α × List Lexeme)) :=
  ⟨ls, List.suffix_refl ls, noticed⟩

theorem unexpected {what : Expectation} (other : what ≠ .searchTerm ∨ ls = []) :
    Tracks ending ls
      (.error (unexpected ending what ls) : Except ParseError (α × List Lexeme)) :=
  error (.unexpected other)

/-- A reader may go on from an end of the lexemes. -/
theorem mono {x : Except ParseError (α × List Lexeme)} (tracks : Tracks ending rest x)
    (isEnd : rest <:+ ls) : Tracks ending ls x := by
  cases x with
  | ok result => exact List.IsSuffix.trans tracks isEnd
  | error e =>
      obtain ⟨back, isBack, noticed⟩ := tracks
      exact ⟨back, isBack.trans isEnd, noticed⟩

theorem cons {l : Lexeme} {x : Except ParseError (α × List Lexeme)} (tracks : Tracks ending ls x) :
    Tracks ending (l :: ls) x :=
  tracks.mono (List.suffix_cons l ls)

/-- Readers that keep to the ends of their lexemes do so one after the other. -/
theorem bind {x : Except ParseError (α × List Lexeme)}
    {f : α × List Lexeme → Except ParseError (β × List Lexeme)} (first : Tracks ending ls x)
    (second : ∀ a rest, Tracks ending rest (f (a, rest))) : Tracks ending ls (x >>= f) := by
  cases x with
  | ok result => exact (second result.1 result.2).mono first
  | error e => exact first

end Tracks

/-! ## The readers below queries -/

theorem tracks_symbol {what : Expectation} (other : what ≠ .searchTerm) (ls : List Lexeme) :
    Tracks ending ls (symbol ending what ls) := by
  unfold symbol
  split
  · exact (Tracks.ok _ _).cons
  · exact (Tracks.ok _ _).cons
  · exact .unexpected (.inl other)

theorem tracks_modifier (ls : List Lexeme) : Tracks ending ls (modifier ending ls) := by
  unfold modifier
  refine (tracks_symbol (by decide) ls).bind fun name rest => ?_
  dsimp only
  split
  · exact .cons (.bind (tracks_symbol (by decide) _) fun value rest => .ok _ rest)
  · exact .ok _ _

theorem tracks_modifiers (ls : List Lexeme) : Tracks ending ls (modifiers ending ls) := by
  fun_induction modifiers ending ls with
  | case1 start rest e failed => exact (failed ▸ tracks_modifier rest).cons
  | case2 start rest m between first e failed ih =>
      have front : Tracks ending rest (.ok (m, between)) := first ▸ tracks_modifier rest
      exact ((failed ▸ ih).mono front).cons
  | case3 start rest m between first ms after more ih =>
      have front : Tracks ending rest (.ok (m, between)) := first ▸ tracks_modifier rest
      have back : Tracks ending between (.ok (ms, after)) := more ▸ ih
      exact (back.mono front).cons
  | case4 ls => exact .ok _ ls

/-- The words of a term are taken from the front. -/
theorem suffix_phrase (ls : List Lexeme) : (phrase ls).2 <:+ ls := by
  fun_induction phrase ls with
  | case1 => exact List.suffix_refl _
  | case2 w start rest notReserved ih => exact ih.trans (List.suffix_cons _ rest)
  | case3 => exact List.suffix_refl _

/-- The reader of terms takes the token that it refuses, for which `Noticed` has a case of its
own. -/
theorem tracks_term (ls : List Lexeme) : Tracks ending ls (term ending ls) := by
  unfold term
  split
  · exact (Tracks.ok _ _).cons
  · next rest => exact ((Tracks.ok _ _).mono (suffix_phrase rest)).cons
  · exact .error (.notATerm _ _)
  · exact .unexpected (.inr rfl)

theorem suffix_of_relationBase? {base : String} (found : relationBase? ls = some (base, rest)) :
    rest <:+ ls := by
  unfold relationBase? at found
  split at found
  · cases found
    exact List.suffix_cons _ _
  · split at found
    · cases found
    · cases found
      exact List.suffix_cons _ _
  · cases found

theorem tracks_clause (ls : List Lexeme) : Tracks ending ls (clause ending ls) := by
  unfold clause
  refine (tracks_symbol (by decide) ls).bind fun first rest => ?_
  dsimp only
  split
  · exact .ok _ rest
  · next base after found =>
    refine Tracks.mono ?_ (suffix_of_relationBase? found)
    exact (tracks_modifiers after).bind fun ms rest =>
      (tracks_term rest).bind fun text rest => .ok _ rest

theorem tracks_assignment (ls : List Lexeme) : Tracks ending ls (assignment ending ls) := by
  unfold assignment
  refine (tracks_symbol (by decide) ls).bind fun first rest => ?_
  dsimp only
  split
  · exact .cons (.bind (tracks_symbol (by decide) _) fun uri rest => .ok _ rest)
  · exact .ok _ _

/-! ## Queries -/

section Room

variable {room : Nat}

/-! ### One step of each reader -/

/-- One step of a search clause, from readers in less room. -/
theorem tracks_searchClause_of
    (inside : ∀ r < room, ∀ ls, Tracks ending ls (query ending r ls)) (ls : List Lexeme) :
    Tracks ending ls (searchClause ending room ls) := by
  rcases first_token .openParen ls with ⟨start, after, rfl⟩ | ends
  · cases room with
    | zero =>
        rw [searchClause_zero]
        exact .error (.tooDeep _ after)
    | succ room =>
        rw [searchClause_succ]
        refine ((inside room (Nat.lt_succ_self room) after).bind fun inner rest => ?_).cons
        dsimp only
        split
        · exact (Tracks.ok _ _).cons
        · exact .unexpected (.inl (by decide))
  · rw [searchClause_clause ends]
    exact (tracks_clause ls).bind fun c rest => .ok _ rest

/-- One step of a chain, from readers in less room. -/
theorem tracks_chain_of
    (search : ∀ r < room, ∀ ls, Tracks ending ls (searchClause ending r ls))
    (more : ∀ r < room, ∀ left ls, Tracks ending ls (chain ending r left ls)) (left : Query)
    (ls : List Lexeme) : Tracks ending ls (chain ending room left ls) := by
  cases found : operator? ls with
  | none =>
      rw [chain_none found]
      exact .ok left ls
  | some next =>
      obtain ⟨op, start, after⟩ := next
      obtain ⟨w, rfl, -⟩ := operator?_eq_some.mp found
      cases room with
      | zero =>
          rw [chain_zero found]
          exact .error (.tooDeep _ after)
      | succ room =>
          rw [chain_succ found]
          exact ((tracks_modifiers after).bind fun ms rest =>
            (search room (Nat.lt_succ_self room) rest).bind fun right rest =>
              more room (Nat.lt_succ_self room) _ rest).cons

/-- One step of a query, from its operands in the same room and queries in less. -/
theorem tracks_query_of (search : ∀ ls, Tracks ending ls (searchClause ending room ls))
    (more : ∀ left ls, Tracks ending ls (chain ending room left ls))
    (inside : ∀ r < room, ∀ ls, Tracks ending ls (query ending r ls)) (ls : List Lexeme) :
    Tracks ending ls (query ending room ls) := by
  rcases first_token (.comparison .greater) ls with ⟨start, after, rfl⟩ | ends
  · cases room with
    | zero =>
        rw [query_zero]
        exact .error (.tooDeep _ after)
    | succ room =>
        rw [query_succ]
        refine ((tracks_assignment after).bind fun (name, uri) rest => ?_).cons
        exact (inside room (Nat.lt_succ_self room) rest).bind fun subtree rest => .ok _ rest
  · rw [query_operands ends]
    exact (search ls).bind fun first rest => more first rest

/-! ### Any room -/

/-- The three readers that call each other keep to the ends of their lexemes, in any room. -/
theorem tracks_readers (ending : Ending) (room : Nat) :
    (∀ ls, Tracks ending ls (searchClause ending room ls)) ∧
      (∀ left ls, Tracks ending ls (chain ending room left ls)) ∧
        ∀ ls, Tracks ending ls (query ending room ls) := by
  induction room using Nat.strongRecOn with
  | ind room ih =>
      have search := tracks_searchClause_of fun r less => (ih r less).2.2
      have more := tracks_chain_of (fun r less => (ih r less).1) fun r less => (ih r less).2.1
      exact ⟨search, more, tracks_query_of search more fun r less => (ih r less).2.2⟩

theorem tracks_query (ls : List Lexeme) : Tracks ending ls (query ending room ls) :=
  (tracks_readers ending room).2.2 ls

/-! ## Whole texts -/

theorem tracks_sortKeys (ls : List Lexeme) : Tracks ending ls (sortKeys ending ls) := by
  fun_induction sortKeys ending ls with
  | case1 => exact .ok _ _
  | case2 l rest noKey => exact .ok _ _
  | case3 l rest base isKey e failed => exact (failed ▸ tracks_modifiers rest).cons
  | case4 l rest base isKey ms between first e failed ih =>
      have front : Tracks ending rest (.ok (ms, between)) := first ▸ tracks_modifiers rest
      exact ((failed ▸ ih).mono front).cons
  | case5 l rest base isKey ms between first keys after more ih =>
      have front : Tracks ending rest (.ok (ms, between)) := first ▸ tracks_modifiers rest
      have back : Tracks ending between (.ok (keys, after)) := more ▸ ih
      exact (back.mono front).cons

/-- The keyword of a sort is taken with at least one key, or the fault is noticed after it. -/
theorem tracks_sorting (q : Query) (ls : List Lexeme) :
    Tracks ending ls (sorting ending q ls) := by
  unfold sorting
  split
  · exact .ok _ _
  · next l rest =>
    split
    · refine ((tracks_sortKeys rest).bind fun keys after => ?_).cons
      cases keys with
      | nil => exact .unexpected (.inl (by decide))
      | cons key keys => exact .ok _ after
    · exact .ok _ _

theorem tracks_sortedQuery (ls : List Lexeme) :
    Tracks ending ls (sortedQuery ending room ls) := by
  induction room using Nat.strongRecOn generalizing ls with
  | ind room ih =>
      rcases first_token (.comparison .greater) ls with ⟨start, after, rfl⟩ | ends
      · cases room with
        | zero =>
            rw [sortedQuery_zero]
            exact .error (.tooDeep _ after)
        | succ room =>
            rw [sortedQuery_succ]
            refine ((tracks_assignment after).bind fun (name, uri) rest => ?_).cons
            exact (ih room (Nat.lt_succ_self room) rest).bind fun subtree rest => .ok _ rest
      · rw [sortedQuery_query ends]
        exact (tracks_query ls).bind fun q rest => tracks_sorting q rest

end Room

/-- A text that is refused is refused at one of its lexemes, or where they end. -/
theorem noticed_of_parse {s : String} {e : ParseError} (rejected : Query.parse s = .error e) :
    ∃ back, back <:+ (lex s).lexemes ∧ Noticed (lex s).ending back e := by
  have tracks : Tracks (lex s).ending (lex s).lexemes
      (sortedQuery (lex s).ending maxDepth (lex s).lexemes) := tracks_sortedQuery _
  unfold Query.parse at rejected
  dsimp only at rejected
  cases read : sortedQuery (lex s).ending maxDepth (lex s).lexemes with
  | error e' =>
      rw [read] at tracks rejected
      cases rejected
      exact tracks
  | ok result =>
      rw [read] at tracks rejected
      rw [ok_bind] at rejected
      split at rejected
      · cases rejected
      · cases rejected
        exact ⟨result.2, tracks, .unexpected (.inl (by decide))⟩

/-! ## Faults and places -/

variable {s : String} {used : List Lexeme} {what : Expectation} {found : Option Token}
  {position : Nat}

/-- A fault that is told where it is noticed has the place of the token that it names. -/
theorem pointsAt_of_unexpected {looked : Expectation} (split : (lex s).lexemes = used ++ ls)
    (same : unexpected (lex s).ending looked ls = ⟨.expected what found, position⟩) :
    looked = what ∧ PointsAt s position found ∧ (ls = [] → found = none) := by
  cases ls with
  | cons l rest =>
      cases same
      exact ⟨rfl, pointsAt_of_lexemes split, nofun⟩
  | nil =>
      unfold unexpected at same
      dsimp only at same
      split at same
      · next finished =>
        cases same
        exact ⟨rfl, pointsAt_of_finished finished, fun _ => rfl⟩
      · cases same

/-- The token that cannot be a term is the last in front of the place. -/
theorem follows_of_notATerm {l : Lexeme} (split : (lex s).lexemes = used ++ l :: rest)
    (same : notATerm (lex s).ending l.token rest = ⟨.expected what found, position⟩) :
    what = .searchTerm ∧ found = some l.token ∧ (∃ next, PointsAt s position next) ∧
      Follows s position l.token := by
  cases rest with
  | cons next rest =>
      cases same
      have longer : (lex s).lexemes = (used ++ [l]) ++ next :: rest := by simpa using split
      obtain ⟨before, after, cut, lexed, opens⟩ := cut_of_lexemes longer
      have last : (lex before).lexemes.getLast? = some l := by
        rw [lexed, List.getLast?_concat]
      have member : l ∈ (lex before).lexemes := List.mem_of_getLast? last
      exact ⟨rfl, rfl, ⟨_, pointsAt_of_lexemes longer⟩, before, after, l.start, cut, last,
        start_lt_of_finished cut.lexes member⟩
  | nil =>
      unfold notATerm at same
      dsimp only at same
      split at same
      · next finished =>
        cases same
        have last : (lex s).lexemes.getLast? = some l := by
          rw [split, List.getLast?_concat]
        have member : l ∈ (lex s).lexemes := List.mem_of_getLast? last
        exact ⟨rfl, rfl, ⟨_, pointsAt_of_finished finished⟩, s, "", l.start,
          cut_of_finished finished, last, start_lt_of_finished finished member⟩
      · cases same

end Parser

/-- A text that is refused for what was found in it: the position of the error is a place in the
text, before which the text lexes to its end, and where there is one token or the end of the text.
That is what the message names, unless a term was looked for and another token was found. This one
is in front of the place, and what is there follows it. -/
theorem Query.parse_error_points_at_token {s : String} {what : Expectation} {found : Option Token}
    {position : Nat} (rejected : parse s = .error ⟨.expected what found, position⟩) :
    ∃ next, (∀ other, PointsAt s position other ↔ other = next) ∧
      (what ≠ .searchTerm ∨ found = none → found = next) ∧
      ∀ t, what = .searchTerm → found = some t → Follows s position t := by
  have only {next : Option Token} (points : PointsAt s position next) (other : Option Token) :
      PointsAt s position other ↔ other = next :=
    ⟨fun there => there.unique points, fun same => same ▸ points⟩
  obtain ⟨back, ⟨used, split⟩, noticed⟩ := Parser.noticed_of_parse rejected
  generalize same : (⟨.expected what found, position⟩ : ParseError) = e at noticed
  cases noticed with
  | unexpected other =>
      obtain ⟨rfl, points, none⟩ := Parser.pointsAt_of_unexpected split.symm same.symm
      refine ⟨found, only points, fun _ => rfl, ?_⟩
      rintro t rfl rfl
      -- the fault is told here for want of a term at the end of the text only
      rcases other with away | atEnd
      · exact absurd rfl away
      · cases none atEnd
  | notATerm l rest =>
      obtain ⟨rfl, rfl, ⟨next, points⟩, follows⟩ :=
        Parser.follows_of_notATerm split.symm same.symm
      refine ⟨next, only points, ?_, ?_⟩
      · rintro (away | none)
        · exact absurd rfl away
        · cases none
      · rintro t - named
        cases named
        exact follows
  | tooDeep l rest => cases same

/-- The parenthesis is where the term should be. It starts at the offset 4, and the error has the
offset 5, where the text ends. -/
theorem Query.parse_error_points_at_token_past_term :
    parse "a = )" = .error ⟨.expected .searchTerm (some .closeParen), 5⟩ ∧
      PointsAt "a = )" 4 (some .closeParen) ∧ PointsAt "a = )" 5 none ∧
      ¬ PointsAt "a = )" 5 (some .closeParen) ∧ Follows "a = )" 5 .closeParen := by
  have scan : lex "a = )" = ⟨[⟨.word "a", 0⟩, ⟨.comparison .equal, 2⟩] ++ [⟨.closeParen, 4⟩],
      .finished 5⟩ := by decide +kernel
  have rejected : parse "a = )" = .error ⟨.expected .searchTerm (some .closeParen), 5⟩ := by
    rw [parse, scan]
    simp [Parser.sortedQuery, Parser.query, Parser.searchClause, Parser.clause, Parser.symbol,
      Parser.relationBase?, Parser.modifiers, Parser.term, Parser.notATerm, bind, Except.bind]
  have atEnd : PointsAt "a = )" 5 none := pointsAt_of_finished (congrArg Scan.ending scan)
  obtain ⟨next, -, -, behind⟩ := parse_error_points_at_token rejected
  refine ⟨rejected, pointsAt_of_lexemes (congrArg Scan.lexemes scan), atEnd, ?_,
    behind _ rfl rfl⟩
  intro there
  cases atEnd.unique there

end ContextQuery
