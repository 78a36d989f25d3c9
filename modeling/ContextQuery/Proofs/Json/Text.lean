import ContextQuery.Json.Token
import ContextQuery.Json.Value

/-!
# What a JSON text denotes

A value is written with certain tokens, whatever the blanks between them, and a text denotes the
value whose tokens it has. No text denotes two values, since the tokens of a value are found again in
front of any others (`eq_of_tokens_append`). Both texts that are written for a value denote it, the
one without blanks (`denotes_compact`) and the indented one (`denotes_pretty_iff`): what is escaped
in a string is read as it was.
-/

namespace ContextQuery.Json

/-! ## The tokens of a value -/

mutual

/-- The tokens that write a value. -/
def tokens : Json → List Token
  | null => [.null]
  | bool b => [.bool b]
  | str s => [.string s]
  | arr items => .openBracket :: (itemTokens items ++ [.closeBracket])
  | obj members => .openBrace :: (memberTokens members ++ [.closeBrace])

/-- The tokens of values with commas between them. -/
def itemTokens : List Json → List Token
  | [] => []
  | [v] => v.tokens
  | v :: vs => v.tokens ++ .comma :: itemTokens vs

/-- The tokens of members with commas between them. -/
def memberTokens : List (String × Json) → List Token
  | [] => []
  | [(k, v)] => .string k :: .colon :: v.tokens
  | (k, v) :: ms => .string k :: .colon :: (v.tokens ++ .comma :: memberTokens ms)

end

/-- The text is one of the value: it can be cut into the tokens of the value and blanks. -/
def Denotes (text : String) (v : Json) : Prop :=
  lex text = ⟨v.tokens, true⟩

/-! ## One value at most -/

/-- No value starts with a closing bracket. -/
theorem tokens_append_ne_closeBracket (v : Json) (ts us : List Token) :
    v.tokens ++ ts ≠ .closeBracket :: us := by
  cases v <;> simp [tokens]

theorem itemTokens_append_ne_closeBracket (v : Json) (vs : List Json) (ts us : List Token) :
    itemTokens (v :: vs) ++ ts ≠ .closeBracket :: us := by
  cases vs with
  | nil => exact tokens_append_ne_closeBracket v ts us
  | cons w ws =>
      rw [itemTokens, List.append_assoc]
      · exact tokens_append_ne_closeBracket v _ us
      · nofun

mutual

/-- A value is known from its tokens, and so is where it ends. -/
theorem eq_of_tokens_append : (v w : Json) → {ts us : List Token} →
    v.tokens ++ ts = w.tokens ++ us → v = w ∧ ts = us
  | null, w, _, _, same => by cases w <;> simp_all [tokens]
  | bool _, w, _, _, same => by cases w <;> simp_all [tokens]
  | str _, w, _, _, same => by cases w <;> simp_all [tokens]
  | arr items, w, _, _, same => by
      cases w with
      | arr others =>
          simp only [tokens, List.cons_append, List.append_assoc, List.nil_append] at same
          obtain ⟨rfl, rfl⟩ := eq_of_itemTokens_append items others (List.cons.inj same).2
          exact ⟨rfl, rfl⟩
      | _ => simp [tokens] at same
  | obj members, w, _, _, same => by
      cases w with
      | obj others =>
          simp only [tokens, List.cons_append, List.append_assoc, List.nil_append] at same
          obtain ⟨rfl, rfl⟩ := eq_of_memberTokens_append members others (List.cons.inj same).2
          exact ⟨rfl, rfl⟩
      | _ => simp [tokens] at same

/-- The items of an array are known from their tokens. After an item a comma and the closing bracket
tell whether there are more. -/
theorem eq_of_itemTokens_append : (vs ws : List Json) → {ts us : List Token} →
    itemTokens vs ++ .closeBracket :: ts = itemTokens ws ++ .closeBracket :: us →
      vs = ws ∧ ts = us
  | [], [], _, _, same => ⟨rfl, (List.cons.inj same).2⟩
  | [], w :: ws, _, _, same => absurd same.symm (itemTokens_append_ne_closeBracket w ws _ _)
  | v :: vs, [], _, _, same => absurd same (itemTokens_append_ne_closeBracket v vs _ _)
  | [v], [w], _, _, same => by
      obtain ⟨rfl, ends⟩ := eq_of_tokens_append v w same
      exact ⟨rfl, (List.cons.inj ends).2⟩
  | [v], w :: _ :: _, _, _, same => by
      simp only [itemTokens, List.append_assoc] at same
      cases (eq_of_tokens_append v w same).2
  | v :: _ :: _, [w], _, _, same => by
      simp only [itemTokens, List.append_assoc] at same
      cases (eq_of_tokens_append v w same).2
  | v :: v' :: vs, w :: w' :: ws, _, _, same => by
      simp only [itemTokens, List.append_assoc] at same
      obtain ⟨rfl, more⟩ := eq_of_tokens_append v w same
      obtain ⟨others, rfl⟩ := eq_of_itemTokens_append (v' :: vs) (w' :: ws) (List.cons.inj more).2
      exact ⟨by rw [others], rfl⟩

/-- The members of an object are known from their tokens. -/
theorem eq_of_memberTokens_append : (ms ns : List (String × Json)) → {ts us : List Token} →
    memberTokens ms ++ .closeBrace :: ts = memberTokens ns ++ .closeBrace :: us →
      ms = ns ∧ ts = us
  | [], [], _, _, same => ⟨rfl, (List.cons.inj same).2⟩
  | [], (_, _) :: ns, _, _, same => by cases ns <;> cases same
  | (_, _) :: ms, [], _, _, same => by cases ms <;> cases same
  | [(_, v)], [(_, w)], _, _, same => by
      simp only [memberTokens, List.cons_append, List.cons.injEq, Token.string.injEq, true_and]
        at same
      obtain ⟨rfl, ends⟩ := eq_of_tokens_append v w same.2
      exact ⟨by rw [same.1], (List.cons.inj ends).2⟩
  | [(_, v)], (_, w) :: _ :: _, _, _, same => by
      simp only [memberTokens, List.cons_append, List.append_assoc, List.cons.injEq, true_and]
        at same
      cases (eq_of_tokens_append v w same.2).2
  | (_, v) :: _ :: _, [(_, w)], _, _, same => by
      simp only [memberTokens, List.cons_append, List.append_assoc, List.cons.injEq, true_and]
        at same
      cases (eq_of_tokens_append v w same.2).2
  | (_, v) :: m :: ms, (_, w) :: n :: ns, _, _, same => by
      simp only [memberTokens, List.cons_append, List.append_assoc, List.cons.injEq,
        Token.string.injEq, true_and] at same
      obtain ⟨rfl, more⟩ := eq_of_tokens_append v w same.2
      obtain ⟨others, rfl⟩ := eq_of_memberTokens_append (m :: ms) (n :: ns) (List.cons.inj more).2
      exact ⟨by rw [same.1, others], rfl⟩

end

theorem tokens_injective : Function.Injective tokens := by
  intro v w same
  exact (eq_of_tokens_append v w (congrArg (· ++ []) same)).1

/-- A text denotes one value at most. -/
theorem Denotes.eq {text : String} {v w : Json} (first : Denotes text v) (second : Denotes text w) :
    v = w := by
  have scans : Scan.mk v.tokens true = ⟨w.tokens, true⟩ := first.symm.trans second
  exact tokens_injective (congrArg Scan.tokens scans)

/-! ## Characters of a string -/

namespace Lexer

theorem hexValues?_hexDigit {n : Nat} (bound : n < 0x20) :
    hexValues? '0' '0' (Text.hexDigit (n / 16)) (Text.hexDigit (n % 16)) = some n := by
  have each : ∀ n < 0x20,
      hexValues? '0' '0' (Text.hexDigit (n / 16)) (Text.hexDigit (n % 16)) = some n := by decide
  exact each n bound

theorem readString_char {c : Char} (noQuote : c ≠ '"') (noBackslash : c ≠ '\\')
    (noControl : ¬c.toNat < 0x20) (rest : List Char) :
    readString (c :: rest) = (readString rest).map fun (ps, after) => (.char c :: ps, after) := by
  rw [readString, if_neg (by simp [noControl, noBackslash])]
  · exact noQuote
  · intros
    contradiction
  · intros
    contradiction

/-- A control character that was written as a unit is that character again, and is never half of a
pair. -/
theorem joinPlaces_unit {n : Nat} (bound : n < 0x20) (ps : List Place) :
    joinPlaces (.unit n :: ps) = (joinPlaces ps).map (Char.ofNat n :: ·) := by
  have noHigh : isHighHalf n = false := by simp [isHighHalf]; omega
  have noLow : isLowHalf n = false := by simp [isLowHalf]; omega
  rw [joinPlaces.eq_def]
  simp only [noHigh, noLow, Bool.false_eq_true, if_false]

/-- What is written for a character is read as one place, which is that character. -/
theorem exists_place (c : Char) : ∃ p,
    (∀ rest, readString (stringChar c ++ rest) =
      (readString rest).map fun (ps, after) => (p :: ps, after)) ∧
    ∀ ps, joinPlaces (p :: ps) = (joinPlaces ps).map (c :: ·) := by
  unfold stringChar
  split
  · exact ⟨.char '"', fun _ => rfl, fun _ => rfl⟩
  · exact ⟨.char '\\', fun _ => rfl, fun _ => rfl⟩
  · exact ⟨.char '\x08', fun _ => rfl, fun _ => rfl⟩
  · exact ⟨.char '\x0c', fun _ => rfl, fun _ => rfl⟩
  · exact ⟨.char '\n', fun _ => rfl, fun _ => rfl⟩
  · exact ⟨.char '\r', fun _ => rfl, fun _ => rfl⟩
  · exact ⟨.char '\t', fun _ => rfl, fun _ => rfl⟩
  · next noQuote noBackslash _ _ _ _ _ =>
    by_cases control : c.toNat < 0x20
    · refine ⟨.unit c.toNat, fun rest => ?_, fun ps => ?_⟩
      · rw [if_pos control]
        simp only [List.cons_append, List.nil_append, readString, hexValues?_hexDigit control]
      · rw [joinPlaces_unit control, Char.ofNat_toNat]
    · refine ⟨.char c, fun rest => ?_, fun _ => rfl⟩
      rw [if_neg control]
      exact readString_char noQuote noBackslash control rest

/-- The characters that are written in a string are read as they are, up to its closing quote. -/
theorem exists_places (cs rest : List Char) : ∃ ps,
    readString (cs.flatMap stringChar ++ '"' :: rest) = some (ps, rest) ∧
      joinPlaces ps = some cs := by
  induction cs with
  | nil => exact ⟨[], rfl, rfl⟩
  | cons c cs ih =>
      obtain ⟨ps, read, joined⟩ := ih
      obtain ⟨p, readOne, joinOne⟩ := exists_place c
      refine ⟨p :: ps, ?_, ?_⟩
      · rw [List.flatMap_cons, List.append_assoc, readOne, read]
        rfl
      · rw [joinOne, joined]
        rfl

/-- A string that is written is read as it was. -/
theorem readToken_string (cs rest : List Char) :
    readToken '"' (cs.flatMap stringChar ++ '"' :: rest) =
      some (.string (String.ofList cs), rest) := by
  obtain ⟨ps, read, joined⟩ := exists_places cs rest
  show (readString _).map _ = _
  simp only [read, Option.map_some, joined]

end Lexer

/-! ## Writing -/

/-- The characters are these tokens. The recursion is on the tokens, so that it can be evaluated. -/
def Lexer.spells : List Token → List Char → Bool
  | [], cs => (cs.dropWhile isBlank).isEmpty
  | t :: ts, cs =>
    match cs.dropWhile isBlank with
    | [] => false
    | c :: rest =>
      match readToken c rest with
      | none => false
      | some (u, rest') => u = t && spells ts rest'

/-- The characters are the tokens that the lexer finds in them. -/
theorem Lexer.lexChars_eq_iff {ts : List Token} {cs : List Char} :
    lexChars cs = ⟨ts, true⟩ ↔ spells ts cs = true := by
  induction ts generalizing cs with
  | nil =>
      unfold lexChars
      split
      · next blank => simp [spells, blank]
      · next found => split <;> simp [spells, found]
  | cons t ts ih =>
      unfold lexChars
      split
      · next blank => simp [spells, blank]
      · next found =>
        split
        · next noToken => simp [spells, found, noToken]
        · next rest' read =>
          have parts : (lexChars rest').tokens = ts ∧ (lexChars rest').complete = true ↔
              lexChars rest' = ⟨ts, true⟩ := by
            cases lexChars rest'
            simp
          simp [spells, found, read, ← ih, ← parts, and_assoc]

open Lexer

/-- The text is written with these tokens, whatever comes after it. -/
def Writes (text : String) (ts : List Token) : Prop :=
  ∀ us rest, spells us rest = true → spells (ts ++ us) (text.toList ++ rest) = true

namespace Writes

variable {s t : String} {ts us : List Token}

/-- Texts one after the other are written with their tokens one after the other. -/
theorem append (first : Writes s ts) (second : Writes t us) : Writes (s ++ t) (ts ++ us) := by
  intro more rest spelled
  rw [String.toList_append, List.append_assoc, List.append_assoc]
  exact first _ _ (second more rest spelled)

theorem token {c : Char} {cs : List Char} {t : Token} (characters : s.toList = c :: cs)
    (noBlank : isBlank c = false) (read : ∀ rest, readToken c (cs ++ rest) = some (t, rest)) :
    Writes s [t] := by
  intro more rest spelled
  rw [characters]
  simp [spells, noBlank, read, spelled]

theorem blank (all : ∀ c ∈ s.toList, isBlank c = true) : Writes s [] := by
  intro more rest spelled
  have dropped : (s.toList ++ rest).dropWhile isBlank = rest.dropWhile isBlank :=
    List.dropWhile_append_of_pos all
  rw [List.nil_append]
  cases more with
  | nil => rwa [spells, dropped]
  | cons u more => rwa [spells, dropped]

/-- The lexer finds these tokens in the text. -/
theorem lex_eq (writes : Writes s ts) : lex s = ⟨ts, true⟩ := by
  refine lexChars_eq_iff.mpr ?_
  have spelled := writes [] [] rfl
  rwa [List.append_nil, List.append_nil] at spelled

theorem openBracket : Writes "[" [.openBracket] := .token rfl rfl fun _ => rfl

theorem closeBracket : Writes "]" [.closeBracket] := .token rfl rfl fun _ => rfl

theorem openBrace : Writes "\x7b" [.openBrace] := .token rfl rfl fun _ => rfl

theorem closeBrace : Writes "\x7d" [.closeBrace] := .token rfl rfl fun _ => rfl

theorem comma : Writes "," [.comma] := .token rfl rfl fun _ => rfl

theorem colon : Writes ":" [.colon] := .token rfl rfl fun _ => rfl

theorem spacedColon : Writes ": " [.colon] := by
  have space : Writes " " [] := .blank (List.forall_mem_singleton.mpr rfl)
  exact append (s := ":") colon space

theorem nullWord : Writes "null" [.null] := .token rfl rfl fun _ => rfl

theorem trueWord : Writes "true" [.bool true] := .token rfl rfl fun _ => rfl

theorem falseWord : Writes "false" [.bool false] := .token rfl rfl fun _ => rfl

theorem newLine (level : Nat) : Writes (newLine level) [] := by
  refine .blank ?_
  intro c member
  simp only [Json.newLine, String.toList_append, String.toList_ofList, List.mem_append] at member
  rcases member with member | member
  · cases List.mem_singleton.mp member
    rfl
  · cases List.eq_of_mem_replicate member
    rfl

theorem quoted (s : String) : Writes (quoted s) [.string s] := by
  refine .token String.toList_ofList rfl fun rest => ?_
  show readToken '"' ((s.toList.flatMap stringChar ++ ['"']) ++ rest) = _
  rw [List.append_assoc, List.singleton_append, readToken_string, String.ofList_toList]

end Writes

mutual

/-- The indented text of a value is written with its tokens. -/
theorem writes_prettyAt : (level : Nat) → (v : Json) → Writes (prettyAt level v) v.tokens
  | _, null => .nullWord
  | _, bool true => .trueWord
  | _, bool false => .falseWord
  | _, str s => .quoted s
  | _, arr [] => .append (s := "[") (t := "]") .openBracket .closeBracket
  | level, arr (v :: vs) => by
      have items := writes_prettyItems (level + 1) (v :: vs)
      simpa [prettyAt, tokens] using
        ((Writes.openBracket.append items).append (.newLine level)).append .closeBracket
  | _, obj [] => .append (s := "\x7b") (t := "\x7d") .openBrace .closeBrace
  | level, obj (m :: ms) => by
      have members := writes_prettyMembers (level + 1) (m :: ms)
      simpa [prettyAt, tokens] using
        ((Writes.openBrace.append members).append (.newLine level)).append .closeBrace

theorem writes_prettyItems : (level : Nat) → (vs : List Json) →
    Writes (prettyItems level vs) (itemTokens vs)
  | _, [] => .blank nofun
  | level, [v] => (Writes.newLine level).append (writes_prettyAt level v)
  | level, v :: w :: ws => by
      have first := (Writes.newLine level).append (writes_prettyAt level v)
      have more := writes_prettyItems level (w :: ws)
      simpa [prettyItems, itemTokens] using (first.append .comma).append more

theorem writes_prettyMembers : (level : Nat) → (ms : List (String × Json)) →
    Writes (prettyMembers level ms) (memberTokens ms)
  | _, [] => .blank nofun
  | level, [(k, v)] =>
      have key := ((Writes.newLine level).append (.quoted k)).append .spacedColon
      key.append (writes_prettyAt level v)
  | level, (k, v) :: m :: ms => by
      have key := ((Writes.newLine level).append (.quoted k)).append .spacedColon
      have more := writes_prettyMembers level (m :: ms)
      simpa [prettyMembers, memberTokens] using
        ((key.append (writes_prettyAt level v)).append .comma).append more

end

mutual

/-- The text of a value without blanks is written with its tokens. -/
theorem writes_compact : (v : Json) → Writes v.compact v.tokens
  | null => .nullWord
  | bool true => .trueWord
  | bool false => .falseWord
  | str s => .quoted s
  | arr items => by
      simpa [compact, tokens] using
        (Writes.openBracket.append (writes_compactItems items)).append .closeBracket
  | obj members => by
      simpa [compact, tokens] using
        (Writes.openBrace.append (writes_compactMembers members)).append .closeBrace

theorem writes_compactItems : (vs : List Json) → Writes (compactItems vs) (itemTokens vs)
  | [] => .blank nofun
  | [v] => writes_compact v
  | v :: w :: ws => by
      simpa [compactItems, itemTokens] using
        ((writes_compact v).append .comma).append (writes_compactItems (w :: ws))

theorem writes_compactMembers : (ms : List (String × Json)) →
    Writes (compactMembers ms) (memberTokens ms)
  | [] => .blank nofun
  | [(k, v)] => ((Writes.quoted k).append .colon).append (writes_compact v)
  | (k, v) :: m :: ms => by
      have member := ((Writes.quoted k).append .colon).append (writes_compact v)
      simpa [compactMembers, memberTokens] using
        (member.append .comma).append (writes_compactMembers (m :: ms))

end

/-- The text of a value without blanks is a text of that value. -/
theorem denotes_compact (v : Json) : Denotes v.compact v :=
  (writes_compact v).lex_eq

/-- The indented text of a value is a text of that value and of no other. -/
theorem denotes_pretty_iff {v w : Json} : Denotes v.pretty w ↔ w = v := by
  have denotes : Denotes v.pretty v := (writes_prettyAt 0 v).lex_eq
  constructor
  · intro other
    exact other.eq denotes
  · rintro rfl
    exact denotes

/-- Two values have two indented texts. -/
theorem pretty_injective : Function.Injective pretty := by
  intro v w same
  exact denotes_pretty_iff.mp (same ▸ denotes_pretty_iff.mpr rfl)

end ContextQuery.Json
