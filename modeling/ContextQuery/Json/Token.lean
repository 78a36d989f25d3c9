import ContextQuery.Json.Number

/-!
# JSON tokens

A JSON text as tokens. The tokens before the first fault are kept, so that a reader of tokens meets
the fault where it comes to it, and `complete` says that there is none. A string whose escapes name
half of a surrogate pair is a token of its own: it may stand where a value is only skipped.
-/

namespace ContextQuery.Json

/-- A piece of a JSON text. -/
inductive Token where
  | openBrace
  | closeBrace
  | openBracket
  | closeBracket
  | colon
  | comma
  | null
  | bool (b : Bool)
  | number (n : Number)
  | string (s : String)
  | brokenString
  deriving DecidableEq, Repr

/-- A JSON text as tokens. -/
structure Scan where
  tokens : List Token
  complete : Bool
  deriving DecidableEq, Repr

namespace Lexer

/-- The four blanks of JSON. -/
def isBlank (c : Char) : Bool :=
  c == ' ' || c == '\n' || c == '\t' || c == '\r'

/-! ## Strings -/

/-- A place of a string: a character, or a unit of sixteen bits given by its code. -/
inductive Place where
  | char (c : Char)
  | unit (n : Nat)
  deriving DecidableEq, Repr

/-- The value of a digit of base sixteen, in either case. -/
def hexValue? (c : Char) : Option Nat :=
  if c.isDigit then some (c.toNat - 48)
  else if 'a' ≤ c ∧ c ≤ 'f' then some (c.toNat - 87)
  else if 'A' ≤ c ∧ c ≤ 'F' then some (c.toNat - 55)
  else none

/-- The number that four digits of base sixteen write. -/
def hexValues? (a b c d : Char) : Option Nat := do
  return (((← hexValue? a) * 16 + (← hexValue? b)) * 16 + (← hexValue? c)) * 16 + (← hexValue? d)

/-- The character that a letter after a backslash stands for. -/
def escape? (c : Char) : Option Char :=
  match c with
  | '"' => some '"'
  | '\\' => some '\\'
  | '/' => some '/'
  | 'b' => some '\x08'
  | 'f' => some '\x0c'
  | 'n' => some '\n'
  | 'r' => some '\r'
  | 't' => some '\t'
  | _ => none

/-- The places of a string up to its closing quote, and what follows that quote. -/
def readString : List Char → Option (List Place × List Char)
  | [] => none
  | '"' :: rest => some ([], rest)
  | '\\' :: 'u' :: a :: b :: c :: d :: rest =>
    match hexValues? a b c d with
    | none => none
    | some n => (readString rest).map fun (ps, after) => (.unit n :: ps, after)
  | '\\' :: c :: rest =>
    match escape? c with
    | none => none
    | some e => (readString rest).map fun (ps, after) => (.char e :: ps, after)
  | c :: rest =>
    if c.toNat < 0x20 ∨ c = '\\' then none
    else (readString rest).map fun (ps, after) => (.char c :: ps, after)

/-- The first half of a surrogate pair. -/
def isHighHalf (n : Nat) : Bool :=
  0xD800 ≤ n && n ≤ 0xDBFF

/-- The second half of a surrogate pair. -/
def isLowHalf (n : Nat) : Bool :=
  0xDC00 ≤ n && n ≤ 0xDFFF

/-- The characters of a string. A pair of halves is one character; a half alone is none. -/
def joinPlaces : List Place → Option (List Char)
  | [] => some []
  | .char c :: ps => (joinPlaces ps).map (c :: ·)
  | .unit n :: ps =>
    if isHighHalf n then
      match ps with
      | .unit m :: ps =>
        if isLowHalf m then
          (joinPlaces ps).map (Char.ofNat ((n - 0xD800) * 0x400 + (m - 0xDC00) + 0x10000) :: ·)
        else none
      | _ => none
    else if isLowHalf n then none
    else (joinPlaces ps).map (Char.ofNat n :: ·)

theorem length_of_readString {cs rest : List Char} {ps : List Place}
    (h : readString cs = some (ps, rest)) : rest.length < cs.length := by
  fun_induction readString cs generalizing ps rest with
  | case1 => simp at h
  | case2 => simp_all
  | case3 => simp at h
  | case4 a b c d r n _ ih =>
    obtain ⟨⟨ps', after⟩, hr, he⟩ := Option.map_eq_some_iff.1 h
    have := ih hr
    simp only [Prod.mk.injEq] at he
    simp only [List.length_cons, ← he.2]
    omega
  | case5 => simp at h
  | case6 c r _ e _ ih =>
    obtain ⟨⟨ps', after⟩, hr, he⟩ := Option.map_eq_some_iff.1 h
    have := ih hr
    simp only [Prod.mk.injEq] at he
    simp only [List.length_cons, ← he.2]
    omega
  | case7 => simp at h
  | case8 c r _ _ _ _ ih =>
    obtain ⟨⟨ps', after⟩, hr, he⟩ := Option.map_eq_some_iff.1 h
    have := ih hr
    simp only [Prod.mk.injEq] at he
    simp only [List.length_cons, ← he.2]
    omega

/-! ## Tokens -/

/-- What follows the characters of `word`. -/
def dropWord : (word cs : List Char) → Option (List Char)
  | [], cs => some cs
  | w :: ws, c :: cs => if w = c then dropWord ws cs else none
  | _ :: _, [] => none

/-- The token that starts with the character `c`, which is not blank, and what follows it. -/
def readToken (c : Char) (rest : List Char) : Option (Token × List Char) :=
  match c with
  | '\x7b' => some (.openBrace, rest)
  | '\x7d' => some (.closeBrace, rest)
  | '[' => some (.openBracket, rest)
  | ']' => some (.closeBracket, rest)
  | ':' => some (.colon, rest)
  | ',' => some (.comma, rest)
  | 'n' => (dropWord ['u', 'l', 'l'] rest).map (.null, ·)
  | 't' => (dropWord ['r', 'u', 'e'] rest).map (.bool true, ·)
  | 'f' => (dropWord ['a', 'l', 's', 'e'] rest).map (.bool false, ·)
  | '"' =>
    (readString rest).map fun (ps, after) =>
      (match joinPlaces ps with
        | some cs => .string (String.ofList cs)
        | none => .brokenString, after)
  | '-' => (Number.readUnsigned true rest).map fun (n, after) => (.number n, after)
  | c => (Number.readUnsigned false (c :: rest)).map fun (n, after) => (.number n, after)

theorem length_of_dropWord {word cs rest : List Char} (h : dropWord word cs = some rest) :
    rest.length ≤ cs.length := by
  fun_induction dropWord word cs generalizing rest with
  | case1 => simp_all
  | case2 ws c cs ih =>
    have := ih h
    simp only [List.length_cons]
    omega
  | case3 => simp at h
  | case4 => simp at h

/-- A token leaves fewer characters than there were with its first. -/
theorem length_of_readToken {c : Char} {cs rest : List Char} {t : Token}
    (h : readToken c cs = some (t, rest)) : rest.length ≤ cs.length := by
  unfold readToken at h
  split at h
  all_goals try (simp only [Option.some.injEq, Prod.mk.injEq] at h; simp [h.2])
  all_goals obtain ⟨p, hp, he⟩ := Option.map_eq_some_iff.1 h
  · simp only [Prod.mk.injEq] at he
    exact he.2 ▸ length_of_dropWord hp
  · simp only [Prod.mk.injEq] at he
    exact he.2 ▸ length_of_dropWord hp
  · simp only [Prod.mk.injEq] at he
    exact he.2 ▸ length_of_dropWord hp
  · obtain ⟨ps, after⟩ := p
    have := length_of_readString hp
    simp only [Prod.mk.injEq] at he
    rw [← he.2]
    omega
  · obtain ⟨n, after⟩ := p
    have := Number.length_of_readUnsigned hp
    simp only [Prod.mk.injEq] at he
    rw [← he.2]
    omega
  · obtain ⟨n, after⟩ := p
    have := Number.length_of_readUnsigned hp
    simp only [Prod.mk.injEq] at he
    rw [← he.2]
    simp only [List.length_cons] at this
    omega

/-- The tokens of the characters. -/
def lexChars (cs : List Char) : Scan :=
  match _ : cs.dropWhile isBlank with
  | [] => ⟨[], true⟩
  | c :: rest =>
    match _ : readToken c rest with
    | none => ⟨[], false⟩
    | some (t, rest') =>
      let scan := lexChars rest'
      ⟨t :: scan.tokens, scan.complete⟩
termination_by cs.length
decreasing_by
  have h₁ := (List.dropWhile_sublist (l := cs) isBlank).length_le
  have h₂ := length_of_readToken ‹readToken c rest = some (t, rest')›
  rw [‹cs.dropWhile isBlank = c :: rest›, List.length_cons] at h₁
  omega

end Lexer

/-- The tokens of a JSON text. -/
def lex (s : String) : Scan :=
  Lexer.lexChars s.toList

end ContextQuery.Json
