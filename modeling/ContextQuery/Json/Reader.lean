import ContextQuery.Json.Token
import ContextQuery.Text.Shown

/-!
# Reading values of known types from JSON

A `Reader` takes a value of one type from the front of a token list, in the order of the text, and so
reports the first fault that a reader from left to right would meet. Each reader takes at least one
token when it succeeds; the proof of that goes with it, and lets arrays and objects be read to
their ends.
-/

namespace ContextQuery.Json

/-- What was found in the place of something else. -/
inductive Found where
  | null
  | bool (b : Bool)
  | number (value : NumberValue)
  | string (s : String)
  | sequence
  | map
  deriving DecidableEq, Repr

/-- How a message names what was found. -/
def Found.describe : Found → String
  | .null => "null"
  | .bool true => "boolean `true`"
  | .bool false => "boolean `false`"
  | .number (.integer n) => "integer `" ++ (NumberValue.integer n).text ++ "`"
  | .number (.binary negative x) =>
    "floating point `" ++ (NumberValue.binary negative x).text ++ "`"
  | .string s => "string " ++ Text.shown s
  | .sequence => "sequence"
  | .map => "map"

/-- Why a text does not hold the value that is read. `malformed` is a fault of the JSON text or of
its shape; the others tell what the value lacks. -/
inductive Fault where
  | malformed
  | wrongType (found : Found) (expected : String)
  | tooShort (length : Nat) (expected : String)
  | missingMember (name : String)
  | repeatedMember (name : String)
  | unknownMember (name : String) (known : List String)
  | unknownVariant (name : String) (known : List String)
  deriving DecidableEq, Repr

/-- Names as a message lists them. -/
def listNames (names : List String) : String :=
  ", ".intercalate (names.map fun n => "`" ++ n ++ "`")

/-- The wording of a fault; `none` where there is no more to say than that the text is malformed. -/
def Fault.message? : Fault → Option String
  | .malformed => none
  | .wrongType found expected => some ("invalid type: " ++ found.describe ++ ", expected " ++ expected)
  | .tooShort length expected =>
    some ("invalid length " ++ String.ofList (Decimal.digitChars length) ++ ", expected " ++ expected)
  | .missingMember name => some ("missing field `" ++ name ++ "`")
  | .repeatedMember name => some ("duplicate field `" ++ name ++ "`")
  | .unknownMember name known =>
    some ("unknown field `" ++ name ++ "`, expected one of " ++ listNames known)
  | .unknownVariant name known =>
    some ("unknown variant `" ++ name ++ "`, expected one of " ++ listNames known)

/-- The fault of a reader that finds these tokens where something else was expected. Only the start
of a value has a type; a number past all bounds has none either. -/
def mismatch (expected : String) : List Token → Fault
  | .null :: _ => .wrongType .null expected
  | .bool b :: _ => .wrongType (.bool b) expected
  | .number n :: _ =>
    match n.value with
    | some v => .wrongType (.number v) expected
    | none => .malformed
  | .string s :: _ => .wrongType (.string s) expected
  | .openBracket :: _ => .wrongType .sequence expected
  | .openBrace :: _ => .wrongType .map expected
  | _ => .malformed

/-- Reads a value from the front of a token list. -/
structure Reader (α : Type) where
  run : List Token → Except Fault (α × List Token)
  consumes : ∀ {ts a rest}, run ts = .ok (a, rest) → rest.length < ts.length

namespace Reader

variable {α β σ : Type}

/-! ## Combining readers -/

/-- Never succeeds. -/
def fail (fault : Fault) : Reader α where
  run _ := .error fault
  consumes h := by simp at h

/-- One token, if `accept` admits it. -/
def token (expected : String) (accept : Token → Option α) : Reader α where
  run
    | t :: rest =>
      match accept t with
      | some a => .ok (a, rest)
      | none => .error (mismatch expected (t :: rest))
    | [] => .error .malformed
  consumes {ts a rest} h := by
    split at h
    · split at h <;> simp_all
    · simp at h

/-- This token and no other. -/
def punctuation (t : Token) : Reader Unit where
  run
    | u :: rest => if u = t then .ok ((), rest) else .error .malformed
    | [] => .error .malformed
  consumes {ts a rest} h := by
    split at h
    · split at h <;> simp_all
    · simp at h

/-- A string in the place of a name, where nothing else has a meaning. -/
def name : Reader String where
  run
    | .string s :: rest => .ok (s, rest)
    | _ => .error .malformed
  consumes {ts s rest} h := by
    split at h <;> simp_all

/-- The value of a reader, turned into another or refused. -/
def verify (r : Reader α) (f : α → Except Fault β) : Reader β where
  run ts :=
    match r.run ts with
    | .error e => .error e
    | .ok (a, rest) =>
      match f a with
      | .error e => .error e
      | .ok b => .ok (b, rest)
  consumes {ts b rest} h := by
    split at h
    · simp at h
    · next a rest' hr =>
      have := r.consumes hr
      split at h
      · simp at h
      · simp only [Except.ok.injEq, Prod.mk.injEq] at h
        exact h.2 ▸ this

/-- The value of a reader, turned into another. -/
def map (r : Reader α) (f : α → β) : Reader β :=
  r.verify fun a => .ok (f a)

/-- One reader and then another. -/
def andThen (r : Reader α) (f : α → Reader β) : Reader β where
  run ts :=
    match r.run ts with
    | .error e => .error e
    | .ok (a, rest) => (f a).run rest
  consumes {ts b rest} h := by
    split at h
    · simp at h
    · next a rest' hr =>
      have h₁ := r.consumes hr
      have h₂ := (f a).consumes h
      omega

/-- The reader that the first token calls for. -/
def byHead (choose : Option Token → Reader α) : Reader α where
  run ts := (choose ts.head?).run ts
  consumes h := (choose _).consumes h

/-! ## Plain values -/

/-- A string. -/
def string (expected : String) : Reader String :=
  token expected fun
    | .string s => some s
    | _ => none

/-- A truth value. -/
def bool : Reader Bool :=
  token "a boolean" fun
    | .bool b => some b
    | _ => none

/-- The value `null`, where it says that there is nothing to say. -/
def unit : Reader Unit :=
  token "unit" fun
    | .null => some ()
    | _ => none

/-- A value or `null`. -/
def orNull (r : Reader α) : Reader (Option α) :=
  byHead fun
    | some .null => unit.map fun _ => none
    | _ => r.map some

/-! ## Skipped values -/

/-- The kinds of brackets that a skipped value may be inside. -/
inductive Bracket where
  | square
  | brace
  deriving DecidableEq

/-- What is to come while a value is skipped: a value; a value or the end of an array; a key; a key
or the end of an object; the colon after a key; or what follows a value. -/
inductive Due where
  | value
  | valueOrClose
  | key
  | keyOrClose
  | colon
  | next
  deriving DecidableEq

/-- The brackets and what is due after a token that starts a value. -/
def startValue (outer : List Bracket) : Token → Option (List Bracket × Due)
  | .null | .bool _ | .number _ | .string _ | .brokenString => some (outer, .next)
  | .openBracket => some (.square :: outer, .valueOrClose)
  | .openBrace => some (.brace :: outer, .keyOrClose)
  | _ => none

/-- The brackets and what is due after one more token of a skipped value. -/
def skipToken (outer : List Bracket) : Due → Token → Option (List Bracket × Due)
  | .value, t => startValue outer t
  | .valueOrClose, .closeBracket => some (outer.tail, .next)
  | .valueOrClose, t => startValue outer t
  | .keyOrClose, .closeBrace => some (outer.tail, .next)
  | .key, .string _ | .key, .brokenString | .keyOrClose, .string _ | .keyOrClose, .brokenString =>
    some (outer, .colon)
  | .colon, .colon => some (outer, .value)
  | .next, t =>
    match outer, t with
    | .square :: _, .comma => some (outer, .value)
    | .brace :: _, .comma => some (outer, .key)
    | .square :: outer, .closeBracket => some (outer, .next)
    | .brace :: outer, .closeBrace => some (outer, .next)
    | _, _ => none
  | _, _ => none

/-- What follows the value that is being skipped. -/
def skipFrom (outer : List Bracket) (due : Due) : List Token → Except Fault (List Token)
  | [] => .error .malformed
  | t :: rest =>
    match skipToken outer due t with
    | none => .error .malformed
    | some ([], .next) => .ok rest
    | some (outer, due) => skipFrom outer due rest

theorem length_of_skipFrom {outer : List Bracket} {due : Due} {ts rest : List Token}
    (h : skipFrom outer due ts = .ok rest) : rest.length < ts.length := by
  induction ts generalizing outer due with
  | nil => simp [skipFrom] at h
  | cons t ts ih =>
    unfold skipFrom at h
    split at h
    · simp at h
    · simp_all
    · have := ih h
      simp only [List.length_cons]
      omega

/-- Any value, of which only the form is looked at. -/
def skipped : Reader Unit where
  run ts :=
    match skipFrom [] .value ts with
    | .error e => .error e
    | .ok rest => .ok ((), rest)
  consumes {ts a rest} h := by
    split at h
    · simp at h
    · next rest' hr =>
      simp only [Except.ok.injEq, Prod.mk.injEq] at h
      exact h.2 ▸ length_of_skipFrom hr

/-! ## Arrays -/

/-- An item of an array and the items after it, up to the closing bracket. -/
def itemsFrom (item : Reader α) (ts : List Token) : Except Fault (List α × List Token) :=
  match _ : item.run ts with
  | .error e => .error e
  | .ok (a, .closeBracket :: rest) => .ok ([a], rest)
  | .ok (a, .comma :: rest) =>
    match itemsFrom item rest with
    | .error e => .error e
    | .ok (as, after) => .ok (a :: as, after)
  | .ok _ => .error .malformed
termination_by ts.length
decreasing_by
  have := item.consumes ‹item.run ts = .ok (a, .comma :: rest)›
  simp only [List.length_cons] at this
  omega

theorem itemsFrom_eq (item : Reader α) (ts : List Token) :
    itemsFrom item ts =
      match item.run ts with
      | .error e => .error e
      | .ok (a, .closeBracket :: rest) => .ok ([a], rest)
      | .ok (a, .comma :: rest) =>
        match itemsFrom item rest with
        | .error e => .error e
        | .ok (as, after) => .ok (a :: as, after)
      | .ok _ => .error .malformed := by
  rw [itemsFrom]
  split <;> simp_all

theorem length_of_itemsFrom {item : Reader α} {ts rest : List Token} {as : List α}
    (h : itemsFrom item ts = .ok (as, rest)) : rest.length < ts.length := by
  fun_induction itemsFrom item ts generalizing as rest with
  | case1 => simp at h
  | case2 ts a after hr =>
    have := item.consumes hr
    simp only [Except.ok.injEq, Prod.mk.injEq] at h
    rw [← h.2]
    simp only [List.length_cons] at this
    omega
  | case3 => simp at h
  | case4 ts a after hr as' after' hi ih =>
    have h₁ := item.consumes hr
    have h₂ := ih hi
    simp only [Except.ok.injEq, Prod.mk.injEq] at h
    rw [← h.2]
    simp only [List.length_cons] at h₁
    omega
  | case5 => simp at h

/-- An array of values of one type. -/
def array (item : Reader α) : Reader (List α) where
  run
    | .openBracket :: .closeBracket :: rest => .ok ([], rest)
    | .openBracket :: rest => itemsFrom item rest
    | ts => .error (mismatch "a sequence" ts)
  consumes {ts as rest} h := by
    split at h
    · simp only [Except.ok.injEq, Prod.mk.injEq] at h
      simp only [← h.2, List.length_cons]
      omega
    · have := length_of_itemsFrom h
      simp only [List.length_cons]
      omega
    · simp at h

/-! ## Records -/

/-- The values of a record that is written as an array, each put into the state by its reader. The
array may end before any of them. -/
def placesFrom (first : Bool) (places : List (σ → Reader σ)) (state : σ) (ts : List Token) :
    Except Fault (σ × List Token) :=
  match places, ts with
  | _, .closeBracket :: rest => .ok (state, rest)
  | [], _ => .error .malformed
  | place :: places, ts =>
    let item : Except Fault (List Token) :=
      if first then .ok ts
      else match ts with
        | .comma :: rest => .ok rest
        | _ => .error .malformed
    match item with
    | .error e => .error e
    | .ok ts =>
      match (place state).run ts with
      | .error e => .error e
      | .ok (state, rest) => placesFrom false places state rest

theorem length_of_placesFrom {first : Bool} {places : List (σ → Reader σ)} {state final : σ}
    {ts rest : List Token} (h : placesFrom first places state ts = .ok (final, rest)) :
    rest.length < ts.length := by
  fun_induction placesFrom first places state ts with
  | case1 => simp_all
  | case2 => simp at h
  | case3 => simp at h
  | case4 => simp at h
  | case5 first state place places ts hts item ts₁ hi state' rest' hr ih =>
    have h₁ := (place state).consumes hr
    have h₂ := ih h
    have h₃ : ts₁.length ≤ ts.length := by
      simp only [item] at hi
      split at hi
      · simp_all
      · split at hi <;> simp_all
    omega

/-- The members of a record that is written as an object, each put into the state by the reader that
its name calls for; that reader starts at the colon. -/
def membersFrom (member : σ → String → Reader σ) (state : σ) (ts : List Token) :
    Except Fault (σ × List Token) :=
  match ts with
  | .string name :: ts' =>
    match _ : (member state name).run ts' with
    | .error e => .error e
    | .ok (state, .closeBrace :: rest) => .ok (state, rest)
    | .ok (state, .comma :: rest) => membersFrom member state rest
    | .ok _ => .error .malformed
  | _ => .error .malformed
termination_by ts.length
decreasing_by
  have := (member _ name).consumes ‹(member _ name).run ts' = .ok (state, .comma :: rest)›
  simp only [List.length_cons] at this ⊢
  omega

theorem membersFrom_string (member : σ → String → Reader σ) (state : σ) (name : String)
    (ts : List Token) :
    membersFrom member state (.string name :: ts) =
      match (member state name).run ts with
      | .error e => .error e
      | .ok (state, .closeBrace :: rest) => .ok (state, rest)
      | .ok (state, .comma :: rest) => membersFrom member state rest
      | .ok _ => .error .malformed := by
  rw [membersFrom]
  split <;> simp_all

theorem length_of_membersFrom {member : σ → String → Reader σ} {state final : σ}
    {ts rest : List Token} (h : membersFrom member state ts = .ok (final, rest)) :
    rest.length < ts.length := by
  fun_induction membersFrom member state ts with
  | case1 => simp at h
  | case2 state name ts' state' after hr =>
    have := (member state name).consumes hr
    simp only [Except.ok.injEq, Prod.mk.injEq] at h
    rw [← h.2]
    simp only [List.length_cons] at this ⊢
    omega
  | case3 state name ts' state' after hr ih =>
    have h₁ := (member state name).consumes hr
    have h₂ := ih h
    simp only [List.length_cons] at h₁ ⊢
    omega
  | case4 => simp at h
  | case5 => simp at h

/-- The value after the colon of a member, which may be given once only. -/
def once (name : String) (given : Bool) (r : Reader α) : Reader α :=
  if given then fail (.repeatedMember name) else (punctuation .colon).andThen fun _ => r

/-- A record, written as an array of its values in order or as an object. `ended` turns what an array
has filled in into the record, `complete` what an object has. -/
def record (expected : String) (start : σ) (places : List (σ → Reader σ))
    (ended complete : σ → Except Fault α) (member : σ → String → Reader σ) : Reader α where
  run
    | .openBracket :: rest =>
      match placesFrom true places start rest with
      | .error e => .error e
      | .ok (state, after) =>
        match ended state with
        | .error e => .error e
        | .ok a => .ok (a, after)
    | .openBrace :: rest =>
      let members : Except Fault (σ × List Token) :=
        match rest with
        | .closeBrace :: after => .ok (start, after)
        | rest => membersFrom member start rest
      match members with
      | .error e => .error e
      | .ok (state, after) =>
        match complete state with
        | .error e => .error e
        | .ok a => .ok (a, after)
    | ts => .error (mismatch expected ts)
  consumes {ts a rest} h := by
    split at h
    · next r =>
      split at h
      · simp at h
      · next state after hp =>
        have := length_of_placesFrom hp
        split at h
        · simp at h
        · simp only [Except.ok.injEq, Prod.mk.injEq] at h
          simp only [← h.2, List.length_cons]
          omega
    · next r =>
      simp only at h
      split at h
      · simp at h
      · next state after hm =>
        have hl : after.length < r.length + 1 := by
          split at hm
          · simp only [Except.ok.injEq, Prod.mk.injEq] at hm
            simp only [← hm.2, List.length_cons]
            omega
          · have := length_of_membersFrom hm
            omega
        split at h
        · simp at h
        · simp only [Except.ok.injEq, Prod.mk.injEq] at h
          simpa only [← h.2, List.length_cons] using hl
    · simp at h

end Reader

/-- Reads a whole text with a reader. -/
def readText {α : Type} (r : Reader α) (s : String) : Except Fault α :=
  let scan := lex s
  match r.run scan.tokens with
  | .error e => .error e
  | .ok (a, []) => if scan.complete then .ok a else .error .malformed
  | .ok _ => .error .malformed

end ContextQuery.Json
