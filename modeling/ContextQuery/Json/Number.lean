import ContextQuery.Decimal.Shortest

/-!
# JSON numbers

A number as it is written in a JSON text, and the value that it counts as: an integer when it is
written as one and has 64 bits, a binary fraction otherwise. A fraction takes as many of the written
digits as 64 bits hold and is then scaled by a power of ten.
-/

namespace ContextQuery.Json

/-- A written number. `fraction` is empty when there is none; an exponent has a sign and digits. -/
structure Number where
  negative : Bool
  whole : List Char
  fraction : List Char
  exponent : Option (Bool × List Char)
  deriving DecidableEq, Repr

/-- What a number counts as. -/
inductive NumberValue where
  | integer (n : Int)
  | binary (negative : Bool) (x : Binary64)
  deriving DecidableEq, Repr

namespace Number

/-! ## Reading -/

/-- Digits, at least one, and what follows them. -/
def readDigits (cs : List Char) : Option (List Char × List Char) :=
  if (cs.takeWhile Char.isDigit).isEmpty then none
  else some (cs.takeWhile Char.isDigit, cs.dropWhile Char.isDigit)

/-- Digits without a nought in front of others. -/
def readWhole (cs : List Char) : Option (List Char × List Char) :=
  match readDigits cs with
  | some ('0' :: _ :: _, _) => none
  | r => r

/-- The digits of a fraction, if a point comes next. -/
def readFraction (cs : List Char) : Option (List Char × List Char) :=
  match cs with
  | '.' :: cs => readDigits cs
  | cs => some ([], cs)

/-- The sign of an exponent: true for a minus. -/
def readSign : List Char → Bool × List Char
  | '-' :: cs => (true, cs)
  | '+' :: cs => (false, cs)
  | cs => (false, cs)

/-- The sign and the digits of an exponent, if one comes next. -/
def readExponent (cs : List Char) : Option (Option (Bool × List Char) × List Char) :=
  match cs with
  | c :: rest =>
    if c = 'e' ∨ c = 'E' then
      (readDigits (readSign rest).2).map fun (ds, after) => (some ((readSign rest).1, ds), after)
    else some (none, c :: rest)
  | [] => some (none, [])

/-- A number without a sign of its own. -/
def readUnsigned (negative : Bool) (cs : List Char) : Option (Number × List Char) := do
  let (whole, cs) ← readWhole cs
  let (fraction, cs) ← readFraction cs
  let (exponent, cs) ← readExponent cs
  return (⟨negative, whole, fraction, exponent⟩, cs)

theorem length_of_readDigits {cs ds rest : List Char} (h : readDigits cs = some (ds, rest)) :
    rest.length < cs.length := by
  unfold readDigits at h
  split at h
  · simp at h
  · next hne =>
    simp only [Option.some.injEq, Prod.mk.injEq] at h
    have hl := congrArg List.length (List.takeWhile_append_dropWhile (p := Char.isDigit) (l := cs))
    rw [List.length_append] at hl
    have hp : 0 < (cs.takeWhile Char.isDigit).length := by
      rw [List.isEmpty_iff] at hne
      exact List.length_pos_iff.2 hne
    rw [← h.2]
    omega

theorem length_of_readWhole {cs ds rest : List Char} (h : readWhole cs = some (ds, rest)) :
    rest.length < cs.length := by
  unfold readWhole at h
  split at h
  · simp at h
  · exact length_of_readDigits h

theorem length_of_readFraction {cs ds rest : List Char} (h : readFraction cs = some (ds, rest)) :
    rest.length ≤ cs.length := by
  unfold readFraction at h
  split at h
  · have := length_of_readDigits h
    simp only [List.length_cons]
    omega
  · simp_all

theorem length_readSign (cs : List Char) : (readSign cs).2.length ≤ cs.length := by
  unfold readSign
  split <;> simp

theorem length_of_readExponent {cs rest : List Char} {e : Option (Bool × List Char)}
    (h : readExponent cs = some (e, rest)) : rest.length ≤ cs.length := by
  unfold readExponent at h
  split at h
  · next c r =>
    split at h
    · obtain ⟨⟨ds, after⟩, hr, he⟩ := Option.map_eq_some_iff.1 h
      simp only [Prod.mk.injEq] at he
      have h₁ := length_of_readDigits hr
      have h₂ := length_readSign r
      rw [← he.2, List.length_cons]
      omega
    · simp_all
  · simp_all

/-- A number takes at least one character. -/
theorem length_of_readUnsigned {negative : Bool} {cs rest : List Char} {n : Number}
    (h : readUnsigned negative cs = some (n, rest)) : rest.length < cs.length := by
  unfold readUnsigned at h
  simp only [bind, Option.bind_eq_some_iff, pure, Option.some.injEq, Prod.mk.injEq] at h
  obtain ⟨⟨w, cs₁⟩, h₁, ⟨f, cs₂⟩, h₂, ⟨e, cs₃⟩, h₃, -, rfl⟩ := h
  have := length_of_readWhole h₁
  have := length_of_readFraction h₂
  have := length_of_readExponent h₃
  simp only at *
  omega

/-! ## Values -/

/-- The value of a digit. -/
def digitValue (c : Char) : Nat :=
  c.toNat - 48

/-- The number that digits write. -/
def digitsValue (ds : List Char) : Nat :=
  ds.foldl (fun n c => n * 10 + digitValue c) 0

/-- The numbers of 64 bits are below this. -/
def wordBound : Nat :=
  Nat.pow 2 64

/-- `n` with as many of the digits after it as keep it in 64 bits, and the digits left over. -/
def takeDigits (n : Nat) : List Char → Nat × List Char
  | [] => (n, [])
  | c :: cs =>
    if n * 10 + digitValue c < wordBound then takeDigits (n * 10 + digitValue c) cs else (n, c :: cs)

/-- The exponent that is written. -/
def exponentValue : Option (Bool × List Char) → Int
  | none => 0
  | some (true, ds) => -(digitsValue ds : Int)
  | some (false, ds) => digitsValue ds

/-- The binary fraction that the number counts as; `none` past the largest. -/
def toBinary (n : Number) : Option Binary64 :=
  let (whole, left) := takeDigits 0 n.whole
  let (significand, ignored) := takeDigits whole n.fraction
  let taken := n.fraction.length - ignored.length
  Binary64.scale significand (left.length - taken + exponentValue n.exponent)

/-- What the number counts as; `none` past the largest number there is. A negative nought is no
integer. -/
def value (n : Number) : Option NumberValue :=
  let asBinary := n.toBinary.map (.binary n.negative)
  if n.fraction.isEmpty && n.exponent.isNone then
    let v := digitsValue n.whole
    if n.negative then
      if 1 ≤ v && v ≤ wordBound / 2 then some (.integer (-(v : Int))) else asBinary
    else if v < wordBound then some (.integer v)
    else asBinary
  else asBinary

end Number

/-- The text of a value. -/
def NumberValue.text : NumberValue → String
  | .integer n => (if n < 0 then "-" else "") ++ String.ofList (Decimal.digitChars n.natAbs)
  | .binary negative x => (if negative then "-" else "") ++ (Decimal.shortest x).text

end ContextQuery.Json
