import ContextQuery.Field.Numeral
import ContextQuery.Text.Pieces

/-!
# Decimal numbers by their parts

The grammar of the numbers that a number field takes, apart from the function that checks them:
which parts a number has, and which characters each part. A text is checked from the left, each part
as long as can be, and since no part can begin with what the part before it may go on with, the
check finds the parts of every number (`Numeral.isNumeral_iff`).
-/

namespace ContextQuery.Numeral

/-! ## The grammar -/

/-- One digit or more. -/
structure Digits (cs : List Char) : Prop where
  nonempty : cs ≠ []
  digits : ∀ c ∈ cs, c.isDigit = true

/-- A sign, or none. -/
inductive Sign : List Char → Prop where
  | none : Sign []
  | plus : Sign ['+']
  | minus : Sign ['-']

/-- Digits, digits with a point after them and any digits after that, or a point and digits. -/
inductive Magnitude : List Char → Prop where
  | whole {ds : List Char} (digits : Digits ds) : Magnitude ds
  | pointed {ds fs : List Char} (digits : Digits ds) (fraction : ∀ c ∈ fs, c.isDigit = true) :
      Magnitude (ds ++ '.' :: fs)
  | fraction {fs : List Char} (digits : Digits fs) : Magnitude ('.' :: fs)

/-- A letter, a sign or none, and digits; or nothing. -/
inductive Exponent : List Char → Prop where
  | none : Exponent []
  | power {letter : Char} {sign ds : List Char} (isLetter : letter = 'e' ∨ letter = 'E')
      (signed : Sign sign) (digits : Digits ds) : Exponent (letter :: (sign ++ ds))

/-- A number: its sign, its magnitude and its exponent. -/
inductive Spells : List Char → Prop where
  | number {sign magnitude exponent : List Char} (signed : Sign sign)
      (measured : Magnitude magnitude) (raised : Exponent exponent) :
      Spells (sign ++ (magnitude ++ exponent))

/-! ## Signs -/

/-- A text is its sign, or none, and what is left without it. -/
theorem exists_sign (cs : List Char) : ∃ sign, Sign sign ∧ cs = sign ++ dropSign cs := by
  unfold dropSign
  split
  · exact ⟨['+'], .plus, rfl⟩
  · exact ⟨['-'], .minus, rfl⟩
  · exact ⟨[], .none, rfl⟩

/-- A sign is dropped alone, where no second one follows. -/
theorem dropSign_append {sign rest : List Char} (signed : Sign sign)
    (noPlus : rest.head? ≠ some '+') (noMinus : rest.head? ≠ some '-') :
    dropSign (sign ++ rest) = rest := by
  cases signed with
  | plus | minus => rfl
  | none =>
      rw [List.nil_append]
      unfold dropSign
      split
      · exact absurd rfl noPlus
      · exact absurd rfl noMinus
      · rfl

/-! ## Digits -/

/-- The check for digits is the rule for them. -/
theorem isDigits_iff {cs : List Char} : isDigits cs = true ↔ Digits cs := by
  rw [isDigits, Bool.and_eq_true, Bool.not_eq_true', List.isEmpty_eq_false_iff, List.all_eq_true]
  exact ⟨fun ⟨nonempty, digits⟩ => ⟨nonempty, digits⟩, fun ⟨nonempty, digits⟩ => ⟨nonempty, digits⟩⟩

/-- A text that begins with digits begins with no other character. -/
theorem Digits.head?_ne {cs : List Char} (digits : Digits cs) (rest : List Char) {c : Char}
    (noDigit : c.isDigit = false) : (cs ++ rest).head? ≠ some c := by
  obtain ⟨nonempty, digits⟩ := digits
  obtain ⟨d, ds, rfl⟩ := List.exists_cons_of_ne_nil nonempty
  rintro ⟨⟩
  rw [digits c List.mem_cons_self] at noDigit
  cases noDigit

/-! ## Exponents -/

theorem isExponent_of_letter {letter : Char} (isLetter : letter = 'e' ∨ letter = 'E')
    (cs : List Char) : isExponent (letter :: cs) = isDigits (dropSign cs) := by
  rcases isLetter with rfl | rfl
  · rfl
  · rfl

/-- The check for an exponent is the rule for it. -/
theorem isExponent_iff {cs : List Char} : isExponent cs = true ↔ Exponent cs := by
  constructor
  · have power {letter : Char} (isLetter : letter = 'e' ∨ letter = 'E') {cs : List Char}
        (read : isDigits (dropSign cs) = true) : Exponent (letter :: cs) := by
      obtain ⟨sign, signed, split⟩ := exists_sign cs
      rw [split]
      exact .power isLetter signed (isDigits_iff.mp read)
    intro read
    unfold isExponent at read
    split at read
    · exact .none
    · exact power (.inl rfl) read
    · exact power (.inr rfl) read
    · cases read
  · intro exponent
    cases exponent with
    | none => rfl
    | power isLetter signed digits =>
        have begins {c : Char} (noDigit : c.isDigit = false) := digits.head?_ne [] noDigit
        rw [isExponent_of_letter isLetter, dropSign_append signed, isDigits_iff]
        · exact digits
        · simpa using begins (c := '+') rfl
        · simpa using begins (c := '-') rfl

/-- An exponent does not go on with what comes before it. -/
theorem Exponent.head?_ne {cs : List Char} (exponent : Exponent cs) :
    ∀ c ∈ cs.head?, c.isDigit = false ∧ c ≠ '.' := by
  intro c first
  cases exponent with
  | none => cases first
  | power isLetter signed digits =>
      cases first
      rcases isLetter with rfl | rfl
      · exact ⟨rfl, by decide⟩
      · exact ⟨rfl, by decide⟩

/-! ## Magnitudes -/

theorem isUnsigned_of_point {ds rest : List Char} (digits : ∀ d ∈ ds, d.isDigit = true) :
    isUnsigned (ds ++ '.' :: rest) =
      ((!ds.isEmpty || !(rest.takeWhile Char.isDigit).isEmpty) &&
        isExponent (rest.dropWhile Char.isDigit)) := by
  have point : ∀ c ∈ ('.' :: rest).head?, c.isDigit = false := by
    rintro c ⟨⟩
    rfl
  obtain ⟨whole, left⟩ := Text.span_append digits point
  unfold isUnsigned
  rw [whole, left]
  rfl

theorem isUnsigned_of_noPoint {ds rest : List Char} (digits : ∀ d ∈ ds, d.isDigit = true)
    (stop : ∀ c ∈ rest.head?, c.isDigit = false ∧ c ≠ '.') :
    isUnsigned (ds ++ rest) = (!ds.isEmpty && isExponent rest) := by
  obtain ⟨whole, left⟩ := Text.span_append digits fun c first => (stop c first).1
  unfold isUnsigned
  rw [whole, left]
  split
  · exact absurd rfl (stop '.' rfl).2
  · rfl

/-- The check that has dropped the sign finds a magnitude and the exponent after it, in every text
that is made of these. -/
theorem isUnsigned_iff {cs : List Char} :
    isUnsigned cs = true ↔
      ∃ magnitude exponent, Magnitude magnitude ∧ Exponent exponent ∧
        cs = magnitude ++ exponent := by
  have digitsOf (cs : List Char) : ∀ c ∈ cs.takeWhile Char.isDigit, c.isDigit = true :=
    List.all_eq_true.mp List.all_takeWhile
  constructor
  · intro read
    have split := (List.takeWhile_append_dropWhile (p := Char.isDigit) (l := cs)).symm
    have whole := digitsOf cs
    unfold isUnsigned at read
    split at read
    · -- digits or none, a point, digits or none, not both of them none
      next rest point =>
      rw [Bool.and_eq_true, Bool.or_eq_true, isExponent_iff] at read
      obtain ⟨some, exponent⟩ := read
      have parts := (List.takeWhile_append_dropWhile (p := Char.isDigit) (l := rest)).symm
      rw [point, parts] at split
      by_cases none : cs.takeWhile Char.isDigit = []
      · rw [none] at some split
        have fraction : rest.takeWhile Char.isDigit ≠ [] := by simpa using some
        exact ⟨_, _, .fraction ⟨fraction, digitsOf rest⟩, exponent, split⟩
      · refine ⟨_, _, .pointed ⟨none, whole⟩ (digitsOf rest), exponent, ?_⟩
        rw [List.append_assoc, List.cons_append]
        exact split
    · rw [Bool.and_eq_true, Bool.not_eq_true', List.isEmpty_eq_false_iff, isExponent_iff] at read
      exact ⟨_, _, .whole ⟨read.1, whole⟩, read.2, split⟩
  · rintro ⟨magnitude, exponent, measured, raised, rfl⟩
    have ends : ∀ c ∈ exponent.head?, c.isDigit = false :=
      fun c first => (raised.head?_ne c first).1
    have isExponent := isExponent_iff.mpr raised
    cases measured with
    | whole digits =>
        rw [isUnsigned_of_noPoint digits.digits raised.head?_ne, isExponent]
        simp [digits.nonempty]
    | pointed digits fraction =>
        obtain ⟨-, left⟩ := Text.span_append fraction ends
        rw [List.append_assoc, List.cons_append, isUnsigned_of_point digits.digits, left,
          isExponent]
        simp [digits.nonempty]
    | fraction digits =>
        obtain ⟨taken, left⟩ := Text.span_append digits.digits ends
        have noDigits : ∀ d ∈ ([] : List Char), d.isDigit = true := fun d member =>
          absurd member List.not_mem_nil
        rw [List.cons_append, ← List.nil_append ('.' :: _), isUnsigned_of_point noDigits, taken,
          left, isExponent]
        simp [digits.nonempty]

theorem Magnitude.ne_nil {cs : List Char} (measured : Magnitude cs) : cs ≠ [] := by
  cases measured with
  | whole digits => exact digits.nonempty
  | pointed digits fraction => simp
  | fraction digits => exact List.cons_ne_nil _ _

theorem Magnitude.head?_ne {cs rest : List Char} (measured : Magnitude cs) {c : Char}
    (noDigit : c.isDigit = false) (noPoint : c ≠ '.') : (cs ++ rest).head? ≠ some c := by
  cases measured with
  | whole digits => exact digits.head?_ne _ noDigit
  | pointed digits fraction =>
      rw [List.append_assoc]
      exact digits.head?_ne _ noDigit
  | fraction digits => exact fun first => noPoint (Option.some.inj first).symm

/-! ## Numbers -/

/-- The check of a number is the grammar: what it accepts are the texts with a sign, a magnitude and
an exponent. -/
theorem isNumeral_iff {s : String} : isNumeral s = true ↔ Spells s.toList := by
  rw [isNumeral, isUnsigned_iff]
  constructor
  · rintro ⟨magnitude, exponent, measured, raised, split⟩
    obtain ⟨sign, signed, whole⟩ := exists_sign s.toList
    rw [whole, split]
    exact .number signed measured raised
  · intro spells
    generalize s.toList = cs at spells
    cases spells with
    | @number sign magnitude exponent signed measured raised =>
        refine ⟨magnitude, exponent, measured, raised, ?_⟩
        exact dropSign_append signed (measured.head?_ne rfl (by decide))
          (measured.head?_ne rfl (by decide))

theorem Spells.ne_nil {cs : List Char} (spells : Spells cs) : cs ≠ [] := by
  cases spells with
  | number signed measured raised =>
      intro empty
      obtain ⟨-, rest⟩ := List.append_eq_nil_iff.mp empty
      exact measured.ne_nil (List.append_eq_nil_iff.mp rest).1

end ContextQuery.Numeral
