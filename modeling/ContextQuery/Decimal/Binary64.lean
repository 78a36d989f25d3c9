/-!
# Binary fractions of 53 bits

The non-negative numbers of the binary format of 64 bits, and the arithmetic on them: the exact
result, rounded to the nearest number of the format, a tie going to the even mantissa.
-/

namespace ContextQuery

/-- The number `mantissa * 2 ^ exponent`. -/
structure Binary64 where
  mantissa : Nat
  exponent : Int
  deriving DecidableEq, Repr

namespace Binary64

/-- The exponent of the smallest numbers. -/
def minExponent : Int :=
  -1074

/-- The exponent of the largest numbers. -/
def maxExponent : Int :=
  971

/-- Nought. -/
def zero : Binary64 :=
  ⟨0, minExponent⟩

/-- The whole number nearest to a quotient, the even one of two. -/
def nearest (num den : Nat) : Nat :=
  let q := num / den
  let r := num % den
  if 2 * r < den ∨ (2 * r = den ∧ q % 2 = 0) then q else q + 1

/-- Numerator and denominator of `num / den / 2 ^ e`. -/
def shifted (num den : Nat) (e : Int) : Nat × Nat :=
  (num * Nat.pow 2 (-e).toNat, den * Nat.pow 2 e.toNat)

/-- The exponent at which a positive quotient has a mantissa of 53 bits, or the least there is. -/
def exponentOf (num den : Nat) : Int :=
  let guess : Int := (num.log2 : Int) - den.log2 - 52
  let (n, d) := shifted num den guess
  max (if n / d < Nat.pow 2 52 then guess - 1 else guess) minExponent

/-- The number nearest to a quotient; `none` past the largest. -/
def ofQuotient (num den : Nat) : Option Binary64 :=
  if num = 0 then some zero
  else
    let e := exponentOf num den
    let (n, d) := shifted num den e
    let m := nearest n d
    let x : Binary64 := if m = Nat.pow 2 53 then ⟨Nat.pow 2 52, e + 1⟩ else ⟨m, e⟩
    if maxExponent < x.exponent then none else some x

/-- The product, rounded. -/
def mul (x y : Binary64) : Option Binary64 :=
  let (n, d) := shifted (x.mantissa * y.mantissa) 1 (-(x.exponent + y.exponent))
  ofQuotient n d

/-- The quotient, rounded; `y` is not nought. -/
def div (x y : Binary64) : Option Binary64 :=
  let (n, d) := shifted x.mantissa y.mantissa (y.exponent - x.exponent)
  ofQuotient n d

/-- A power of ten, rounded. -/
def powerOfTen (n : Nat) : Option Binary64 :=
  ofQuotient (Nat.pow 10 n) 1

/-- The largest power of ten that can be divided by. -/
def maxPower : Nat :=
  308

/-- `x` divided by `10 ^ n`, in as many divisions as it takes; from the third on nothing is left. -/
def divPower (x : Binary64) (n : Nat) : Option Binary64 := do
  if n ≤ maxPower then x.div (← powerOfTen n)
  else
    let y ← x.div (← powerOfTen maxPower)
    if n - maxPower ≤ maxPower then y.div (← powerOfTen (n - maxPower)) else some zero

/-- `significand * 10 ^ exponent`, computed on rounded numbers; `none` past the largest. -/
def scale (significand : Nat) (exponent : Int) : Option Binary64 := do
  let x ← ofQuotient significand 1
  if significand = 0 then some zero
  else if exponent < 0 then x.divPower exponent.natAbs
  else if exponent.toNat ≤ maxPower then x.mul (← powerOfTen exponent.toNat)
  else none

end Binary64

end ContextQuery
