import ContextQuery.Decimal.Binary64

/-!
# The shortest decimal of a binary fraction

Of the decimals that round to a given binary number, the one with the fewest digits, and of those the
nearest. The decimals that end at the place `10 ^ k` are a grid; the coarsest grid with a point that
rounds to the number is looked for, and only the two points next to the number can do so.
-/

namespace ContextQuery.Decimal

open Binary64

/-- A decimal, `digits * 10 ^ place`. -/
structure Point where
  digits : Nat
  place : Int
  deriving DecidableEq, Repr

/-- The point of the grid at `10 ^ place` that rounds to `x`, the nearer of two. -/
def pointAt (x : Binary64) (place : Int) : Option Point :=
  -- quarters of the mantissa's unit are whole numbers here, as are units of the grid
  let quarters (q : Nat) : Nat := q * Nat.pow 2 (x.exponent - 2).toNat * Nat.pow 10 (-place).toNat
  let units (c : Nat) : Nat := c * Nat.pow 10 place.toNat * Nat.pow 2 (2 - x.exponent).toNat
  let atBinade := x.mantissa = Nat.pow 2 52 ∧ minExponent < x.exponent
  let low := quarters (4 * x.mantissa - if atBinade then 1 else 2)
  let high := quarters (4 * x.mantissa + 2)
  let value := quarters (4 * x.mantissa)
  let rounds (c : Nat) : Bool :=
    if x.mantissa % 2 = 0 then low ≤ units c && units c ≤ high else low < units c && units c < high
  let below := value / units 1
  let above := below + 1
  match rounds below, rounds above with
  | true, true =>
    let down := value - units below
    let up := units above - value
    if down < up ∨ (down = up ∧ below % 2 = 0) then some ⟨below, place⟩ else some ⟨above, place⟩
  | true, false => some ⟨below, place⟩
  | false, true => some ⟨above, place⟩
  | false, false => none

/-- The first point found at the place `place` or one of the `n` places after it. -/
def firstPoint (x : Binary64) (place : Int) : Nat → Point
  | 0 => ⟨0, 0⟩
  | n + 1 =>
    match pointAt x place with
    | some p => p
    | none => firstPoint x (place - 1) n

/-- The shortest decimal that rounds to `x`. No number of the format has a digit before the 309th
place, nor needs one after the 343rd behind the point. -/
def shortest (x : Binary64) : Point :=
  if x.mantissa = 0 then ⟨0, 0⟩ else firstPoint x 309 654

/-- The digits of a number. -/
def digitChars (n : Nat) : List Char :=
  if n < 10 then [Char.ofNat (48 + n)] else digitChars (n / 10) ++ [Char.ofNat (48 + n % 10)]

/-- The text of a decimal: positional when its first digit stands less than seventeen places before
the point and less than five behind it, with a signed exponent otherwise. -/
def Point.text (p : Point) : String :=
  let ds := digitChars p.digits
  let first := p.place + ds.length
  String.ofList <|
    if p.digits = 0 then ['0', '.', '0']
    else if 0 ≤ p.place ∧ first ≤ 16 then ds ++ List.replicate p.place.toNat '0' ++ ['.', '0']
    else if 0 < first ∧ first ≤ 16 then ds.take first.toNat ++ ['.'] ++ ds.drop first.toNat
    else if -5 < first ∧ first ≤ 0 then ['0', '.'] ++ List.replicate (-first).toNat '0' ++ ds
    else
      let sign := if first - 1 < 0 then ['-'] else ['+']
      let exponent := ['e'] ++ sign ++ digitChars (first - 1).natAbs
      if ds.length = 1 then ds ++ exponent else ds.take 1 ++ ['.'] ++ ds.drop 1 ++ exponent

end ContextQuery.Decimal
