/-!
# Decimal numbers

The numbers that a number field compares with. They go into the condition as they were written and
without quotes, so the whole text must be a number: a sign or none, ASCII digits with at most one
point and at least one digit, and an exponent or none.
-/

namespace ContextQuery.Numeral

/-- The text without a sign at its start. -/
def dropSign : List Char → List Char
  | '+' :: cs => cs
  | '-' :: cs => cs
  | cs => cs

/-- One digit or more. -/
def isDigits (cs : List Char) : Bool :=
  !cs.isEmpty && cs.all Char.isDigit

/-- An exponent, or nothing. -/
def isExponent : List Char → Bool
  | [] => true
  | 'e' :: cs => isDigits (dropSign cs)
  | 'E' :: cs => isDigits (dropSign cs)
  | _ => false

/-- Digits with at most one point among them and at least one digit, then an exponent or nothing. -/
def isUnsigned (cs : List Char) : Bool :=
  let whole := cs.takeWhile Char.isDigit
  match cs.dropWhile Char.isDigit with
  | '.' :: rest =>
    (!whole.isEmpty || !(rest.takeWhile Char.isDigit).isEmpty) &&
      isExponent (rest.dropWhile Char.isDigit)
  | rest => !whole.isEmpty && isExponent rest

/-- The text is a decimal number. -/
def isNumeral (s : String) : Bool :=
  isUnsigned (dropSign s.toList)

end ContextQuery.Numeral
