import ContextQuery.Text.Ascii
import ContextQuery.Text.EscapeTable

/-!
# A text shown in a message

A message quotes a text so that every character of it can be told: quotes and backslashes are
escaped, and a character that would not be seen is shown by its code.
-/

namespace ContextQuery.Text

/-- The digits of base sixteen of a number, at least one. -/
def hexDigits (n : Nat) : List Char :=
  if n < 16 then [hexDigit n] else hexDigits (n / 16) ++ [hexDigit (n % 16)]

/-- A character that would not be seen by itself: a control, or one of the listed ranges. -/
def isUnseen (c : Char) : Bool :=
  c.toNat < 0x20 || inRanges escapedRanges c

/-- One character of a shown text. -/
def shownChar (c : Char) : List Char :=
  match c with
  | '"' => ['\\', '"']
  | '\\' => ['\\', '\\']
  | '\n' => ['\\', 'n']
  | '\r' => ['\\', 'r']
  | '\t' => ['\\', 't']
  | '\x00' => ['\\', '0']
  | c => if isUnseen c then ['\\', 'u', '\x7b'] ++ hexDigits c.toNat ++ ['\x7d'] else [c]

/-- The text between double quotes, escaped. -/
def shown (s : String) : String :=
  String.ofList (['"'] ++ s.toList.flatMap shownChar ++ ['"'])

end ContextQuery.Text
