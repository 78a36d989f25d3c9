import ContextQuery.Text.Ascii

/-!
# UUIDs

A UUID is accepted in one form only: thirty-two digits of base sixteen in groups of 8, 4, 4, 4
and 12, with a hyphen between neighbours. Its canonical text has small letters.
-/

namespace ContextQuery.Uuid

/-- A digit of base sixteen, in either case. -/
def isHexDigit (c : Char) : Bool :=
  c.isDigit || ('a' ≤ c && c ≤ 'f') || ('A' ≤ c && c ≤ 'F')

/-- Groups of digits of these sizes, with a hyphen between neighbours. -/
def isGroups : List Nat → List Char → Bool
  | [], cs => cs.isEmpty
  | [n], cs => cs.length == n && cs.all isHexDigit
  | n :: sizes, cs =>
    (cs.take n).length == n && (cs.take n).all isHexDigit &&
      match cs.drop n with
      | '-' :: rest => isGroups sizes rest
      | _ => false

/-- The text is a hyphenated UUID. -/
def isUuid (s : String) : Bool :=
  isGroups [8, 4, 4, 4, 12] s.toList

/-- The canonical text of a UUID, if the text is one. -/
def canonical? (s : String) : Option String :=
  if isUuid s then some (Text.foldCase s) else none

end ContextQuery.Uuid
