/-!
# ASCII case, digits and bytes

Keywords, relation names and the words `true` and `false` are compared without regard to the case
of the twenty-six ASCII letters; every other character counts as it is. Codes are written with the
digits of base sixteen, and positions in a text are counted in bytes.
-/

namespace ContextQuery.Text

/-- The text with the ASCII capitals written small. -/
def foldCase (s : String) : String :=
  s.map Char.toLower

/-- The two texts differ at most in the case of ASCII letters. -/
def sameFolded (s t : String) : Bool :=
  foldCase s == foldCase t

/-- A digit of base sixteen, small letters past nine. -/
def hexDigit (n : Nat) : Char :=
  if n < 10 then Char.ofNat (48 + n) else Char.ofNat (87 + n)

/-- The number of bytes that the characters take in UTF-8. -/
def utf8Length : List Char → Nat
  | [] => 0
  | c :: cs => c.utf8Size + utf8Length cs

theorem utf8Length_append (s t : List Char) :
    utf8Length (s ++ t) = utf8Length s + utf8Length t := by
  induction s with
  | nil => simp [utf8Length]
  | cons c cs ih => simp [utf8Length, ih, Nat.add_assoc]

@[simp] theorem toList_foldCase (s : String) : (foldCase s).toList = s.toList.map Char.toLower :=
  String.toList_map

end ContextQuery.Text
