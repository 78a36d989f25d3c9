import ContextQuery.Sql.Literal

/-!
# Masked terms

The term of a text clause is a mask: `*` stands for any characters, `?` for one, `^` for an end of
the text, and a backslash takes the meaning from exactly these three, from a quote and from itself.
A term is read from left to right and the first thing that cannot be said is the fault reported.

Two readings lead to the body of a string literal. `exact` compares with one text, so it admits no
wildcard; `like` writes a `LIKE` pattern. Neither can say `^`.
-/

namespace ContextQuery.Mask

/-- What a mask asks for, place by place. -/
inductive Symbol where
  | char (c : Char)
  | anyChar
  | anyText
  deriving DecidableEq, Repr

/-- Why a mask cannot be used. -/
inductive Fault where
  | badEscape
  | trailingBackslash
  | anchor
  | anyChar
  | anyText
  deriving DecidableEq, Repr

/-- The wording of a fault. -/
def Fault.message : Fault → String
  | .badEscape => "A masking backslash in a CQL string must be followed by *, ?, ^, \" or \\"
  | .trailingBackslash => "A CQL string must not end with a masking backslash"
  | .anchor => "Anchor op ^ unsupported"
  | .anyChar => "Masking op ? unsupported"
  | .anyText => "Masking op * unsupported"

/-- The characters that a backslash may stand before. -/
def isEscapable (c : Char) : Bool :=
  c == '*' || c == '?' || c == '^' || c == '"' || c == '\\'

/-- What a character without a backslash asks for. -/
def Symbol.ofChar (c : Char) : Except Fault Symbol :=
  if c = '*' then .ok .anyText
  else if c = '?' then .ok .anyChar
  else if c = '^' then .error .anchor
  else .ok (.char c)

/-- Reads a mask from the left, taking each symbol with `take`. -/
def read {α : Type} (take : Symbol → Except Fault α) : List Char → Except Fault (List α)
  | [] => .ok []
  | ['\\'] => .error .trailingBackslash
  | '\\' :: c :: rest =>
    if isEscapable c then do
      let a ← take (.char c)
      return a :: (← read take rest)
    else .error .badEscape
  | c :: rest => do
    let a ← take (← Symbol.ofChar c)
    return a :: (← read take rest)

/-- The symbols of a mask. -/
def symbols : List Char → Except Fault (List Symbol) :=
  read .ok

/-- The character that a symbol asks for, if it asks for one. -/
def Symbol.only : Symbol → Except Fault Char
  | .char c => .ok c
  | .anyChar => .error .anyChar
  | .anyText => .error .anyText

/-- The only text that a mask without wildcards asks for. -/
def characters : List Char → Except Fault (List Char) :=
  read Symbol.only

/-- A symbol in a `LIKE` pattern. The characters with a meaning there are escaped. -/
def Symbol.like : Symbol → List Char
  | .char c => if c = '%' || c = '_' || c = '\\' then ['\\', c] else Sql.literalChar c
  | .anyChar => ['_']
  | .anyText => ['%']

/-- The symbol is not a character. -/
def Symbol.isWildcard : Symbol → Bool
  | .char _ => false
  | _ => true

/-- A `LIKE` pattern, as the body of a literal. -/
structure LikePattern where
  body : String
  wildcards : Bool
  deriving DecidableEq, Repr

/-- The body of the literal that a term is compared with. -/
def exact (term : String) : Except Fault String := do
  return String.ofList (Sql.literalBody (← characters term.toList))

/-- The pattern that a term is matched with, and whether it needs matching at all. -/
def like (term : String) : Except Fault LikePattern := do
  let ss ← symbols term.toList
  return ⟨String.ofList (ss.flatMap Symbol.like), ss.any Symbol.isWildcard⟩

end ContextQuery.Mask
