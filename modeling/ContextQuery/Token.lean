import ContextQuery.Text.Ascii

/-!
# Tokens

The smallest pieces of a query text: punctuation, comparison signs, bare words and quoted strings.
Five words are reserved; they are tokens like any other word, and the grammar decides where one of
them is read as a keyword.
-/

namespace ContextQuery

/-- The seven comparison signs. -/
inductive Comparison where
  | equal
  | exact
  | different
  | less
  | greater
  | atMost
  | atLeast
  deriving DecidableEq, Repr

/-- How a comparison sign is written. -/
def Comparison.symbol : Comparison → String
  | .equal => "="
  | .exact => "=="
  | .different => "<>"
  | .less => "<"
  | .greater => ">"
  | .atMost => "<="
  | .atLeast => ">="

/-- A piece of a query text. The content of a quoted string keeps its backslashes. -/
inductive Token where
  | openParen
  | closeParen
  | slash
  | comparison (sign : Comparison)
  | word (text : String)
  | quoted (text : String)
  deriving DecidableEq, Repr

/-- The operators and the word that introduces the sort keys. -/
def reservedWords : List String :=
  ["and", "or", "not", "prox", "sortby"]

/-- The word is reserved, in any case. -/
def isReserved (word : String) : Bool :=
  reservedWords.contains (Text.foldCase word)

namespace Token

/-- The token is this keyword, in any case. Quoting takes a word out of the language. -/
def isKeyword (keyword : String) : Token → Bool
  | .word w => Text.sameFolded w keyword
  | _ => false

/-- The token is a reserved word. -/
def isReserved : Token → Bool
  | .word w => ContextQuery.isReserved w
  | _ => false

/-- The text of a word or of a quoted string: what may stand for a name or a value. -/
def symbol? : Token → Option String
  | .word s => some s
  | .quoted s => some s
  | _ => none

/-- The characters that the token takes in a query text. -/
def source : Token → List Char
  | .openParen => ['(']
  | .closeParen => [')']
  | .slash => ['/']
  | .comparison sign => sign.symbol.toList
  | .word s => s.toList
  | .quoted s => '"' :: s.toList ++ ['"']

/-- How a message names the token. -/
def describe : Token → String
  | .openParen => "\"(\""
  | .closeParen => "\")\""
  | .slash => "\"/\""
  | .comparison sign => "\"" ++ sign.symbol ++ "\""
  | .word s => "\"" ++ s ++ "\""
  | .quoted s => "quoted string \"" ++ s ++ "\""

end Token

end ContextQuery
