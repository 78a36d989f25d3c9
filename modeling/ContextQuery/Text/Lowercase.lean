import ContextQuery.Text.CaseTable

/-!
# Lower case

The small form of a whole text, for every script: what index names are compared by. Each character
goes to its small form on its own, with two exceptions that Unicode lists: the dotted capital I
becomes two characters, and a capital sigma at the end of a word takes the final form.
-/

namespace ContextQuery.Text

/-- A character of the class Cased. -/
def isCased (c : Char) : Bool :=
  inRanges casedRanges c

/-- A character of the class Case_Ignorable. -/
def isCaseIgnorable (c : Char) : Bool :=
  inRanges ignorableRanges c

/-- The small form of a character, taken on its own. -/
def lowerChar (c : Char) : List Char :=
  if c.toNat < 0x80 then [c.toLower]
  else if c = 'İ' then ['i', '\u0307']
  else match caseRuns.find? (·.covers c.toNat) with
    | some r => [Char.ofNat (c.toNat + r.offset).toNat]
    | none => [c]

/-- Past the ignorable characters, a cased one comes first. -/
def meetsCased (cs : List Char) : Bool :=
  match cs.dropWhile isCaseIgnorable with
  | [] => false
  | c :: _ => isCased c

/-- The small form of the characters; `inWord` says that the nearest character before them that is
not ignorable is cased. A sigma is final when a word stands before it and none goes on after it. -/
def lowerFrom (inWord : Bool) : List Char → List Char
  | [] => []
  | c :: cs =>
    let here :=
      if c = 'Σ' then (if inWord && !meetsCased cs then ['ς'] else ['σ']) else lowerChar c
    here ++ lowerFrom (if isCaseIgnorable c then inWord else isCased c) cs

/-- The text in lower case. -/
def lowercase (s : String) : String :=
  String.ofList (lowerFrom false s.toList)

end ContextQuery.Text
