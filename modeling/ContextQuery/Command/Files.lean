import ContextQuery.Text.Ascii
import ContextQuery.Text.Pieces

/-!
# Files

The file that holds a configuration is named by a path. `Directory.read` follows a path, name by
name, in a directory that is given as a list of its files; what can go wrong there can go wrong with
a real file too. Of two faults the one that is met first on the way is told.
-/

namespace ContextQuery.Command

/-- Why a file cannot be read as a text. -/
inductive FileFault where
  | missing
  | isDirectory
  | notADirectory
  | nameTooLong
  | nulInPath
  | notText
  | other (cause : String)
  deriving DecidableEq, Repr

/-- The wording of a fault. -/
def FileFault.message : FileFault → String
  | .missing => "No such file or directory (os error 2)"
  | .isDirectory => "Is a directory (os error 21)"
  | .notADirectory => "Not a directory (os error 20)"
  | .nameTooLong => "File name too long (os error 36)"
  | .nulInPath => "file name contained an unexpected NUL byte"
  | .notText => "stream did not contain valid UTF-8"
  | .other cause => cause

/-! ## Names -/

/-- The names between the slashes of a path. -/
def pathNames (path : String) : List (List Char) :=
  Text.pieces '/' path.toList

/-- The name stays in the directory where it stands. -/
def staysHere (name : List Char) : Bool :=
  name.isEmpty || name == ['.']

/-- The name of the directory above. -/
def parentName : List Char :=
  ['.', '.']

/-- A name has at most this many bytes. -/
def maxNameBytes : Nat :=
  255

/-- A path has at most this many bytes. -/
def maxPathBytes : Nat :=
  4095

/-! ## Following a path -/

/-- A directory, by the paths of its files and what they hold. -/
structure Directory where
  files : List (String × String)

/-- Where a path has led: to a directory inside the given one, by the names on the way to it, to a
file, or to a directory that is not inside the given one. -/
inductive Place where
  | inside (names : List (List Char))
  | file (text : String)
  | outside
  deriving DecidableEq, Repr

namespace Directory

/-- The names on the way to a file. -/
def fileNames (path : String) : List (List Char) :=
  (pathNames path).filter (!staysHere ·)

/-- What stands at the end of these names. -/
def entry? (d : Directory) (names : List (List Char)) : Option Place :=
  match d.files.find? fun file => fileNames file.1 == names with
  | some (_, text) => some (.file text)
  | none =>
    if d.files.any fun file => names.isPrefixOf (fileNames file.1) then some (.inside names) else none

/-- Where a name leads from a place. Of what is outside only the directories above are known. -/
def step (d : Directory) (place : Place) (name : List Char) : Except FileFault Place :=
  match place with
  | .file _ => .error .notADirectory
  | .inside names =>
    if staysHere name then .ok place
    else if name = parentName then .ok (if names.isEmpty then .outside else .inside names.dropLast)
    else if maxNameBytes < Text.utf8Length name then .error .nameTooLong
    else match d.entry? (names ++ [name]) with
      | some next => .ok next
      | none => .error .missing
  | .outside =>
    if staysHere name || name == parentName then .ok .outside
    else if maxNameBytes < Text.utf8Length name then .error .nameTooLong
    else .error .missing

/-- The place at the end of a path. -/
def follow (d : Directory) (path : String) : Except FileFault Place :=
  let start := if path.toList.head? = some '/' then Place.outside else .inside []
  (pathNames path).foldlM d.step start

/-- The text at a path. -/
def read (d : Directory) (path : String) : Except FileFault String :=
  if path.toList.contains '\x00' then .error .nulInPath
  else if maxPathBytes < Text.utf8Length path.toList then .error .nameTooLong
  else
    match d.follow path with
    | .error fault => .error fault
    | .ok (.file text) => .ok text
    | .ok _ => .error .isDirectory

end Directory

end ContextQuery.Command
