import ContextQuery.Json.Value
import ContextQuery.Registry

/-!
# Configurations

A configuration lists the fields of a registry in a form that can be kept in a file. `Config.build`
makes the registry, or names the first entry that cannot be a field and the first rule that it breaks.
`Config.toJson` is the form in which a configuration is kept.
-/

namespace ContextQuery

/-- The types that an entry can ask for. -/
inductive Kind where
  | alwaysMatches
  | boolean
  | number
  | uuid
  | timestamp
  | text
  deriving DecidableEq, Repr

namespace Kind

/-- The types in the order in which messages list them. -/
def all : List Kind :=
  [.alwaysMatches, .boolean, .number, .uuid, .timestamp, .text]

/-- How a configuration names the type. -/
def name : Kind → String
  | .alwaysMatches => "always_matches"
  | .boolean => "boolean"
  | .number => "number"
  | .uuid => "uuid"
  | .timestamp => "timestamp"
  | .text => "text"

/-- The type of a name. -/
def ofName? (name : String) : Option Kind :=
  all.find? (·.name == name)

end Kind

/-- An entry of a configuration: an index, its type, and what is said about its column and about the
ways in which text is searched. -/
structure Entry where
  index : String
  kind : Kind
  column : Option String := none
  exact : Bool := false
  likeOps : Bool := false
  fullText : Bool := false
  language : Option String := none
  deriving DecidableEq, Repr

/-- A configuration. -/
structure Config where
  entries : List Entry
  deriving DecidableEq, Repr

/-! ## Building a registry -/

/-- The rules that an entry may break, in the order in which they are checked. -/
inductive EntryFault where
  | duplicateIndex
  | emptyIndex
  | textOptions
  | languageAlone
  | emptyLanguage
  deriving DecidableEq, Repr

/-- The wording of a broken rule. -/
def EntryFault.message : EntryFault → String
  | .duplicateIndex => "duplicate index"
  | .emptyIndex => "index must not be empty"
  | .textOptions => "exact, like_ops and full_text apply to text fields only"
  | .languageAlone => "language requires full_text"
  | .emptyLanguage => "language must not be empty"

/-- An entry, by its index, and the rule that it breaks. -/
structure BuildError where
  index : String
  fault : EntryFault
  deriving DecidableEq, Repr

/-- The wording of an error. -/
def BuildError.message (e : BuildError) : String :=
  "invalid field definition: " ++ e.index ++ ": " ++ e.fault.message

namespace Entry

/-- The ways in which a text field of this entry can be searched. -/
def search (e : Entry) : Except EntryFault TextSearch := do
  let plain : TextSearch := {}
  let withExact := if e.exact then plain.withExact else plain
  let withLike := if e.likeOps then withExact.withLike else withExact
  if e.fullText then
    match e.language with
    | some language =>
      if language.isEmpty then throw .emptyLanguage else return withLike.withFullText language
    | none => return withLike.withFullText TextSearch.defaultLanguage
  else return withLike

/-- The type of the field of this entry. -/
def fieldType (e : Entry) : Except EntryFault FieldType :=
  match e.kind with
  | .alwaysMatches => .ok .alwaysMatches
  | .boolean => .ok .boolean
  | .number => .ok .number
  | .uuid => .ok .uuid
  | .timestamp => .ok .timestamp
  | .text => do return .text (← e.search)

/-- The field of this entry; without a column where the entry names none. -/
def field (e : Entry) : Except EntryFault Field := do
  if e.index.isEmpty then throw .emptyIndex
  if e.kind ≠ .text ∧ (e.exact || e.likeOps || e.fullText) then throw .textOptions
  if e.language.isSome && !e.fullText then throw .languageAlone
  return ⟨e.column.getD "", ← e.fieldType⟩

end Entry

namespace Config

/-- The registry with a field for each of the entries, whose indexes must be new to it. -/
def buildOnto (r : Registry) : List Entry → Except BuildError Registry
  | [] => .ok r
  | e :: es =>
    if (r.find? e.index).isSome then .error ⟨e.index, .duplicateIndex⟩
    else
      match e.field with
      | .error fault => .error ⟨e.index, fault⟩
      | .ok field => buildOnto (r.insert e.index field) es

/-- The registry of a configuration. -/
def build (c : Config) : Except BuildError Registry :=
  buildOnto .empty c.entries

end Config

/-! ## Keeping a configuration -/

/-- A member for a text that may be absent, and is left out then. -/
def optionalMember (name : String) : Option String → List (String × Json)
  | some s => [(name, .str s)]
  | none => []

/-- An entry as JSON. -/
def Entry.toJson (e : Entry) : Json :=
  .obj <|
    [("index", .str e.index), ("type", .str e.kind.name)] ++ optionalMember "column" e.column ++
      [("exact", .bool e.exact), ("like_ops", .bool e.likeOps), ("full_text", .bool e.fullText)] ++
      optionalMember "language" e.language

/-- A configuration as JSON. -/
def Config.toJson (c : Config) : Json :=
  .obj [("fields", .arr (c.entries.map Entry.toJson))]

end ContextQuery
