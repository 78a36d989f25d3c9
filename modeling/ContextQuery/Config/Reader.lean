import ContextQuery.Config.Basic
import ContextQuery.Json.Reader

/-!
# Reading configurations

A configuration is a record with the one member `fields`, an array of entries; other members are
skipped. An entry is a record with seven members and no others, of which only the index and the type
must be given. Either record may be written as an array of its values in order. A type is written as
its name, or as an object whose one member has that name and the value `null`.
-/

namespace ContextQuery

open Json (Fault Reader)

/-- The members of an entry, in order. -/
def entryMembers : List String :=
  ["index", "type", "column", "exact", "like_ops", "full_text", "language"]

/-- An entry while it is read: each member that has been given. -/
structure EntryDraft where
  index : Option String := none
  kind : Option Kind := none
  column : Option (Option String) := none
  exact : Option Bool := none
  likeOps : Option Bool := none
  fullText : Option Bool := none
  language : Option (Option String) := none

namespace EntryDraft

/-- The entry with this index and type; all else not given is absent or false. -/
def finish (d : EntryDraft) (index : String) (kind : Kind) : Entry :=
  { index, kind, column := d.column.join, exact := d.exact.getD false,
    likeOps := d.likeOps.getD false, fullText := d.fullText.getD false,
    language := d.language.join }

/-- The entry, where an array has given the members. -/
def ofArray (d : EntryDraft) : Except Fault Entry :=
  let tooShort (n : Nat) : Fault := .tooShort n "struct FieldConfig with 7 elements"
  match d.index, d.kind with
  | none, _ => .error (tooShort 0)
  | _, none => .error (tooShort 1)
  | some index, some kind => .ok (d.finish index kind)

/-- The entry, where an object has given the members. -/
def ofObject (d : EntryDraft) : Except Fault Entry :=
  match d.index, d.kind with
  | none, _ => .error (.missingMember "index")
  | _, none => .error (.missingMember "type")
  | some index, some kind => .ok (d.finish index kind)

end EntryDraft

/-- The type of a name, which has to be one. -/
def Kind.named (name : String) : Except Fault Kind :=
  match Kind.ofName? name with
  | some kind => .ok kind
  | none => .error (.unknownVariant name (Kind.all.map Kind.name))

/-- Reads the name of a type. -/
def Kind.nameReader : Reader Kind :=
  Reader.name.verify Kind.named

/-- Reads a type. -/
def Kind.reader : Reader Kind :=
  .byHead fun
    | some .openBrace =>
      (Reader.punctuation .openBrace).andThen fun _ =>
      Kind.nameReader.andThen fun kind =>
      (Reader.punctuation .colon).andThen fun _ =>
      Reader.unit.andThen fun _ =>
      (Reader.punctuation .closeBrace).map fun _ => kind
    | _ => Kind.nameReader

/-- Reads a text. -/
def Entry.textReader : Reader String :=
  .string "a string"

/-- The readers of the members of an entry, in order. -/
def EntryDraft.places : List (EntryDraft → Reader EntryDraft) :=
  [fun d => Entry.textReader.map fun v => { d with index := some v },
   fun d => Kind.reader.map fun v => { d with kind := some v },
   fun d => Entry.textReader.orNull.map fun v => { d with column := some v },
   fun d => Reader.bool.map fun v => { d with exact := some v },
   fun d => Reader.bool.map fun v => { d with likeOps := some v },
   fun d => Reader.bool.map fun v => { d with fullText := some v },
   fun d => Entry.textReader.orNull.map fun v => { d with language := some v }]

/-- The reader of the member of an entry that has this name. -/
def EntryDraft.member (d : EntryDraft) (name : String) : Reader EntryDraft :=
  match name with
  | "index" =>
    (Reader.once name d.index.isSome Entry.textReader).map fun v => { d with index := some v }
  | "type" => (Reader.once name d.kind.isSome Kind.reader).map fun v => { d with kind := some v }
  | "column" =>
    (Reader.once name d.column.isSome Entry.textReader.orNull).map fun v =>
      { d with column := some v }
  | "exact" =>
    (Reader.once name d.exact.isSome Reader.bool).map fun v => { d with exact := some v }
  | "like_ops" =>
    (Reader.once name d.likeOps.isSome Reader.bool).map fun v => { d with likeOps := some v }
  | "full_text" =>
    (Reader.once name d.fullText.isSome Reader.bool).map fun v => { d with fullText := some v }
  | "language" =>
    (Reader.once name d.language.isSome Entry.textReader.orNull).map fun v =>
      { d with language := some v }
  | name => .fail (.unknownMember name entryMembers)

/-- Reads an entry. -/
def Entry.reader : Reader Entry :=
  .record "struct FieldConfig" {} EntryDraft.places EntryDraft.ofArray EntryDraft.ofObject
    EntryDraft.member

namespace Config

/-- The entries that have been given, if any have. -/
abbrev Draft := Option (List Entry)

/-- The configuration with the entries given. -/
def ofDraft (d : Draft) : Except Fault Config :=
  .ok ⟨d.getD []⟩

/-- The reader of the member of a configuration that has this name. -/
def member (d : Draft) (name : String) : Reader Draft :=
  if name = "fields" then (Reader.once name d.isSome (.array Entry.reader)).map some
  else (Reader.once name false .skipped).map fun _ => d

/-- Reads a configuration. -/
def reader : Reader Config :=
  .record "struct DefinitionConfig" none [fun _ => (Reader.array Entry.reader).map some] ofDraft
    ofDraft member

/-- The configuration that a JSON text holds. -/
def ofJson (s : String) : Except Fault Config :=
  Json.readText reader s

end Config

/-- The wording of a fault in a configuration, where there is one. -/
def Config.faultMessage? (fault : Fault) : Option String :=
  fault.message?.map ("invalid field configuration: " ++ ·)

end ContextQuery
