import ContextQuery.Config.Reader
import ContextQuery.Proofs.Json.Reads

/-!
# Configurations that are kept

A configuration that was written as JSON is read as it was (`Config.ofJson_toJson`). The members of
an entry fill in a draft of it, one place after the other; what is left out of the text is left open
in the draft, and an open place of a draft is an absent text.
-/

namespace ContextQuery

open Json Json.Reader

/-! ## Entries -/

theorem Kind.reads_name (k : Kind) : Kind.reader.Reads (.str k.name) k := by
  intro rest
  cases k with
  | alwaysMatches | boolean | number | uuid | timestamp | text => rfl

theorem Entry.reads_text (s : String) : Entry.textReader.Reads (.str s) s :=
  .string "a string" s

namespace EntryDraft

/-- The draft of an entry that has been given all of its members. -/
def ofEntry (e : Entry) : EntryDraft where
  index := some e.index
  kind := some e.kind
  column := e.column.map some
  exact := some e.exact
  likeOps := some e.likeOps
  fullText := some e.fullText
  language := e.language.map some

theorem ofObject_ofEntry (e : Entry) : (ofEntry e).ofObject = .ok e := by
  have given (s? : Option String) : (s?.map some).join = s? := by
    cases s? with
    | none => rfl
    | some s => rfl
  show Except.ok { e with column := (e.column.map some).join
                          language := (e.language.map some).join } = .ok e
  rw [given, given]

/-- A text that may be left out fills in the place that `put` has for it. -/
theorem fills_optional {d : EntryDraft} {name : String} (put : Option (Option String) → EntryDraft)
    (start : put none = d)
    (isMember : member d name =
      (Reader.once name false Entry.textReader.orNull).map fun v => put (some v))
    (s? : Option String) : Fills member d (optionalMember name s?) (put (s?.map some)) := by
  cases s? with
  | none =>
      rw [← start]
      exact .nil _
  | some s => exact .once (Entry.reads_text s).orNull isMember (.nil _)

/-- The members that are written for an entry fill in the draft of it. -/
theorem fills_ofEntry (e : Entry) :
    Fills member {} ([("index", .str e.index), ("type", .str e.kind.name)] ++
      optionalMember "column" e.column ++
      [("exact", .bool e.exact), ("like_ops", .bool e.likeOps), ("full_text", .bool e.fullText)] ++
      optionalMember "language" e.language) (ofEntry e) := by
  have names : Fills member {} [("index", .str e.index), ("type", .str e.kind.name)]
      { index := some e.index, kind := some e.kind } :=
    .once (Entry.reads_text _) rfl (.once e.kind.reads_name rfl (.nil _))
  have column : Fills member { index := some e.index, kind := some e.kind }
      (optionalMember "column" e.column)
      { index := some e.index, kind := some e.kind, column := e.column.map some } :=
    fills_optional (fun column => { index := some e.index, kind := some e.kind, column }) rfl rfl
      e.column
  have modes : Fills member
      { index := some e.index, kind := some e.kind, column := e.column.map some }
      [("exact", .bool e.exact), ("like_ops", .bool e.likeOps), ("full_text", .bool e.fullText)]
      { ofEntry e with language := none } :=
    .once (.bool _) rfl (.once (.bool _) rfl (.once (.bool _) rfl (.nil _)))
  have language : Fills member { ofEntry e with language := none }
      (optionalMember "language" e.language) (ofEntry e) :=
    fills_optional (fun language => { ofEntry e with language }) rfl rfl e.language
  exact ((names.append column).append modes).append language

end EntryDraft

theorem Entry.reads_toJson (e : Entry) : Entry.reader.Reads e.toJson e :=
  .record (EntryDraft.fills_ofEntry e) (EntryDraft.ofObject_ofEntry e)

/-! ## Configurations -/

namespace Config

theorem reads_toJson (c : Config) : reader.Reads c.toJson c := by
  have entries : (Reader.array Entry.reader).Reads (.arr (c.entries.map Entry.toJson)) c.entries :=
    .array fun e _ => e.reads_toJson
  have fills : Fills member none [("fields", .arr (c.entries.map Entry.toJson))] (some c.entries) :=
    .once entries rfl (.nil _)
  exact .record fills rfl

/-- **Keeping.** A configuration that is written as JSON, with blanks or without, is read as the same
configuration, whatever its texts are, and whichever of them are absent or empty. -/
theorem ofJson_toJson (c : Config) :
    ofJson c.toJson.compact = .ok c ∧ ofJson c.toJson.pretty = .ok c := by
  constructor
  · exact readText_of_denotes c.reads_toJson (denotes_compact _)
  · exact readText_of_denotes c.reads_toJson (denotes_pretty_iff.mpr rfl)

end Config

end ContextQuery
