import Mathlib.Data.List.Perm.Basic
import Mathlib.Order.WellFounded
import ContextQuery.Config.Basic
import ContextQuery.Proofs.Except
import ContextQuery.Proofs.Registry

/-!
# Building registries

An entry is checked against five rules, one of which is about the entries before it, and a
configuration is valid where every entry keeps them all (`Config.Valid`). While a registry is built
it lists the entries read so far (`Registry.Lists`): an entry that keeps the rules is one more on
the list, and an entry that does not ends the building with the first rule it breaks. So the
building succeeds on valid configurations alone (`Config.build_valid`).
-/

namespace ContextQuery

open Text (lowercase)

/-! ## Rules -/

/-- The order of the rules. -/
def EntryFault.place : EntryFault → Nat
  | .duplicateIndex => 0
  | .emptyIndex => 1
  | .textOptions => 2
  | .languageAlone => 3
  | .emptyLanguage => 4

namespace Entry

/-- The entry breaks the rule, where the entries `earlier` stand before it. -/
def Breaks (earlier : List Entry) (e : Entry) : EntryFault → Prop
  | .duplicateIndex => ∃ other ∈ earlier, lowercase other.index = lowercase e.index
  | .emptyIndex => e.index = ""
  | .textOptions => e.kind ≠ .text ∧ (e.exact = true ∨ e.likeOps = true ∨ e.fullText = true)
  | .languageAlone => e.language ≠ none ∧ e.fullText = false
  | .emptyLanguage => e.language = some ""

instance (earlier : List Entry) (e : Entry) (fault : EntryFault) :
    Decidable (e.Breaks earlier fault) :=
  match fault with
  | .duplicateIndex => inferInstanceAs (Decidable (∃ other ∈ earlier, _ = _))
  | .emptyIndex => inferInstanceAs (Decidable (_ = _))
  | .textOptions => inferInstanceAs (Decidable (_ ∧ _))
  | .languageAlone => inferInstanceAs (Decidable (_ ∧ _))
  | .emptyLanguage => inferInstanceAs (Decidable (_ = _))

/-- The entry keeps every rule. -/
def Keeps (earlier : List Entry) (e : Entry) : Prop :=
  ∀ fault, ¬ e.Breaks earlier fault

/-- The first of the rules that the entry breaks. -/
structure BreaksFirst (earlier : List Entry) (e : Entry) (fault : EntryFault) : Prop where
  breaks : e.Breaks earlier fault
  first : ∀ other, e.Breaks earlier other → fault.place ≤ other.place

/-- The ways of searching texts that the entry asks for. -/
def wantedSearch (e : Entry) : TextSearch where
  matching := if e.likeOps then .like else if e.exact then .exact else .disabled
  language := if e.fullText then some (e.language.getD TextSearch.defaultLanguage) else none

/-- The type that the entry asks for. -/
def wantedType (e : Entry) : FieldType :=
  match e.kind with
  | .alwaysMatches => .alwaysMatches
  | .boolean => .boolean
  | .number => .number
  | .uuid => .uuid
  | .timestamp => .timestamp
  | .text => .text e.wantedSearch

/-- The column that the entry asks for: the one that it names, if that is not empty, and else that of
its index in small letters. -/
def wantedColumn (e : Entry) : String :=
  match e.column with
  | some column => if column = "" then lowercase e.index else column
  | none => lowercase e.index

/-- The field that the entry asks for. -/
def wanted (e : Entry) : Field :=
  ⟨e.wantedColumn, e.wantedType⟩

variable {earlier : List Entry} {e : Entry} {fault : EntryFault}

/-- An entry that does not keep the rules breaks one of them first. -/
theorem keeps_or_breaksFirst (earlier : List Entry) (e : Entry) :
    e.Keeps earlier ∨ ∃ fault, e.BreaksFirst earlier fault := by
  by_cases keeps : e.Keeps earlier
  · exact .inl keeps
  · right
    simp only [Keeps, not_forall, not_not] at keeps
    obtain ⟨fault, breaks⟩ := keeps
    -- of the rules that it breaks, the one in the first place
    let places : Set Nat := {n | ∃ fault, e.Breaks earlier fault ∧ fault.place = n}
    obtain ⟨-, ⟨least, breaks, rfl⟩, first⟩ :=
      Nat.lt_wfRel.wf.has_min places ⟨fault.place, fault, breaks, rfl⟩
    exact ⟨least, breaks, fun other broken => Nat.le_of_not_lt (first _ ⟨other, broken, rfl⟩)⟩

/-! ## Fields -/

theorem search_of_language (named : e.language ≠ some "") :
    e.search = .ok e.wantedSearch := by
  obtain ⟨index, kind, column, exact, likeOps, fullText, language⟩ := e
  cases language with
  | none => cases exact <;> cases likeOps <;> cases fullText <;> rfl
  | some language =>
      have given : language.isEmpty = false := by
        simpa using fun empty => named (congrArg some empty)
      cases exact <;> cases likeOps <;> cases fullText <;> simp [search, given] <;> rfl

theorem fieldType_of_language (named : e.language ≠ some "") : e.fieldType = .ok e.wantedType := by
  unfold fieldType wantedType
  cases e.kind with
  | text =>
      rw [search_of_language named]
      rfl
  | alwaysMatches | boolean | number | uuid | timestamp => rfl

/-- An empty language is the last thing that can be wrong: it stands for a text field, with full-text
search. -/
theorem fieldType_of_breaks (breaks : e.Breaks earlier .emptyLanguage)
    (noOptions : ¬ e.Breaks earlier .textOptions) (notAlone : ¬ e.Breaks earlier .languageAlone) :
    e.fieldType = .error .emptyLanguage := by
  have named : e.language = some "" := breaks
  have full : e.fullText = true := by
    by_contra other
    exact notAlone ⟨named ▸ nofun, Bool.eq_false_of_not_eq_true other⟩
  have isText : e.kind = .text := by
    by_contra other
    exact noOptions ⟨other, .inr (.inr full)⟩
  unfold fieldType search
  rw [isText, full, named]
  rfl

/-- The field of an entry, by the rules in their order. -/
theorem field_eq (earlier : List Entry) (e : Entry) :
    e.field =
      if e.Breaks earlier .emptyIndex then .error .emptyIndex
      else if e.Breaks earlier .textOptions then .error .textOptions
      else if e.Breaks earlier .languageAlone then .error .languageAlone
      else if e.Breaks earlier .emptyLanguage then .error .emptyLanguage
      else .ok ⟨e.column.getD "", e.wantedType⟩ := by
  have noIndex : e.index.isEmpty = true ↔ e.Breaks earlier .emptyIndex := String.isEmpty_iff
  have options : (e.kind ≠ .text ∧ (e.exact || e.likeOps || e.fullText) = true) ↔
      e.Breaks earlier .textOptions := by
    simp [Breaks, or_assoc]
  have alone : (e.language.isSome && !e.fullText) = true ↔ e.Breaks earlier .languageAlone := by
    simp [Breaks, Option.isSome_iff_ne_none]
  unfold field
  by_cases unnamed : e.Breaks earlier .emptyIndex
  · rw [if_pos (noIndex.mpr unnamed), if_pos unnamed]
    rfl
  · rw [if_neg (mt noIndex.mp unnamed), if_neg unnamed]
    by_cases optioned : e.Breaks earlier .textOptions
    · rw [if_pos (options.mpr optioned), if_pos optioned]
      rfl
    · rw [if_neg (mt options.mp optioned), if_neg optioned]
      by_cases languageLeft : e.Breaks earlier .languageAlone
      · rw [if_pos (alone.mpr languageLeft), if_pos languageLeft]
        rfl
      · rw [if_neg (mt alone.mp languageLeft), if_neg languageLeft]
        by_cases languageEmpty : e.Breaks earlier .emptyLanguage
        · rw [if_pos languageEmpty, fieldType_of_breaks languageEmpty optioned languageLeft]
          rfl
        · rw [if_neg languageEmpty, fieldType_of_language languageEmpty]
          rfl

theorem field_of_keeps (keeps : e.Keeps earlier) :
    e.field = .ok ⟨e.column.getD "", e.wantedType⟩ := by
  rw [field_eq earlier, if_neg (keeps _), if_neg (keeps _), if_neg (keeps _), if_neg (keeps _)]

/-- No rule before the first broken one is broken. -/
theorem BreaksFirst.not_breaks (breaksFirst : e.BreaksFirst earlier fault) {other : EntryFault}
    (before : other.place < fault.place) : ¬ e.Breaks earlier other :=
  fun broken => Nat.not_le_of_lt before (breaksFirst.first other broken)

/-- If the first rule that an entry breaks is one about the entry alone, that is why it has no
field. -/
theorem field_of_breaksFirst (breaksFirst : e.BreaksFirst earlier fault)
    (other : fault ≠ .duplicateIndex) : e.field = .error fault := by
  have kept {rule : EntryFault} (before : rule.place < fault.place) : ¬ e.Breaks earlier rule :=
    breaksFirst.not_breaks before
  rw [field_eq earlier]
  cases fault with
  | duplicateIndex => exact absurd rfl other
  | emptyIndex => rw [if_pos breaksFirst.breaks]
  | textOptions => rw [if_neg (kept (by decide)), if_pos breaksFirst.breaks]
  | languageAlone =>
      rw [if_neg (kept (by decide)), if_neg (kept (by decide)), if_pos breaksFirst.breaks]
  | emptyLanguage =>
      rw [if_neg (kept (by decide)), if_neg (kept (by decide)), if_neg (kept (by decide)),
        if_pos breaksFirst.breaks]

/-- The field of an entry, with the column that a registry gives to one that has none. -/
theorem orColumn_eq_wanted (e : Entry) :
    Field.orColumn ⟨e.column.getD "", e.wantedType⟩ (lowercase e.index) = e.wanted := by
  unfold Field.orColumn wanted wantedColumn
  cases e.column with
  | none => rfl
  | some column =>
      dsimp only [Option.getD_some]
      by_cases empty : column = ""
      · rw [if_pos (String.isEmpty_iff.mpr empty), if_pos empty]
      · rw [if_neg (mt String.isEmpty_iff.mp empty), if_neg empty]

end Entry

/-! ## Registries -/

/-- The registry has a field for each entry, the one that the entry asks for, and has no others. -/
structure Registry.Lists (r : Registry) (entries : List Entry) : Prop where
  found : ∀ e ∈ entries, ∀ name, lowercase name = lowercase e.index → r.find? name = some e.wanted
  indexes : r.indexes.Perm (entries.map fun e => lowercase e.index)

namespace Registry.Lists

variable {r : Registry} {earlier : List Entry} {e : Entry} {fault : EntryFault}

theorem empty : Registry.empty.Lists [] where
  found := nofun
  indexes := .refl _

theorem size (lists : r.Lists earlier) : r.size = earlier.length := by
  have lengths := lists.indexes.length_eq
  rwa [Registry.indexes, List.length_map, List.length_map] at lengths

/-- An index is found just when an entry before has its small letters. -/
theorem isSome_find?_iff (lists : r.Lists earlier) :
    (r.find? e.index).isSome = true ↔ e.Breaks earlier .duplicateIndex := by
  rw [Option.isSome_iff_ne_none, ne_eq, find?_eq_none_iff, not_not, lists.indexes.mem_iff,
    List.mem_map]
  rfl

/-- An entry that keeps the rules is one more on the list. -/
theorem insert (lists : r.Lists earlier) (keeps : e.Keeps earlier) :
    (r.insert e.index ⟨e.column.getD "", e.wantedType⟩).Lists (earlier ++ [e]) where
  found := by
    intro listed member name same
    rw [find?_insert, Entry.orColumn_eq_wanted]
    rcases List.mem_append.mp member with member | member
    · -- an entry before it has other small letters
      rw [if_neg]
      · exact lists.found listed member name same
      · intro isNew
        exact keeps .duplicateIndex ⟨listed, member, same.symm.trans isNew⟩
    · cases List.mem_singleton.mp member
      rw [if_pos same]
  indexes := by
    have new : lowercase e.index ∉ r.indexes := by
      rw [lists.indexes.mem_iff, List.mem_map]
      exact keeps .duplicateIndex
    rw [List.map_append, List.map_singleton]
    exact ((indexes_insert_perm new _).trans (lists.indexes.cons _)).trans
      (List.perm_append_singleton _ _).symm

end Registry.Lists

/-! ## Configurations -/

/-- Each of the entries keeps the rules, where the entries `earlier` stand before them all. -/
def Entry.AllKeep (earlier entries : List Entry) : Prop :=
  ∀ before e after, entries = before ++ e :: after → e.Keeps (earlier ++ before)

/-- Each entry keeps the rules, where it stands. -/
def Config.Valid (c : Config) : Prop :=
  Entry.AllKeep [] c.entries

theorem Entry.allKeep_cons {earlier rest : List Entry} {e : Entry} :
    AllKeep earlier (e :: rest) ↔ e.Keeps earlier ∧ AllKeep (earlier ++ [e]) rest := by
  constructor
  · intro all
    constructor
    · have first := all [] e rest rfl
      rwa [List.append_nil] at first
    · intro before other after split
      rw [List.append_assoc]
      exact all (e :: before) other after (congrArg (e :: ·) split)
  · rintro ⟨first, all⟩ before other after split
    cases before with
    | nil =>
        cases split
        rwa [List.append_nil]
    | cons head before =>
        cases split
        have kept := all before other after rfl
        rwa [List.append_assoc] at kept

namespace Config

variable {r : Registry} {earlier entries : List Entry} {e : Entry} {fault : EntryFault}

/-! ### One entry -/

theorem buildOnto_of_keeps (lists : r.Lists earlier) (keeps : e.Keeps earlier)
    (rest : List Entry) :
    buildOnto r (e :: rest) =
      buildOnto (r.insert e.index ⟨e.column.getD "", e.wantedType⟩) rest := by
  rw [buildOnto, if_neg (mt lists.isSome_find?_iff.mp (keeps _)), Entry.field_of_keeps keeps]

theorem buildOnto_of_breaksFirst (lists : r.Lists earlier)
    (breaksFirst : e.BreaksFirst earlier fault) (rest : List Entry) :
    buildOnto r (e :: rest) = .error ⟨e.index, fault⟩ := by
  rw [buildOnto]
  by_cases repeated : fault = .duplicateIndex
  · subst repeated
    rw [if_pos (lists.isSome_find?_iff.mpr breaksFirst.breaks)]
  · have new : ¬ e.Breaks earlier .duplicateIndex := by
      apply breaksFirst.not_breaks
      cases fault with
      | duplicateIndex => exact absurd rfl repeated
      | emptyIndex | textOptions | languageAlone | emptyLanguage => decide
    rw [if_neg (mt lists.isSome_find?_iff.mp new), Entry.field_of_breaksFirst breaksFirst repeated]

/-! ### All entries -/

/-- Entries that keep the rules are listed after those listed already, and what comes behind them is
built onto the registry that lists them all. -/
theorem exists_lists_of_allKeep (lists : r.Lists earlier) (all : Entry.AllKeep earlier entries) :
    ∃ r' : Registry, r'.Lists (earlier ++ entries) ∧
      ∀ rest, buildOnto r (entries ++ rest) = buildOnto r' rest := by
  induction entries generalizing r earlier with
  | nil => exact ⟨r, by rwa [List.append_nil], fun rest => rfl⟩
  | cons e entries ih =>
      obtain ⟨keeps, all⟩ := Entry.allKeep_cons.mp all
      obtain ⟨r', listed, builds⟩ := ih (lists.insert keeps) all
      rw [List.append_assoc] at listed
      exact ⟨r', listed, fun rest => (buildOnto_of_keeps lists keeps _).trans (builds rest)⟩

/-- Either all entries keep the rules, or there is a first that does not, and a first rule that it
breaks. -/
theorem allKeep_or_exists_breaksFirst (earlier entries : List Entry) :
    Entry.AllKeep earlier entries ∨ ∃ before e after fault, entries = before ++ e :: after ∧
      Entry.AllKeep earlier before ∧ e.BreaksFirst (earlier ++ before) fault := by
  induction entries generalizing earlier with
  | nil =>
      left
      intro before e after split
      simp at split
  | cons e entries ih =>
      rcases e.keeps_or_breaksFirst earlier with keeps | ⟨fault, breaksFirst⟩
      · rcases ih (earlier ++ [e]) with all | ⟨before, other, after, fault, rfl, all, breaksFirst⟩
        · exact .inl (Entry.allKeep_cons.mpr ⟨keeps, all⟩)
        · rw [List.append_assoc] at breaksFirst
          exact .inr ⟨e :: before, other, after, fault, rfl, Entry.allKeep_cons.mpr ⟨keeps, all⟩,
            breaksFirst⟩
      · refine .inr ⟨[], e, entries, fault, rfl, ?_, ?_⟩
        · intro before other after split
          simp at split
        · rwa [List.append_nil]

theorem exists_build_of_valid {c : Config} (valid : c.Valid) :
    ∃ r, c.build = .ok r ∧ r.Lists c.entries := by
  obtain ⟨r, lists, builds⟩ := exists_lists_of_allKeep .empty valid
  have built := builds []
  rw [List.append_nil] at built
  exact ⟨r, built, lists⟩

theorem build_of_breaksFirst {c : Config} {before after : List Entry}
    (split : c.entries = before ++ e :: after) (valid : Config.Valid ⟨before⟩)
    (breaksFirst : e.BreaksFirst before fault) : c.build = .error ⟨e.index, fault⟩ := by
  obtain ⟨r, lists, builds⟩ := exists_lists_of_allKeep .empty valid
  unfold build
  rw [split, builds, buildOnto_of_breaksFirst lists breaksFirst]

/-- **Building.** A registry is built from a configuration just when each entry keeps the rules where
it stands. The registry has one field for each entry, of the type that the entry asks for, found
under all names with the small letters of its index, and no others. Otherwise the error names the
first entry that breaks a rule, and of the rules that it breaks the first. -/
theorem build_valid (c : Config) :
    ((∃ r, c.build = .ok r) ↔ c.Valid) ∧
    (∀ r, c.build = .ok r → r.Lists c.entries ∧ r.size = c.entries.length) ∧
    (∀ err, c.build = .error err ↔ ∃ before e after, c.entries = before ++ e :: after ∧
      Config.Valid ⟨before⟩ ∧ e.BreaksFirst before err.fault ∧ err.index = e.index) := by
  rcases allKeep_or_exists_breaksFirst [] c.entries with
    valid | ⟨before, e, after, fault, split, valid, breaksFirst⟩
  · obtain ⟨r, built, lists⟩ := exists_build_of_valid valid
    refine ⟨iff_of_true ⟨r, built⟩ valid, ?_, ?_⟩
    · intro other again
      cases built.symm.trans again
      exact ⟨lists, lists.size⟩
    · intro err
      rw [built]
      refine iff_of_false nofun ?_
      rintro ⟨before, e, after, split, -, breaksFirst, -⟩
      exact valid before e after split _ breaksFirst.breaks
  · have failed := build_of_breaksFirst split valid breaksFirst
    refine ⟨?_, ?_, ?_⟩
    · rw [failed]
      refine iff_of_false nofun ?_
      intro all
      exact all before e after split _ breaksFirst.breaks
    · intro r built
      cases failed.symm.trans built
    · intro err
      constructor
      · intro same
        cases failed.symm.trans same
        exact ⟨before, e, after, split, valid, breaksFirst, rfl⟩
      · rintro ⟨before', e', after', split', valid', breaksFirst', named⟩
        rw [build_of_breaksFirst split' valid' breaksFirst', ← named]

/-- A text field with an empty column, and a number field with one of its own. -/
def shelf : Config where
  entries := [
    { index := "Title", kind := .text, column := some "", likeOps := true, fullText := true,
      language := some "english" },
    { index := "cost", kind := .number, column := some "price" }]

/-- An entry that breaks each rule but those about empty texts, after an index with its letters. -/
def repeatedCost : Entry where
  index := "COST"
  kind := .boolean
  exact := true
  language := some "english"

theorem build_valid_of_shelf :
    (∃ r, shelf.build = .ok r ∧ r.size = 2 ∧
      r.find? "TITLE" = some ⟨"title", .text ⟨.like, some "english"⟩⟩ ∧
      r.find? "Cost" = some ⟨"price", .number⟩) ∧
    Config.build ⟨shelf.entries ++ [repeatedCost, { index := "", kind := .text }]⟩ =
      .error ⟨"COST", .duplicateIndex⟩ := by
  have valid : shelf.Valid := by
    refine Entry.allKeep_cons.mpr ⟨?_, Entry.allKeep_cons.mpr ⟨?_, ?_⟩⟩
    · intro fault
      cases fault <;> decide +kernel
    · intro fault
      cases fault <;> decide +kernel
    · intro before e after split
      simp at split
  have repeated : repeatedCost.BreaksFirst shelf.entries .duplicateIndex :=
    ⟨by decide +kernel, fun other _ => Nat.zero_le other.place⟩
  constructor
  · obtain ⟨r, built⟩ := (build_valid shelf).1.mpr valid
    obtain ⟨lists, size⟩ := (build_valid shelf).2.1 r built
    refine ⟨r, built, size, ?_, ?_⟩
    · exact lists.found _ (List.mem_cons_self) _ (by decide +kernel)
    · exact lists.found _ (List.mem_cons_of_mem _ List.mem_cons_self) _ (by decide +kernel)
  · exact ((build_valid _).2.2 ⟨"COST", .duplicateIndex⟩).mpr
      ⟨shelf.entries, repeatedCost, [{ index := "", kind := .text }], rfl, valid, repeated, rfl⟩

end Config

end ContextQuery
