import ContextQuery.Proofs.Field.Answers
import ContextQuery.Proofs.Field.Numeral
import ContextQuery.Proofs.Field.Uuid

/-!
# Plain values

Booleans, numbers and UUIDs are compared with one value, which the term has to spell in full. Each
of these types has its texts and its relations; that they are met is checked in this order. What is
accepted goes into the condition in a form that is accepted again and comes to the same condition
(`Field.condition_plain`).
-/

namespace ContextQuery

/-! ## Texts of values -/

/-- The characters are those of the word, each in either case. -/
def SpellsWord (word : String) (cs : List Char) : Prop :=
  List.Forall₂ (fun c d => c = d ∨ c = d.toUpper) cs word.toList

/-- The types that compare with one value. -/
inductive PlainType where
  | boolean
  | number
  | uuid
  deriving DecidableEq, Repr

namespace PlainType

/-- The type of a field. -/
def fieldType : PlainType → FieldType
  | .boolean => .boolean
  | .number => .number
  | .uuid => .uuid

/-- The texts that spell a value of the type. -/
def Spells : PlainType → List Char → Prop
  | .boolean, cs => SpellsWord "true" cs ∨ SpellsWord "false" cs
  | .number, cs => Numeral.Spells cs
  | .uuid, cs => Uuid.Hyphenated cs

/-- The fault of a text that spells none. -/
def fault : PlainType → ClauseFault
  | .boolean => .badBoolean
  | .number => .badNumeric
  | .uuid => .badUuid

/-- A value as a condition has it: a UUID between quotes, the others without. -/
def literal : PlainType → String → String
  | .uuid, value => Sql.quoted value
  | _, value => value

/-- The relations of the type, with their SQL operators. -/
inductive Compares : PlainType → String → String → Prop where
  | equal {t : PlainType} : Compares t "=" "="
  | exact {t : PlainType} : Compares t "==" "="
  | different {t : PlainType} : Compares t "<>" "<>"
  | order {base : String} (ordered : base ∈ ["<", ">", "<=", ">="]) : Compares .number base base

end PlainType

/-! ## Words -/

/-- A word is spelled in any case, and its small letters are what all spellings share. -/
theorem spellsWord_iff {word : String} (small : word.toList.all Char.isLower = true) {s : String} :
    SpellsWord word s.toList ↔ Text.foldCase s = word := by
  rw [← String.toList_inj, Text.toList_foldCase, SpellsWord]
  generalize word.toList = ds at small
  induction s.toList generalizing ds with
  | nil => cases ds <;> simp
  | cons c cs ih =>
      cases ds with
      | nil => simp
      | cons d ds =>
          rw [List.all_cons, Bool.and_eq_true] at small
          obtain ⟨first, small⟩ := small
          rw [List.forall₂_cons, List.map_cons, List.cons.injEq, ih ds small,
            Text.toLower_eq_iff first]

/-! ## Fields -/

namespace PlainType

variable {t : PlainType} {c : Clause}

/-- What the type reads a term as. -/
def read : PlainType → Clause → Except ClauseError String
  | .boolean, c => Field.booleanLiteral c
  | .number, c => Field.numberLiteral c
  | .uuid, c => Field.uuidLiteral c

/-- What the type takes a relation for. -/
def operator : PlainType → Clause → Except ClauseError String
  | .number, c => c.orderOperator
  | _, c => c.equalityOperator

/-! ### Relations -/

/-- A relation of the type is taken for its operator. -/
theorem operator_of_compares {op : String} (compares : t.Compares c.relation.base op) :
    t.operator c = .ok op := by
  obtain ⟨index, ⟨base, modifiers⟩, term⟩ := c
  cases compares with
  | equal | exact | different => cases t <;> rfl
  | order ordered => exact if_pos (List.contains_iff_mem.mpr ordered)

theorem equalityOperator_of_not_compares (other : ∀ op, ¬ t.Compares c.relation.base op) :
    c.equalityOperator = .error (.refused .unsupportedOperator c) := by
  have noEquality : ¬ (c.relation.base == "==" || c.relation.base == "=") = true := by
    rw [Bool.or_eq_true, beq_iff_eq, beq_iff_eq]
    rintro (same | same) <;> rw [same] at other
    · exact other "=" .exact
    · exact other "=" .equal
  have noDifference : ¬ (c.relation.base == "<>") = true := by
    rw [beq_iff_eq]
    intro same
    rw [same] at other
    exact other "<>" .different
  rw [Clause.equalityOperator, if_neg noEquality, if_neg noDifference]

/-- Any other relation is refused. -/
theorem operator_of_not_compares (other : ∀ op, ¬ t.Compares c.relation.base op) :
    t.operator c = .error (.refused .unsupportedOperator c) := by
  have noEquality := equalityOperator_of_not_compares other
  cases t with
  | boolean | uuid => exact noEquality
  | number =>
      refine (if_neg fun ordered => ?_).trans noEquality
      exact other _ (.order (List.contains_iff_mem.mp ordered))

/-! ### Terms -/

theorem booleanLiteral_eq (c : Clause) : Field.booleanLiteral c =
    if Text.foldCase c.term = "true" then .ok "TRUE"
    else if Text.foldCase c.term = "false" then .ok "FALSE"
    else .error (.refused .badBoolean c) := by
  have isTrue : Text.foldCase "true" = "true" := by decide +kernel
  have isFalse : Text.foldCase "false" = "false" := by decide +kernel
  simp only [Field.booleanLiteral, Text.sameFolded, beq_iff_eq, isTrue, isFalse]

theorem spells_boolean_iff {s : String} :
    PlainType.boolean.Spells s.toList ↔ Text.foldCase s = "true" ∨ Text.foldCase s = "false" :=
  or_congr (spellsWord_iff (by decide)) (spellsWord_iff (by decide))

/-- No value is spelled by nothing, so that an empty term is left to the null tests. -/
theorem not_spells_nil : ¬ t.Spells [] := by
  cases t with
  | boolean =>
      rw [← String.toList_empty, spells_boolean_iff]
      decide +kernel
  | number => exact fun spells => spells.ne_nil rfl
  | uuid => exact fun spells => absurd spells.bytes (by decide)

/-- A word that is read as its capitals in every spelling: these are a spelling of it too. -/
theorem exists_read_of_word {small capitals : String}
    (written : Text.foldCase capitals = small)
    (spells : ∀ d : Clause, Text.foldCase d.term = small → PlainType.boolean.Spells d.term.toList)
    (reads : ∀ d : Clause, Text.foldCase d.term = small → Field.booleanLiteral d = .ok capitals)
    (spelled : Text.foldCase c.term = small) :
    ∃ value, (∀ d : Clause, d.term = c.term ∨ d.term = value →
        PlainType.boolean.read d = .ok (PlainType.boolean.literal value)) ∧
      Text.sameFolded value c.term = true ∧ PlainType.boolean.Spells value.toList := by
  refine ⟨capitals, ?_, beq_iff_eq.mpr (written.trans spelled.symm), ?_⟩
  · rintro d (same | same)
    · exact reads d (same ▸ spelled)
    · exact reads d (same ▸ written)
  · exact spells { c with term := capitals } written

/-- A value has a form that it is written in, which differs in the case of letters at most and is
read as it is. -/
theorem exists_read_of_spells (spells : t.Spells c.term.toList) :
    ∃ value, (∀ d : Clause, d.term = c.term ∨ d.term = value → t.read d = .ok (t.literal value)) ∧
      Text.sameFolded value c.term = true ∧ t.Spells value.toList := by
  cases t with
  | boolean =>
      rcases spells_boolean_iff.mp spells with isTrue | isFalse
      · have written : Text.foldCase "TRUE" = "true" := by decide +kernel
        refine exists_read_of_word written (fun d same => spells_boolean_iff.mpr (.inl same)) ?_
          isTrue
        intro d same
        rw [booleanLiteral_eq, if_pos same]
      · have written : Text.foldCase "FALSE" = "false" := by decide +kernel
        refine exists_read_of_word written (fun d same => spells_boolean_iff.mpr (.inr same)) ?_
          isFalse
        intro d same
        rw [booleanLiteral_eq, same]
        rfl
  | number =>
      refine ⟨c.term, fun d same => ?_, beq_self_eq_true _, spells⟩
      rw [or_self] at same
      rw [read, Field.numberLiteral, same, if_pos (Numeral.isNumeral_iff.mpr spells)]
      rfl
  | uuid =>
      have uuid := Uuid.isUuid_iff.mpr spells
      have small := Uuid.isUuid_foldCase uuid
      have folded := Text.foldCase_foldCase c.term
      refine ⟨Text.foldCase c.term, fun d same => ?_, beq_iff_eq.mpr folded,
        Uuid.isUuid_iff.mp small⟩
      have canonical : Uuid.canonical? d.term = some (Text.foldCase c.term) := by
        rcases same with same | same
        · rw [same, Uuid.canonical?, if_pos uuid]
        · rw [same, Uuid.canonical?, if_pos small, folded]
      rw [read, Field.uuidLiteral, canonical]
      rfl

/-- A text that spells no value is refused with the fault of the type. -/
theorem read_of_not_spells (other : ¬ t.Spells c.term.toList) :
    t.read c = .error (.refused t.fault c) := by
  cases t with
  | boolean =>
      rw [spells_boolean_iff, not_or] at other
      rw [read, booleanLiteral_eq, if_neg other.1, if_neg other.2]
      rfl
  | number => exact if_neg (mt Numeral.isNumeral_iff.mp other)
  | uuid =>
      have none : Uuid.canonical? c.term = none := if_neg (mt Uuid.isUuid_iff.mp other)
      rw [read, Field.uuidLiteral, none]
      rfl

end PlainType

namespace Field

theorem condition_eq_of_nonempty (t : PlainType) (column : String) {c : Clause}
    (nonempty : c.term ≠ "") :
    condition ⟨column, t.fieldType⟩ c = do
      let literal ← t.read c
      let operator ← t.operator c
      return some (column ++ operator ++ literal) := by
  have compared : condition ⟨column, t.fieldType⟩ c =
      compare column c (t.read c) (t.operator c) := by
    cases t <;> rfl
  rw [compared, compare, Clause.nullCondition?_of_ne nonempty]

/-- **Plain values.** A field of one of these types accepts a term just when it spells a value of
the type and the relation is one of the type; where neither holds, it is the term that is refused.
The condition compares the column with the value, which differs from the term in the case of letters
at most, and is a term itself that comes to the same condition. -/
theorem condition_plain (t : PlainType) (column : String) (c : Clause) (nonempty : c.term ≠ "") :
    ((∃ answer, condition ⟨column, t.fieldType⟩ c = .ok answer) ↔
      (∃ op, t.Compares c.relation.base op) ∧ t.Spells c.term.toList) ∧
    (¬ t.Spells c.term.toList →
      condition ⟨column, t.fieldType⟩ c = .error (.refused t.fault c)) ∧
    (t.Spells c.term.toList → (¬ ∃ op, t.Compares c.relation.base op) →
      condition ⟨column, t.fieldType⟩ c = .error (.refused .unsupportedOperator c)) ∧
    ∀ answer, condition ⟨column, t.fieldType⟩ c = .ok answer →
      ∃ op value, t.Compares c.relation.base op ∧
        answer = some (column ++ op ++ t.literal value) ∧
        Text.sameFolded value c.term = true ∧ t.Spells value.toList ∧
        condition ⟨column, t.fieldType⟩ { c with term := value } = .ok answer := by
  rw [condition_eq_of_nonempty t column nonempty]
  by_cases spells : t.Spells c.term.toList
  · obtain ⟨value, reads, folded, again⟩ := PlainType.exists_read_of_spells spells
    rw [reads c (.inl rfl), ok_bind]
    by_cases compares : ∃ op, t.Compares c.relation.base op
    · obtain ⟨op, compares⟩ := compares
      rw [PlainType.operator_of_compares compares, ok_bind]
      refine ⟨iff_of_true ⟨_, rfl⟩ ⟨⟨op, compares⟩, spells⟩, fun other => absurd spells other,
        fun _ other => absurd ⟨op, compares⟩ other, ?_⟩
      rintro answer ⟨⟩
      refine ⟨op, value, compares, rfl, folded, again, ?_⟩
      have written : value ≠ "" := by
        rintro rfl
        exact PlainType.not_spells_nil again
      have compares' : t.Compares ({ c with term := value } : Clause).relation.base op := compares
      rw [condition_eq_of_nonempty t column written, reads _ (.inr rfl), ok_bind,
        PlainType.operator_of_compares compares']
      rfl
    · rw [PlainType.operator_of_not_compares (not_exists.mp compares)]
      exact ⟨iff_of_false nofun fun both => compares both.1, fun other => absurd spells other,
        fun _ _ => rfl, nofun⟩
  · rw [PlainType.read_of_not_spells spells]
    exact ⟨iff_of_false nofun fun both => spells both.2, fun _ => rfl,
      fun isValue => absurd isValue spells, nofun⟩

/-- A UUID with capitals, and a word that is no boolean with a relation that booleans lack. -/
theorem condition_plain_of_capitals :
    condition ⟨"id", .uuid⟩ ⟨"id", ⟨"<>", []⟩, "6736BD11-5073-4D3E-B8B6-7A0B0E2B8A7F"⟩ =
        .ok (some "id<>'6736bd11-5073-4d3e-b8b6-7a0b0e2b8a7f'") ∧
      (∃ op value, PlainType.uuid.Compares "<>" op ∧
        some "id<>'6736bd11-5073-4d3e-b8b6-7a0b0e2b8a7f'" = some ("id" ++ op ++ Sql.quoted value) ∧
        Text.sameFolded value "6736BD11-5073-4D3E-B8B6-7A0B0E2B8A7F" = true ∧
        PlainType.uuid.Spells value.toList ∧
        condition ⟨"id", .uuid⟩ ⟨"id", ⟨"<>", []⟩, value⟩ =
          .ok (some "id<>'6736bd11-5073-4d3e-b8b6-7a0b0e2b8a7f'")) ∧
      condition ⟨"paid", .boolean⟩ ⟨"paid", ⟨">", []⟩, "yes"⟩ =
        .error (.refused .badBoolean ⟨"paid", ⟨">", []⟩, "yes"⟩) := by
  have answered :
      condition ⟨"id", .uuid⟩ ⟨"id", ⟨"<>", []⟩, "6736BD11-5073-4D3E-B8B6-7A0B0E2B8A7F"⟩ =
        .ok (some "id<>'6736bd11-5073-4d3e-b8b6-7a0b0e2b8a7f'") := by decide +kernel
  obtain ⟨-, -, -, literal⟩ := condition_plain .uuid "id"
    ⟨"id", ⟨"<>", []⟩, "6736BD11-5073-4D3E-B8B6-7A0B0E2B8A7F"⟩ (by decide)
  obtain ⟨-, refused, -⟩ :=
    condition_plain .boolean "paid" ⟨"paid", ⟨">", []⟩, "yes"⟩ (by decide)
  refine ⟨answered, literal _ answered, refused ?_⟩
  rw [PlainType.spells_boolean_iff]
  decide +kernel

end Field

end ContextQuery
