import ContextQuery.Proofs.Field.Answers
import ContextQuery.Proofs.Field.Numeral
import ContextQuery.Proofs.Sql.Outside

/-!
# Conditions of fields are contained

Each type of field writes the term of a clause into its condition in its own way: a number as it
stands, a timestamp or a UUID in canonical form between quotes, a text with its quotes doubled, as a
pattern or as it is. Whichever it is, the condition is `Contained` if the column is
(`Field.contained_condition`).
-/

namespace ContextQuery

open Sql

/-! ## Numbers -/

namespace Numeral

theorem plain_of_digits {cs : List Char} (digits : ∀ c ∈ cs, c.isDigit = true) : Plain cs := by
  refine Plain.of_forall fun c member => ?_
  have digit := digits c member
  refine ⟨?_, ?_⟩
  · simp [isStatementChar, Char.isAlphanum, digit]
  · rintro rfl
    revert digit
    decide

/-- A sign may stand before plain text that begins with none. -/
theorem Sign.plain_append {sign cs : List Char} (signed : Sign sign) (plain : Plain cs)
    (nonempty : cs ≠ []) (head : cs.head? ≠ some '-') : Plain (sign ++ cs) := by
  cases signed with
  | none => exact plain
  | plus => exact (Plain.of_all rfl).append plain
  | minus => exact plain.hyphen nonempty head

theorem Magnitude.plain {cs : List Char} (measured : Magnitude cs) : Plain cs := by
  have point : Plain ['.'] := Plain.of_all rfl
  cases measured with
  | whole digits => exact plain_of_digits digits.digits
  | pointed digits fraction =>
      exact (plain_of_digits digits.digits).append (point.append (plain_of_digits fraction))
  | fraction digits => exact point.append (plain_of_digits digits.digits)

theorem Exponent.plain {cs : List Char} (raised : Exponent cs) : Plain cs := by
  cases raised with
  | none => exact plain_of_digits nofun
  | @power letter sign ds isLetter signed digits =>
      have isPlain : Plain [letter] := by
        rcases isLetter with rfl | rfl
        · exact Plain.of_all rfl
        · exact Plain.of_all rfl
      have head := digits.head?_ne [] (c := '-') rfl
      rw [List.append_nil] at head
      exact isPlain.append (signed.plain_append (plain_of_digits digits.digits) digits.nonempty head)

/-- No part of a number is a quote, opens a comment or ends a statement. -/
theorem Spells.plain {cs : List Char} (spells : Spells cs) : Plain cs := by
  cases spells with
  | @number sign magnitude exponent signed measured raised =>
      have nonempty : magnitude ++ exponent ≠ [] := fun empty =>
        measured.ne_nil (List.append_eq_nil_iff.mp empty).1
      exact signed.plain_append (measured.plain.append raised.plain) nonempty
        (measured.head?_ne rfl (by decide))

/-- A number may go into a statement as it stands. -/
theorem plain_of_isNumeral {s : String} (numeral : isNumeral s = true) : Plain s.toList :=
  (isNumeral_iff.mp numeral).plain

end Numeral

/-! ## Canonical texts -/

/-- A text without quotes is the body of a literal as it is. -/
theorem Sql.literalBody_of_not_mem {cs : List Char} (plain : '\'' ∉ cs) : literalBody cs = cs := by
  induction cs with
  | nil => rfl
  | cons c cs ih =>
      rw [List.mem_cons, not_or] at plain
      rw [literalBody_cons (Ne.symm plain.1), ih plain.2]

namespace Uuid

theorem forall_of_isGroups {sizes : List Nat} {cs : List Char} (groups : isGroups sizes cs = true) :
    ∀ c ∈ cs, isHexDigit c = true ∨ c = '-' := by
  induction sizes generalizing cs with
  | nil => simp_all [isGroups]
  | cons n sizes ih =>
      cases sizes with
      | nil =>
          rw [isGroups, Bool.and_eq_true, List.all_eq_true] at groups
          exact fun c member => .inl (groups.2 c member)
      | cons m sizes =>
          rw [isGroups, Bool.and_eq_true, Bool.and_eq_true, List.all_eq_true] at groups
          · intro c member
            rw [← List.take_append_drop n cs, List.mem_append] at member
            rcases member with member | member
            · exact .inl (groups.1.2 c member)
            · have after := groups.2
              split at after
              · next rest hyphen =>
                rw [hyphen, List.mem_cons] at member
                rcases member with rfl | member
                · exact .inr rfl
                · exact ih after c member
              · exact absurd after (by decide)
          · simp

theorem toLower_ne_quote {c : Char} (plain : c ≠ '\'') : c.toLower ≠ '\'' := by
  intro equal
  unfold Char.toLower at equal
  split at equal
  · -- a capital becomes a small letter, whose code is larger than that of the quote
    next capital =>
    have value : (c.val + 32).toNat = 39 := congrArg (fun d => d.val.toNat) equal
    have low : 65 ≤ c.val.toNat := UInt32.le_iff_toNat_le.mp capital.1
    have high : c.val.toNat ≤ 90 := UInt32.le_iff_toNat_le.mp capital.2
    rw [UInt32.toNat_add] at value
    have small : (32 : UInt32).toNat = 32 := rfl
    omega
  · exact plain equal

/-- The canonical text of a UUID has no quotes. -/
theorem quote_not_mem_canonical {s t : String} (canonical : canonical? s = some t) :
    '\'' ∉ t.toList := by
  unfold canonical? at canonical
  split at canonical
  · next uuid =>
    cases canonical
    rw [Text.toList_foldCase, List.mem_map]
    rintro ⟨c, member, quote⟩
    -- a quote would have been there before the letters were made small
    refine toLower_ne_quote ?_ quote
    rintro rfl
    have admitted := forall_of_isGroups uuid '\'' member
    revert admitted
    decide
  · cases canonical

end Uuid

namespace Timestamp

theorem quote_not_mem_padded (width n : Nat) : '\'' ∉ padded width n := by
  induction width generalizing n with
  | zero => simp [padded]
  | succ width ih =>
      have digit : ∀ d < 10, '\'' ≠ Char.ofNat (48 + d) := by decide
      rw [padded, List.mem_append, List.mem_singleton, not_or]
      exact ⟨ih (n / 10), digit (n % 10) (Nat.mod_lt n (by decide))⟩

theorem quote_not_mem_fractionText (nanosecond : Nat) : '\'' ∉ fractionText nanosecond := by
  unfold fractionText
  split
  · simp
  · split
    · simp [quote_not_mem_padded]
    · split <;> simp [quote_not_mem_padded]

/-- The canonical text of a timestamp has no quotes. -/
theorem quote_not_mem_text (m : Moment) : '\'' ∉ m.text.toList := by
  have date (d : Date) : '\'' ∉ dateText d := by
    simp [dateText, quote_not_mem_padded]
  cases m with
  | day d => simpa [Moment.text] using date d
  | time d t =>
      have time : '\'' ∉ timeText t := by
        unfold timeText
        split
        · simp [quote_not_mem_padded]
        · simp [quote_not_mem_padded, quote_not_mem_fractionText]
      simp [Moment.text, date d, time]

end Timestamp

namespace Mask

/-- A symbol in the value of a `LIKE` pattern. -/
def Symbol.pattern : Symbol → List Char
  | .char c => if c = '%' || c = '_' || c = '\\' then ['\\', c] else [c]
  | .anyChar => ['_']
  | .anyText => ['%']

/-- A pattern is written as its value, with the quotes doubled. -/
theorem Symbol.like_eq_literalBody (s : Symbol) : s.like = literalBody s.pattern := by
  cases s with
  | char c =>
      simp only [Symbol.like, Symbol.pattern]
      by_cases special : (c = '%' || c = '_' || c = '\\') = true
      · rw [if_pos special, if_pos special]
        have plain : '\'' ≠ c := by
          rintro rfl
          exact absurd special (by decide)
        exact (Sql.literalBody_of_not_mem (by simp [plain])).symm
      · rw [if_neg special, if_neg special]
        simp [literalBody]
  | anyChar => rfl
  | anyText => rfl

/-- The body of a pattern is that of a literal, whatever its symbols. -/
theorem flatMap_like (ss : List Symbol) :
    ss.flatMap Symbol.like = literalBody (ss.flatMap Symbol.pattern) := by
  have written : Symbol.like = fun s => literalBody s.pattern :=
    funext Symbol.like_eq_literalBody
  simp [written, literalBody, List.flatMap_assoc]

/-- The body of a literal that a term is compared with is that of some value. -/
theorem exists_value_of_exact {term body : String} (read : exact term = .ok body) :
    ∃ value, body.toList = literalBody value := by
  obtain ⟨value, _, rfl⟩ := bind_pure_eq_ok.mp read
  exact ⟨value, by simp⟩

/-- So is the body of a pattern. -/
theorem exists_value_of_like {term : String} {pattern : LikePattern}
    (read : like term = .ok pattern) : ∃ value, pattern.body.toList = literalBody value := by
  obtain ⟨symbols, _, rfl⟩ := bind_pure_eq_ok.mp read
  refine ⟨symbols.flatMap Symbol.pattern, ?_⟩
  show (String.ofList (symbols.flatMap Symbol.like)).toList = _
  rw [String.toList_ofList, flatMap_like]

end Mask

/-! ## Operators and literals -/

/-- The characters of a column that is written without quotes. -/
def isColumnChar (c : Char) : Bool :=
  c.isAlphanum || c == '_' || c == '.'

/-- A column of such characters may go into a statement as it stands. -/
theorem contained_column {column : String} (plain : column.toList.all isColumnChar = true) :
    Contained column.toList := by
  refine Contained.of_all (List.all_eq_true.mpr fun c member => ?_)
  have admitted := List.all_eq_true.mp plain c member
  simp only [isColumnChar, Bool.or_eq_true, beq_iff_eq] at admitted
  rw [Bool.and_eq_true, bne_iff_ne]
  rcases admitted with (letter | rfl) | rfl
  · refine ⟨by simp [isStatementChar, letter], ?_⟩
    rintro rfl
    revert letter
    decide
  · decide
  · decide

/-- Words and signs that may stand right before a literal. -/
structure IsLead (text : String) : Prop where
  inhabited : text.toList ≠ []
  admitted : text.toList.all (fun c => isStatementChar c && c != '-') = true

theorem IsLead.contained {text : String} (lead : IsLead text) : Contained text.toList :=
  Contained.of_all lead.admitted

theorem IsLead.quoted {text : String} (lead : IsLead text) {body : String} {value : List Char}
    (written : body.toList = literalBody value) :
    Contained (text ++ Sql.quoted body).toList := by
  have literal := Contained.literal lead.inhabited lead.admitted value
  rw [← written] at literal
  simpa [Sql.quoted] using literal

theorem Clause.isLead_of_equalityOperator {c : Clause} {operator : String}
    (supported : c.equalityOperator = .ok operator) : IsLead operator := by
  unfold Clause.equalityOperator at supported
  split at supported
  · cases supported
    exact ⟨by decide, rfl⟩
  · split at supported
    · cases supported
      exact ⟨by decide, rfl⟩
    · cases supported

theorem Clause.isLead_of_orderOperator {c : Clause} {operator : String}
    (supported : c.orderOperator = .ok operator) : IsLead operator := by
  unfold Clause.orderOperator at supported
  split at supported
  · next ordered =>
    cases supported
    simp only [List.contains_cons, List.contains_nil, Bool.or_false, Bool.or_eq_true,
      beq_iff_eq] at ordered
    rcases ordered with equal | equal | equal | equal <;>
      (rw [equal]; exact ⟨by decide, rfl⟩)
  · exact Clause.isLead_of_equalityOperator supported

/-- A literal may stand after any operator. -/
def IsLiteral (literal : String) : Prop :=
  ∀ operator, IsLead operator → Contained (operator ++ literal).toList

theorem isLiteral_of_plain {literal : String} (plain : Plain literal.toList) :
    IsLiteral literal := by
  intro operator lead
  rw [String.toList_append]
  exact lead.contained.append (Contained.of_plain plain)

theorem isLiteral_quoted {body : String} (plain : '\'' ∉ body.toList) :
    IsLiteral (Sql.quoted body) :=
  fun _ lead => lead.quoted (literalBody_of_not_mem plain).symm

namespace Field

theorem isLiteral_of_booleanLiteral {c : Clause} {literal : String}
    (read : booleanLiteral c = .ok literal) : IsLiteral literal := by
  unfold booleanLiteral at read
  split at read
  · cases read
    exact isLiteral_of_plain (Plain.of_all rfl)
  · split at read
    · cases read
      exact isLiteral_of_plain (Plain.of_all rfl)
    · cases read

theorem isLiteral_of_numberLiteral {c : Clause} {literal : String}
    (read : numberLiteral c = .ok literal) : IsLiteral literal := by
  unfold numberLiteral at read
  split at read
  · next numeral =>
    cases read
    exact isLiteral_of_plain (Numeral.plain_of_isNumeral numeral)
  · cases read

theorem isLiteral_of_uuidLiteral {c : Clause} {literal : String}
    (read : uuidLiteral c = .ok literal) : IsLiteral literal := by
  unfold uuidLiteral at read
  split at read
  · next canonical =>
    cases read
    exact isLiteral_quoted (Uuid.quote_not_mem_canonical canonical)
  · cases read

theorem isLiteral_of_timestampLiteral {c : Clause} {literal : String}
    (read : timestampLiteral c = .ok literal) : IsLiteral literal := by
  unfold timestampLiteral at read
  split at read
  · next canonical =>
    cases read
    obtain ⟨moment, _, rfl⟩ := bind_pure_eq_ok.mp canonical
    exact isLiteral_quoted (Timestamp.quote_not_mem_text moment)
  · cases read

/-- A null test is made of the column and fixed words. -/
theorem contained_nullCondition {c : Clause} {column sql : String} {nullTest : Bool}
    (contained : Contained column.toList) (asked : c.nullCondition? column nullTest = some sql) :
    Contained sql.toList := by
  unfold Clause.nullCondition? at asked
  split at asked
  · cases asked
  · split at asked
    · cases asked
      rw [String.toList_append]
      exact contained.append (Contained.of_all rfl)
    · split at asked
      · cases asked
        rw [String.toList_append]
        exact contained.append (Contained.of_all rfl)
      · cases asked

/-- A comparison is contained if its column is, and its literal may stand after any operator. -/
theorem contained_compare {c : Clause} {column sql : String}
    {literal? operator? : Except ClauseError String} (contained : Contained column.toList)
    (literals : ∀ literal, literal? = .ok literal → IsLiteral literal)
    (operators : ∀ operator, operator? = .ok operator → IsLead operator)
    (compared : compare column c literal? operator? = .ok (some sql)) : Contained sql.toList := by
  unfold compare at compared
  split at compared
  · next asked =>
    cases compared
    exact contained_nullCondition contained asked
  · obtain ⟨literal, read, compared⟩ := bind_eq_ok.mp compared
    obtain ⟨operator, supported, written⟩ := bind_pure_eq_ok.mp compared
    cases written
    rw [String.append_assoc, String.toList_append]
    exact contained.append (literals literal read operator (operators operator supported))

theorem exists_value_of_languageBody {search : TextSearch} {language : String}
    (named : search.languageBody? = some language) :
    ∃ value, language.toList = literalBody value := by
  obtain ⟨name, _, rfl⟩ := Option.map_eq_some_iff.mp named
  exact ⟨name.toList, by simp⟩

theorem contained_fullTextFunction {base function : String}
    (supported : fullTextFunction? base = some function) : Contained function.toList := by
  unfold fullTextFunction? at supported
  split at supported
  · cases supported
    exact Contained.of_all rfl
  · split at supported
    · cases supported
      exact Contained.of_all rfl
    · cases supported

theorem exists_value_of_exactBody {c : Clause} {body : String} (read : c.exactBody = .ok body) :
    ∃ value, body.toList = literalBody value :=
  Mask.exists_value_of_exact (Clause.exactBody_eq_ok_iff_exact.mp read)

theorem exists_value_of_likePattern {c : Clause} {pattern : Mask.LikePattern}
    (read : c.likePattern = .ok pattern) : ∃ value, pattern.body.toList = literalBody value :=
  Mask.exists_value_of_like (Clause.likePattern_eq_ok_iff_like.mp read)

/-- In a full-text search the term stands in a literal, and so does the language. -/
theorem contained_fullTextCondition {column sql : String} {search : TextSearch} {c : Clause}
    {condition : Except ClauseError String} (contained : Contained column.toList)
    (searched : fullTextCondition? column search c = some condition)
    (written : condition = .ok sql) : Contained sql.toList := by
  unfold fullTextCondition? at searched
  obtain ⟨language, named, searched⟩ := Option.bind_eq_some_iff.mp searched
  obtain ⟨function, supported, searched⟩ := Option.bind_eq_some_iff.mp searched
  cases searched
  obtain ⟨body, read, rfl⟩ := bind_pure_eq_ok.mp written
  obtain ⟨name, language⟩ := exists_value_of_languageBody named
  obtain ⟨value, body⟩ := exists_value_of_exactBody read
  have vector : IsLead "to_tsvector(" := ⟨by decide, rfl⟩
  have query : IsLead "(" := ⟨by decide, rfl⟩
  have comma : IsLead ", " := ⟨by decide, rfl⟩
  have matching : Contained ") @@ ".toList := Contained.of_all rfl
  have close : Contained ")".toList := Contained.of_all rfl
  have document := (vector.quoted language).append (comma.contained.append contained)
  have words := (query.quoted language).append ((comma.quoted body).append close)
  have joined := document.append
    (matching.append ((contained_fullTextFunction supported).append words))
  simpa only [String.toList_append, List.append_assoc] using joined

/-- In a pattern condition the term stands in a literal. -/
theorem contained_likeCondition {column sql : String} {search : TextSearch} {c : Clause}
    (contained : Contained column.toList)
    (matched : likeCondition? column search c = .ok (some sql)) : Contained sql.toList := by
  unfold likeCondition? at matched
  split at matched
  · obtain ⟨pattern, read, matched⟩ := bind_eq_ok.mp matched
    split at matched
    · rw [pure_eq_ok] at matched
      cases matched
      obtain ⟨value, body⟩ := exists_value_of_likePattern read
      rw [String.append_assoc, String.toList_append]
      refine contained.append ?_
      split
      · exact IsLead.quoted ⟨by decide, rfl⟩ body
      · exact IsLead.quoted ⟨by decide, rfl⟩ body
    · rw [pure_eq_ok] at matched
      cases matched
  · cases matched

/-- Whichever way a text field answers, the term stands in a literal. -/
theorem contained_textCondition {column sql : String} {search : TextSearch} {c : Clause}
    (contained : Contained column.toList)
    (said : textCondition column search c = .ok (some sql)) : Contained sql.toList := by
  cases textCondition_eq_ok_iff.mp said with
  | nullTest exact tests => exact contained_nullCondition contained tests
  | fullText noTest searches => exact contained_fullTextCondition contained searches rfl
  | pattern exact noTest noSearch fits => exact contained_likeCondition contained fits
  | comparison exact noTest noSearch noPattern operates read =>
      obtain ⟨value, written⟩ := exists_value_of_exactBody read
      have lead := Clause.isLead_of_equalityOperator operates
      have space : IsLead " " := ⟨by decide, rfl⟩
      have compared := space.contained.append (lead.contained.append (space.quoted written))
      simpa only [String.toList_append, List.append_assoc] using contained.append compared

/-- The condition of a clause lets nothing of its term out of a literal but a number. -/
theorem contained_condition {f : Field} {c : Clause} {sql : String}
    (column : f.column.toList.all isColumnChar = true)
    (said : f.condition c = .ok (some sql)) : Contained sql.toList := by
  have contained := contained_column column
  unfold condition at said
  split at said
  · cases said
  · exact contained_compare contained (fun _ => isLiteral_of_booleanLiteral)
      (fun _ => Clause.isLead_of_equalityOperator) said
  · exact contained_compare contained (fun _ => isLiteral_of_numberLiteral)
      (fun _ => Clause.isLead_of_orderOperator) said
  · exact contained_compare contained (fun _ => isLiteral_of_uuidLiteral)
      (fun _ => Clause.isLead_of_equalityOperator) said
  · exact contained_compare contained (fun _ => isLiteral_of_timestampLiteral)
      (fun _ => Clause.isLead_of_orderOperator) said
  · exact contained_textCondition contained said

end Field

end ContextQuery
