import ContextQuery.Field.Uuid
import ContextQuery.Proofs.Text.Case

/-!
# UUIDs by their groups

A UUID is made of groups of digits, of given sizes and with a hyphen between neighbours, and nothing
else is one (`Uuid.isUuid_iff`). Letters of either case are digits, so the small letters of a UUID are
a UUID too (`Uuid.isUuid_foldCase`).
-/

namespace ContextQuery

namespace Uuid

/-- Thirty-six bytes: digits of base sixteen in groups of eight, four, four, four and twelve, with a
hyphen between neighbours. -/
structure Hyphenated (cs : List Char) : Prop where
  bytes : Text.utf8Length cs = 36
  groups : ∃ groups : List (List Char), groups.map List.length = [8, 4, 4, 4, 12] ∧
    (∀ group ∈ groups, ∀ c ∈ group, isHexDigit c = true) ∧ ['-'].intercalate groups = cs

/-! ## Digits -/

theorem isHexDigit_toLower (c : Char) : isHexDigit c.toLower = isHexDigit c :=
  Text.apply_toLower (by decide) c

/-! ## Groups -/

theorem isGroups_cons {n m : Nat} {sizes : List Nat} {cs : List Char} :
    isGroups (n :: m :: sizes) cs = true ↔
      ∃ group rest, group.length = n ∧ (∀ c ∈ group, isHexDigit c = true) ∧
        isGroups (m :: sizes) rest = true ∧ cs = group ++ '-' :: rest := by
  have step : isGroups (n :: m :: sizes) cs = true ↔ (cs.take n).length = n ∧
      (∀ c ∈ cs.take n, isHexDigit c = true) ∧
      ∃ rest, cs.drop n = '-' :: rest ∧ isGroups (m :: sizes) rest = true := by
    rw [isGroups, Bool.and_eq_true, Bool.and_eq_true, beq_iff_eq, List.all_eq_true, and_assoc]
    · refine and_congr_right fun _ => and_congr_right fun _ => ?_
      split
      · next rest hyphen => simp [hyphen]
      · next other =>
        refine iff_of_false (by decide) ?_
        rintro ⟨rest, hyphen, -⟩
        exact other rest hyphen
    · simp
  rw [step]
  constructor
  · rintro ⟨length, digits, rest, hyphen, groups⟩
    exact ⟨cs.take n, rest, length, digits, groups, by rw [← hyphen, List.take_append_drop]⟩
  · rintro ⟨group, rest, rfl, digits, groups, rfl⟩
    rw [List.take_left, List.drop_left]
    exact ⟨rfl, digits, rest, rfl, groups⟩

/-- Groups of these sizes are recognised exactly where hyphens join them. -/
theorem isGroups_iff {sizes : List Nat} {cs : List Char} :
    isGroups sizes cs = true ↔ ∃ groups : List (List Char), groups.map List.length = sizes ∧
      (∀ group ∈ groups, ∀ c ∈ group, isHexDigit c = true) ∧ ['-'].intercalate groups = cs := by
  induction sizes generalizing cs with
  | nil =>
      rw [isGroups, List.isEmpty_iff]
      constructor
      · rintro rfl
        exact ⟨[], rfl, nofun, rfl⟩
      · rintro ⟨groups, none, -, rfl⟩
        rw [List.map_eq_nil_iff.mp none]
        rfl
  | cons n sizes ih =>
      -- after the last group stands no hyphen
      cases sizes with
      | nil =>
          rw [isGroups, Bool.and_eq_true, beq_iff_eq, List.all_eq_true]
          constructor
          · rintro ⟨length, digits⟩
            exact ⟨[cs], by simp [length], by simpa using digits, by simp⟩
          · rintro ⟨groups, lengths, digits, rfl⟩
            obtain ⟨group, none, rfl, length, nil⟩ := List.map_eq_cons_iff.mp lengths
            cases List.map_eq_nil_iff.mp nil
            exact ⟨by simpa using length, by simpa using digits⟩
      | cons m sizes =>
          rw [isGroups_cons]
          constructor
          · rintro ⟨group, rest, length, digits, read, rfl⟩
            obtain ⟨groups, lengths, others, rfl⟩ := ih.mp read
            obtain ⟨next, more, rfl, -, -⟩ := List.map_eq_cons_iff.mp lengths
            refine ⟨group :: next :: more, ?_, List.forall_mem_cons.mpr ⟨digits, others⟩, ?_⟩
            · rw [List.map_cons, length, lengths]
            · rw [List.intercalate_cons_cons, List.append_assoc]
              rfl
          · rintro ⟨groups, lengths, digits, rfl⟩
            obtain ⟨group, more, rfl, length, lengths⟩ := List.map_eq_cons_iff.mp lengths
            obtain ⟨first, others⟩ := List.forall_mem_cons.mp digits
            obtain ⟨next, last, rfl, -, -⟩ := List.map_eq_cons_iff.mp lengths
            refine ⟨group, _, length, first, ih.mpr ⟨_, lengths, others, rfl⟩, ?_⟩
            rw [List.intercalate_cons_cons, List.append_assoc]
            rfl

theorem utf8Size_of_isHexDigit {c : Char} (digit : isHexDigit c = true) : c.utf8Size = 1 := by
  rw [Char.utf8Size_eq_one_iff]
  simp only [isHexDigit, Char.isDigit, Bool.or_eq_true, Bool.and_eq_true,
    decide_eq_true_eq] at digit
  rcases digit with (⟨-, high⟩ | ⟨-, high⟩) | ⟨-, high⟩
  · exact UInt32.le_trans high (by decide)
  · exact UInt32.le_trans high (by decide)
  · exact UInt32.le_trans high (by decide)

theorem utf8Length_of_isHexDigit {cs : List Char} (digits : ∀ c ∈ cs, isHexDigit c = true) :
    Text.utf8Length cs = cs.length := by
  induction cs with
  | nil => rfl
  | cons c cs ih =>
      obtain ⟨first, digits⟩ := List.forall_mem_cons.mp digits
      rw [Text.utf8Length, utf8Size_of_isHexDigit first, ih digits, List.length_cons, Nat.add_comm]

/-- A UUID has a byte for each of its digits and hyphens. -/
theorem utf8Length_intercalate {groups : List (List Char)}
    (digits : ∀ group ∈ groups, ∀ c ∈ group, isHexDigit c = true) :
    Text.utf8Length (['-'].intercalate groups) =
      (groups.map List.length).sum + (groups.length - 1) := by
  induction groups with
  | nil => rfl
  | cons group groups ih =>
      obtain ⟨first, others⟩ := List.forall_mem_cons.mp digits
      have own := utf8Length_of_isHexDigit first
      cases groups with
      | nil => simpa using own
      | cons next groups =>
          have rest := ih others
          have hyphen : Text.utf8Length ['-'] = 1 := by decide
          rw [List.intercalate_cons_cons, Text.utf8Length_append, Text.utf8Length_append, own,
            hyphen, rest]
          simp only [List.map_cons, List.sum_cons, List.length_cons]
          omega

/-- A text is recognised as a UUID exactly where it is thirty-six bytes of digits and hyphens, in
these groups. -/
theorem isUuid_iff {s : String} : isUuid s = true ↔ Hyphenated s.toList := by
  rw [isUuid, isGroups_iff]
  constructor
  · rintro ⟨groups, lengths, digits, whole⟩
    refine ⟨?_, groups, lengths, digits, whole⟩
    have five : groups.length = 5 := by
      rw [← List.length_map (f := List.length), lengths]
      rfl
    rw [← whole, utf8Length_intercalate digits, lengths, five]
    rfl
  · exact fun hyphenated => hyphenated.groups

/-- The small letters of a UUID are a UUID. -/
theorem isUuid_foldCase {s : String} (uuid : isUuid s = true) :
    isUuid (Text.foldCase s) = true := by
  obtain ⟨groups, lengths, digits, whole⟩ := isGroups_iff.mp uuid
  refine isGroups_iff.mpr ⟨groups.map (List.map Char.toLower), ?_, ?_, ?_⟩
  · rw [List.map_map, ← lengths]
    exact List.map_congr_left fun group _ => List.length_map _
  · rw [List.forall_mem_map]
    intro group member
    rw [List.forall_mem_map]
    intro c among
    rw [isHexDigit_toLower]
    exact digits group member c among
  · rw [Text.toList_foldCase, ← whole, Text.map_intercalate]
    rfl

end Uuid

end ContextQuery
