import Mathlib
import ContextQuery.Text.Ascii
import ContextQuery.Text.Lowercase

/-!
# Case

Keywords are compared by the case of ASCII letters alone, and names of indexes in lower case. The first
way never tells apart what the second does not: the capital and the small form of an ASCII letter have
one lower case, and what stands next to them in a word has the same lower case with either
(`Text.lowercase_foldCase`).
-/

namespace ContextQuery.Text

theorem foldCase_foldCase (s : String) : foldCase (foldCase s) = foldCase s := by
  rw [← String.toList_inj, toList_foldCase, toList_foldCase, List.map_map]
  refine List.map_congr_left fun c _ => ?_
  exact Char.toLower_toLower_eq_toLower c

/-- Without ASCII capitals there is nothing to fold. -/
theorem foldCase_of_forall {s : String} (small : ∀ c ∈ s.toList, c.isUpper = false) :
    foldCase s = s := by
  have each : ∀ c ∈ s.toList, c.toLower = id c := by
    intro c member
    apply Char.toLower_eq_of_not_isUpper
    rw [small c member]
    exact Bool.false_ne_true
  rw [← String.toList_inj, toList_foldCase, List.map_congr_left each, List.map_id]

theorem map_intercalate (f : Char → Char) (separator : List Char) (parts : List (List Char)) :
    (separator.intercalate parts).map f =
      (separator.map f).intercalate (parts.map (List.map f)) := by
  induction parts with
  | nil => rfl
  | cons p ps ih =>
      cases ps with
      | nil => simp
      | cons q qs =>
          simp only [List.map_cons, List.intercalate_cons_cons, List.map_append] at ih ⊢
          rw [ih]

/-- Words are folded one by one, for the space between them has no case. -/
theorem foldCase_intercalate (ws : List String) :
    foldCase (" ".intercalate ws) = " ".intercalate (ws.map foldCase) := by
  have folded : (ws.map String.toList).map (List.map Char.toLower) =
      (ws.map foldCase).map String.toList := by
    rw [List.map_map, List.map_map]
    exact List.map_congr_left fun w _ => (toList_foldCase w).symm
  rw [← String.toList_inj, toList_foldCase, String.toList_intercalate, String.toList_intercalate,
    map_intercalate, folded]
  rfl

/-! ## Letters of ASCII -/

theorem toNat_of_isUpper {c : Char} (upper : c.isUpper = true) : 65 ≤ c.toNat ∧ c.toNat ≤ 90 := by
  simpa [Char.isUpper, UInt32.le_iff_toNat_le, ← Char.toNat_val] using upper

theorem toNat_toLower_of_isUpper {c : Char} (upper : c.isUpper = true) :
    c.toLower.toNat = c.toNat + 32 := by
  obtain ⟨low, high⟩ := toNat_of_isUpper upper
  rw [← Char.ofNat_toNat c]
  interval_cases c.toNat <;> decide

/-- A small letter is that of itself and of its capital. -/
theorem toLower_eq_iff {c d : Char} (small : d.isLower = true) :
    c.toLower = d ↔ c = d ∨ c = d.toUpper := by
  have low : 97 ≤ d.toNat ∧ d.toNat ≤ 122 := by
    simpa [Char.isLower, UInt32.le_iff_toNat_le, ← Char.toNat_val] using small
  have capital : d.toUpper.toNat = d.toNat - 32 ∧ d.toUpper.isUpper = true := by
    obtain ⟨low, high⟩ := low
    rw [← Char.ofNat_toNat d]
    interval_cases d.toNat <;> decide
  by_cases upper : c.isUpper = true
  · have range := toNat_of_isUpper upper
    have folded := toNat_toLower_of_isUpper upper
    constructor
    · rintro rfl
      right
      rw [← Char.toNat_inj]
      omega
    · rintro (rfl | rfl)
      · omega
      · rw [← Char.toNat_inj]
        omega
  · rw [Char.toLower_eq_of_not_isUpper upper]
    refine (or_iff_left ?_).symm
    rintro rfl
    exact upper capital.2

/-- What each capital has in common with its small letter, every character has in common with its
own. -/
theorem apply_toLower {α : Type} {p : Char → α}
    (letters : ∀ n < 26, p (Char.ofNat (97 + n)) = p (Char.ofNat (65 + n))) (c : Char) :
    p c.toLower = p c := by
  by_cases upper : c.isUpper = true
  · obtain ⟨low, high⟩ := toNat_of_isUpper upper
    have same := letters (c.toNat - 65) (by omega)
    have capital : Char.ofNat (65 + (c.toNat - 65)) = c := by
      rw [Nat.add_sub_cancel' low, Char.ofNat_toNat]
    have small : Char.ofNat (97 + (c.toNat - 65)) = c.toLower := by
      rw [← Char.ofNat_toNat c.toLower, toNat_toLower_of_isUpper upper]
      congr 1
      omega
    rwa [capital, small] at same
  · rw [Char.toLower_eq_of_not_isUpper upper]

theorem isCased_toLower (c : Char) : isCased c.toLower = isCased c :=
  apply_toLower (by decide) c

theorem isCaseIgnorable_toLower (c : Char) : isCaseIgnorable c.toLower = isCaseIgnorable c := by
  by_cases upper : c.isUpper = true
  · -- no range of ignorable characters reaches into the letters
    have apart : ∀ r ∈ ignorableRanges, r.2 < 65 ∨ 90 < r.1 ∧ r.2 < 97 ∨ 122 < r.1 := by
      decide +kernel
    obtain ⟨low, high⟩ := toNat_of_isUpper upper
    have small := toNat_toLower_of_isUpper upper
    unfold isCaseIgnorable
    rw [Bool.eq_iff_iff, inRanges_iff, inRanges_iff]
    constructor
    · rintro ⟨r, member, inside⟩
      have := apart r member
      omega
    · rintro ⟨r, member, inside⟩
      have := apart r member
      omega
  · rw [Char.toLower_eq_of_not_isUpper upper]

theorem lowerChar_toLower (c : Char) : lowerChar c.toLower = lowerChar c := by
  by_cases upper : c.isUpper = true
  · have range := toNat_of_isUpper upper
    have small := toNat_toLower_of_isUpper upper
    unfold lowerChar
    rw [if_pos (by omega), if_pos (by omega), Char.toLower_toLower_eq_toLower]
  · rw [Char.toLower_eq_of_not_isUpper upper]

theorem toLower_eq_sigma_iff {c : Char} : c.toLower = 'Σ' ↔ c = 'Σ' := by
  by_cases upper : c.isUpper = true
  · have range := toNat_of_isUpper upper
    have small := toNat_toLower_of_isUpper upper
    have sigma : 'Σ'.toNat = 931 := rfl
    constructor
    · intro same
      rw [same] at small
      omega
    · rintro rfl
      omega
  · rw [Char.toLower_eq_of_not_isUpper upper]

/-! ## Lower case -/

theorem meetsCased_map_toLower (cs : List Char) :
    meetsCased (cs.map Char.toLower) = meetsCased cs := by
  have passed : (cs.map Char.toLower).dropWhile isCaseIgnorable =
      (cs.dropWhile isCaseIgnorable).map Char.toLower := by
    rw [List.dropWhile_map]
    exact congrArg (fun p => (cs.dropWhile p).map Char.toLower)
      (funext isCaseIgnorable_toLower)
  unfold meetsCased
  rw [passed]
  cases cs.dropWhile isCaseIgnorable with
  | nil => rfl
  | cons c rest => exact isCased_toLower c

/-- Small letters in the place of ASCII capitals make no difference, neither in their own places nor
to a sigma that stands before or after them. -/
theorem lowerFrom_map_toLower (inWord : Bool) (cs : List Char) :
    lowerFrom inWord (cs.map Char.toLower) = lowerFrom inWord cs := by
  induction cs generalizing inWord with
  | nil => rfl
  | cons c cs ih =>
      rw [List.map_cons, lowerFrom, lowerFrom, ih, meetsCased_map_toLower, lowerChar_toLower,
        isCaseIgnorable_toLower, isCased_toLower]
      simp only [toLower_eq_sigma_iff]

theorem lowercase_foldCase (s : String) : lowercase (foldCase s) = lowercase s := by
  unfold lowercase
  rw [toList_foldCase, lowerFrom_map_toLower]

/-- Texts that differ in the case of ASCII letters alone are the same in lower case. -/
theorem lowercase_of_foldCase_eq {s t : String} (same : foldCase s = foldCase t) :
    lowercase s = lowercase t := by
  rw [← lowercase_foldCase s, same, lowercase_foldCase]

end ContextQuery.Text
