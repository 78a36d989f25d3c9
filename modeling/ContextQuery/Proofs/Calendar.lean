import ContextQuery.Calendar
import Mathlib.Algebra.Order.BigOperators.Group.Finset

/-!
# Instants

A date is counted in days and a time of the day in nanoseconds, and the two together say how far a
time is from the beginning of the calendar (`instant`). Days that exist and times that the clock
shows are at the same instant only if they have the same numbers (`instant_inj`).
-/

namespace ContextQuery

/-! ## Days -/

/-- The days of a year. -/
def daysInYear (year : Nat) : Nat :=
  ∑ month ∈ Finset.range 13, daysInMonth year month

/-- The days from the beginning of the year 0 to this one, which is counted. -/
def Date.dayNumber (d : Date) : Nat :=
  ∑ year ∈ Finset.range d.year, daysInYear year +
    (∑ month ∈ Finset.range d.month, daysInMonth d.year month + d.day)

/-- Periods of given lengths follow each other. A place that is counted from the beginning of the
first, and lies within a period, says which period and where in it. -/
theorem eq_of_sum_range_add {length : Nat → Nat} {a b x y : Nat}
    (same : ∑ i ∈ Finset.range a, length i + x = ∑ i ∈ Finset.range b, length i + y)
    (within : 1 ≤ x ∧ x ≤ length a) (within' : 1 ≤ y ∧ y ≤ length b) : a = b ∧ x = y := by
  -- a later period begins after all of an earlier one
  have later {a b : Nat} (less : a < b) :
      ∑ i ∈ Finset.range a, length i + length a ≤ ∑ i ∈ Finset.range b, length i := by
    rw [← Finset.sum_range_succ]
    exact Finset.sum_le_sum_of_subset (Finset.range_mono less)
  rcases Nat.lt_trichotomy a b with less | rfl | greater
  · have after := later less
    omega
  · exact ⟨rfl, by omega⟩
  · have after := later greater
    omega

theorem daysInMonth_le (year month : Nat) : daysInMonth year month ≤ 31 := by
  unfold daysInMonth
  split <;> (try split) <;> omega

theorem Date.month_le_of_isDay {d : Date} (isDay : d.isDay = true) : 1 ≤ d.month ∧ d.month ≤ 12 := by
  simp only [Date.isDay, Bool.and_eq_true, decide_eq_true_eq] at isDay
  unfold daysInMonth at isDay
  split at isDay <;> omega

theorem Date.day_le_of_isDay {d : Date} (isDay : d.isDay = true) :
    1 ≤ d.day ∧ d.day ≤ daysInMonth d.year d.month := by
  simpa only [Date.isDay, Bool.and_eq_true, decide_eq_true_eq] using isDay

/-- A day lies within its year. -/
theorem Date.dayOfYear_le {d : Date} (isDay : d.isDay = true) :
    ∑ month ∈ Finset.range d.month, daysInMonth d.year month + d.day ≤ daysInYear d.year := by
  have month := Date.month_le_of_isDay isDay
  have day := Date.day_le_of_isDay isDay
  have months : ∑ month ∈ Finset.range (d.month + 1), daysInMonth d.year month ≤
      daysInYear d.year :=
    Finset.sum_le_sum_of_subset (Finset.range_mono (by omega))
  rw [Finset.sum_range_succ] at months
  omega

/-- Days with the same number are the same. -/
theorem Date.dayNumber_inj {d d' : Date} (isDay : d.isDay = true) (isDay' : d'.isDay = true)
    (same : d.dayNumber = d'.dayNumber) : d = d' := by
  have day := Date.day_le_of_isDay isDay
  have day' := Date.day_le_of_isDay isDay'
  obtain ⟨years, inYear⟩ := eq_of_sum_range_add same
    ⟨by omega, Date.dayOfYear_le isDay⟩ ⟨by omega, dayOfYear_le isDay'⟩
  rw [← years] at inYear day'
  obtain ⟨months, days⟩ := eq_of_sum_range_add inYear day day'
  cases d
  cases d'
  simp_all

/-! ## Times on days -/

/-- The nanoseconds since midnight. -/
def Time.sinceMidnight (t : Time) : Nat :=
  ((t.hour * 60 + t.minute) * 60 + t.second) * 1000000000 + t.nanosecond

/-- The nanoseconds from midnight on the day before the year 0. -/
def instant (d : Date) (t : Time) : Nat :=
  d.dayNumber * 86400000000000 + t.sinceMidnight

theorem instant_inj {d d' : Date} {t t' : Time} (isDay : d.isDay = true) (isDay' : d'.isDay = true)
    (isTime : t.isTime = true) (isTime' : t'.isTime = true) :
    instant d t = instant d' t' ↔ d = d' ∧ t = t' := by
  constructor
  · intro same
    simp only [Time.isTime, Bool.and_eq_true, decide_eq_true_eq] at isTime isTime'
    simp only [instant, Time.sinceMidnight] at same
    have days : d.dayNumber = d'.dayNumber := by omega
    refine ⟨Date.dayNumber_inj isDay isDay' days, ?_⟩
    cases t
    cases t'
    simp only [Time.mk.injEq]
    dsimp only at *
    omega
  · rintro ⟨rfl, rfl⟩
    rfl

end ContextQuery
