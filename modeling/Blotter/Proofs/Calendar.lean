import Mathlib
import Blotter.Calendar

/-!
# The calendar and day numbers

Every day lies in the year that `yearOf` finds (`startOfYear_yearOf_le`, `lt_startOfYear_yearOf`), so its date exists
(`isValid_ofDay`) and has its number (`toDay_ofDay`).
-/

namespace Blotter

namespace Calendar

/-! ## Years -/

/-- A year has 365 days, a leap year one more. -/
theorem startOfYear_succ (year : Int) :
    startOfYear (year + 1) = startOfYear year + (if isLeap year then 366 else 365) := by
  simp only [startOfYear, isLeap, Bool.and_eq_true, Bool.or_eq_true, beq_iff_eq, bne_iff_ne]
  split <;> omega

theorem startOfYear_mono {year year' : Int} (h : year ≤ year') : startOfYear year ≤ startOfYear year' := by
  simp only [startOfYear]
  omega

/-- A day does not lie before its year. -/
theorem startOfYear_yearOf_le (day : Int) : startOfYear (yearOf day) ≤ day := by
  simp only [yearOf]
  split
  · simp only [startOfYear] at *
    omega
  · split <;> omega

/-- A day lies before the year after its own. -/
theorem lt_startOfYear_yearOf (day : Int) : day < startOfYear (yearOf day + 1) := by
  simp only [yearOf]
  split
  · rename_i h
    rw [Int.sub_add_cancel]
    exact h
  · split
    · simp only [startOfYear] at *
      omega
    · omega

/-- The year of a day is the only one that the day lies in. -/
theorem yearOf_eq {day year : Int} (h₁ : startOfYear year ≤ day) (h₂ : day < startOfYear (year + 1)) :
    yearOf day = year := by
  have h₃ := startOfYear_yearOf_le day
  have h₄ := lt_startOfYear_yearOf day
  rcases Int.lt_trichotomy (yearOf day) year with h | h | h
  · have : startOfYear (yearOf day + 1) ≤ startOfYear year := startOfYear_mono (by omega)
    omega
  · exact h
  · have : startOfYear (year + 1) ≤ startOfYear (yearOf day) := startOfYear_mono (by omega)
    omega

/-! ## Months -/

theorem daysBefore_succ (year : Int) {month : Nat} (h : 1 ≤ month) :
    daysBefore year (month + 1) = daysBefore year month + daysInMonth year month := by
  obtain ⟨m, rfl⟩ := Nat.exists_eq_add_of_le' h
  rfl

/-- The twelve months make up the year. -/
theorem daysBefore_thirteen (year : Int) : daysBefore year 13 = if isLeap year then 366 else 365 := by
  simp only [daysBefore, daysInMonth]
  split <;> rfl

/-- From a month on, the search finds the month that the rest of the days lies in. -/
theorem monthAndDay_spec (year : Int) : ∀ (fuel rest month : Nat), 1 ≤ month → month + fuel = 12 →
    daysBefore year month + rest < daysBefore year 13 →
    let found := monthAndDay year rest month fuel
    1 ≤ found.1 ∧ found.1 ≤ 12 ∧ 1 ≤ found.2 ∧ found.2 ≤ daysInMonth year found.1 ∧
      daysBefore year found.1 + (found.2 - 1) = daysBefore year month + rest
  | 0, rest, month, h₁, h₂, h₃ => by
    obtain rfl : month = 12 := by omega
    have last : daysBefore year 13 = daysBefore year 12 + daysInMonth year 12 := daysBefore_succ year (by decide)
    simp only [monthAndDay]
    refine ⟨by omega, by omega, by omega, by omega, by omega⟩
  | fuel + 1, rest, month, h₁, h₂, h₃ => by
    simp only [monthAndDay]
    split
    · rename_i h
      exact ⟨h₁, by omega, Nat.le_add_left 1 rest, h, by simp⟩
    · have next := daysBefore_succ year h₁
      have ih := monthAndDay_spec year fuel (rest - daysInMonth year month) (month + 1) (by omega) (by omega) (by omega)
      obtain ⟨i₁, i₂, i₃, i₄, i₅⟩ := ih
      refine ⟨i₁, i₂, i₃, i₄, by omega⟩

end Calendar

namespace Date

open Calendar

/-- The day of the year of a day, counted from zero, lies within the year. -/
theorem dayOfYear_lt (day : Int) : (day - startOfYear (yearOf day)).toNat < daysBefore (yearOf day) 13 := by
  have h₁ := startOfYear_yearOf_le day
  have h₂ := lt_startOfYear_yearOf day
  rw [startOfYear_succ] at h₂
  rw [daysBefore_thirteen]
  by_cases h : isLeap (yearOf day) = true
  · rw [if_pos h] at *
    omega
  · rw [if_neg h] at *
    omega

theorem ofDay_spec (day : Int) :
    let d := ofDay day
    1 ≤ d.month ∧ d.month ≤ 12 ∧ 1 ≤ d.day ∧ d.day ≤ daysInMonth d.year d.month ∧
      daysBefore d.year d.month + (d.day - 1) = (day - startOfYear d.year).toNat :=  by
  have h := monthAndDay_spec (yearOf day) 11 (day - startOfYear (yearOf day)).toNat 1 (by decide) (by decide)
    (by simpa [daysBefore] using dayOfYear_lt day)
  simpa [ofDay, daysBefore] using h

theorem year_ofDay (day : Int) : (ofDay day).year = yearOf day := rfl

/-- The date of a day exists. -/
theorem isValid_ofDay (day : Int) : (ofDay day).isValid = true := by
  obtain ⟨h₁, h₂, h₃, h₄, -⟩ := ofDay_spec day
  simp [isValid, h₁, h₂, h₃, h₄]

/-- The date of a day has the number of the day. -/
theorem toDay_ofDay (day : Int) : (ofDay day).toDay = day := by
  obtain ⟨-, -, h₃, -, h₅⟩ := ofDay_spec day
  have := startOfYear_yearOf_le day
  rw [toDay]
  rw [year_ofDay] at *
  omega

/-- The months and the days of dates are short numbers. -/
theorem ofDay_lt (day : Int) : (ofDay day).month < 100 ∧ (ofDay day).day < 100 := by
  obtain ⟨-, h₂, -, h₄, -⟩ := ofDay_spec day
  have : daysInMonth (ofDay day).year (ofDay day).month ≤ 31 := by
    simp only [daysInMonth]
    split <;> try split
    all_goals decide
  exact ⟨by omega, by omega⟩

end Date

end Blotter
