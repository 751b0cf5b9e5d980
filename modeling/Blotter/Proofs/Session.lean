import Mathlib
import Blotter.Proofs.Calendar
import Blotter.Session

/-!
# Sessions and calendar weeks

A session lasts a week, and its key holds the year and the number of that week. ISO 8601 says which these are: weeks
start on Mondays, the first week of a year is the one that 4 January lies in, and from there they are counted
(`IsoWeek`).

- Every day lies in one such week, and `isoWeek` finds it (`isoWeek_eq_iff`): its year is the one that its Thursday lies
  in, since the first week of a year has the first Thursday (`firstMonday_bounds`).
- A later week has a later year, or a larger number in the same year, also around the turn of a year
  (`IsoWeek.later_iff`).
- So the sessions of two instants are the same exactly if the instants lie in the same week, and otherwise the year and
  the number tell which week is the later one (`SessionKey.keys_follow_weeks`).
-/

namespace Blotter

namespace Calendar

/-! ## Weeks of ISO 8601 -/

/-- The Monday of the week of a day. -/
def mondayOf (day : Int) : Int := day - (day + 3) % 7

/-- The Monday of the first week of a year. -/
def firstMonday (year : Int) : Int := mondayOf (Date.toDay ⟨year, 1, 4⟩)

/-- Whether a day lies in a week with this number of a year, as ISO 8601 counts them. -/
structure IsoWeek (day year : Int) (week : Nat) : Prop where
  firstMonday_le : firstMonday year ≤ day
  lt_firstMonday : day < firstMonday (year + 1)
  one_le : 1 ≤ week
  monday_eq : mondayOf day = firstMonday year + 7 * ((week : Int) - 1)

/-- Mondays are seven days apart, and the day with number zero is a Thursday. -/
theorem mondayOf_eq (day : Int) : mondayOf day = 7 * weekOf day - 3 := by
  simp only [mondayOf, weekOf]
  omega

theorem firstMonday_eq (year : Int) : firstMonday year = 7 * weekOf (startOfYear year + 3) - 3 := by
  rw [firstMonday, mondayOf_eq]
  simp [Date.toDay, daysBefore]

/-- The first week of a year is the one with the first Thursday. -/
theorem firstMonday_bounds (year : Int) :
    startOfYear year ≤ firstMonday year + 3 ∧ firstMonday year + 3 ≤ startOfYear year + 6 := by
  rw [firstMonday_eq, weekOf]
  omega

theorem firstMonday_mono {year year' : Int} (h : year ≤ year') : firstMonday year ≤ firstMonday year' := by
  have := startOfYear_mono h
  rw [firstMonday_eq, firstMonday_eq, weekOf, weekOf]
  omega

/-- The year and the number that are found for a day are the ones of ISO 8601, and no others are. -/
theorem isoWeek_eq_iff {day year : Int} {week : Nat} : isoWeek day = (year, week) ↔ IsoWeek day year week := by
  rw [isoWeek, Prod.mk.injEq]
  have monday := mondayOf_eq day
  constructor
  · rintro ⟨rfl, rfl⟩
    have after := startOfYear_yearOf_le (7 * weekOf day)
    have before := lt_startOfYear_yearOf (7 * weekOf day)
    generalize yearOf (7 * weekOf day) = year at after before
    have this_year := firstMonday_eq year
    have next_year := firstMonday_eq (year + 1)
    simp only [weekOf] at *
    refine ⟨by omega, by omega, by omega, by omega⟩
  · intro h
    obtain ⟨first, last, one_le, monday_eq⟩ := h
    have this_year := firstMonday_bounds year
    have next_year := firstMonday_bounds (year + 1)
    have this_monday := firstMonday_eq year
    have next_monday := firstMonday_eq (year + 1)
    simp only [weekOf] at *
    have found : yearOf (7 * ((day + 3) / 7)) = year := yearOf_eq (by omega) (by omega)
    rw [found]
    exact ⟨rfl, by omega⟩

/-- The first days of 2021 belong to the last week of 2020, which has 53 weeks. -/
example : isoWeek (Date.toDay ⟨2021, 1, 3⟩) = (2020, 53) ∧ isoWeek (Date.toDay ⟨2021, 1, 4⟩) = (2021, 1) := by
  decide

variable {day day' year year' : Int} {week week' : Nat}

/-- A day of a later week has a later year, or a larger number in the same year. -/
theorem IsoWeek.follows (h : IsoWeek day year week) (h' : IsoWeek day' year' week') (later : weekOf day < weekOf day') :
    year < year' ∨ year = year' ∧ week < week' := by
  have monday := mondayOf_eq day
  have monday' := mondayOf_eq day'
  rcases Int.lt_trichotomy year year' with before | rfl | after
  · exact .inl before
  · have number := h.monday_eq
    have number' := h'.monday_eq
    exact .inr ⟨rfl, by omega⟩
  · -- the days of a year of weeks lie before those of the next one
    have apart : firstMonday (year' + 1) ≤ firstMonday year := firstMonday_mono after
    have first := h.firstMonday_le
    have last := h'.lt_firstMonday
    simp only [weekOf] at later
    omega

/-- Days lie in the same week exactly if they have the same year and the same number. -/
theorem IsoWeek.same_iff (h : IsoWeek day year week) (h' : IsoWeek day' year' week') :
    weekOf day = weekOf day' ↔ year = year' ∧ week = week' := by
  constructor
  · intro same
    have found := isoWeek_eq_iff.mpr h
    have found' := isoWeek_eq_iff.mpr h'
    rw [isoWeek, same] at found
    rw [isoWeek] at found'
    exact Prod.mk.inj (found.symm.trans found')
  · rintro ⟨rfl, rfl⟩
    have monday : mondayOf day = mondayOf day' := h.monday_eq.trans h'.monday_eq.symm
    rw [mondayOf_eq, mondayOf_eq] at monday
    omega

/-- A day lies in a later week exactly if it has a later year, or a larger number in the same year. -/
theorem IsoWeek.later_iff (h : IsoWeek day year week) (h' : IsoWeek day' year' week') :
    weekOf day < weekOf day' ↔ year < year' ∨ year = year' ∧ week < week' := by
  constructor
  · exact h.follows h'
  · intro greater
    rcases Int.lt_trichotomy (weekOf day) (weekOf day') with before | same | after
    · exact before
    · have := (h.same_iff h').mp same
      omega
    · have := h'.follows h after
      omega

end Calendar

open Calendar

namespace SessionKey

/-- The key of an instant holds the week that its day lies in. -/
theorem isoWeek_ofInstant (sender target : String) (t : Instant) :
    IsoWeek t.day (ofInstant sender target t).year (ofInstant sender target t).week :=
  isoWeek_eq_iff.mp rfl

/-- The sessions of two instants between the same parties are the same exactly if the instants lie in the same week
from Monday to Sunday; a later week has a later year or a larger number in the same year. The year and the number are
the only ones that ISO 8601 gives to the day. -/
theorem keys_follow_weeks (sender target : String) (t u : Instant) :
    let k := ofInstant sender target t
    let l := ofInstant sender target u
    (∀ year week, IsoWeek t.day year week ↔ k.year = year ∧ k.week = week) ∧
    (k = l ↔ (t.day + 3) / 7 = (u.day + 3) / 7) ∧
    ((t.day + 3) / 7 < (u.day + 3) / 7 ↔ k.year < l.year ∨ k.year = l.year ∧ k.week < l.week) := by
  intro k l
  have hk : IsoWeek t.day k.year k.week := isoWeek_ofInstant sender target t
  have hl : IsoWeek u.day l.year l.week := isoWeek_ofInstant sender target u
  refine ⟨fun year week => ?_, ?_, ?_⟩
  · rw [← isoWeek_eq_iff, Prod.ext_iff]
    exact Iff.rfl
  · have equal_iff : k = l ↔ k.year = l.year ∧ k.week = l.week := by
      simp only [k, l, ofInstant, mk.injEq, true_and]
    rw [equal_iff]
    exact (hk.same_iff hl).symm
  · exact hk.later_iff hl

end SessionKey

end Blotter
