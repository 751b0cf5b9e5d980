import Blotter.Text.Numeral

/-!
# The calendar

Days are counted from 1970-01-01 in the proleptic Gregorian calendar. `yearOf` finds the year of a day from the first
days of the years, `Date.ofDay` the whole date. A week runs from Monday to Sunday and belongs to the year of its
Thursday (ISO 8601).
-/

namespace Blotter

namespace Calendar

/-- Whether the year has a 29 February. -/
def isLeap (year : Int) : Bool := year % 4 == 0 && (year % 100 != 0 || year % 400 == 0)

/-- How many days the month has. -/
def daysInMonth (year : Int) (month : Nat) : Nat :=
  match month with
  | 2 => if isLeap year then 29 else 28
  | 4 | 6 | 9 | 11 => 30
  | _ => 31

/-- The day number of the first of January. -/
def startOfYear (year : Int) : Int :=
  365 * (year - 1970) + (year - 1) / 4 - (year - 1) / 100 + (year - 1) / 400 - 477

/-- The year that a day lies in: the mean length of a year gives a guess that is off by at most one. -/
def yearOf (day : Int) : Int :=
  let guess := day * 400 / 146097 + 1970
  if day < startOfYear guess then guess - 1
  else if startOfYear (guess + 1) ≤ day then guess + 1
  else guess

/-- How many days of the year lie before the first of the month. -/
def daysBefore (year : Int) : Nat → Nat
  | 0 | 1 => 0
  | month + 2 => daysBefore year (month + 1) + daysInMonth year (month + 1)

/-- Month and day of the month of the day with the given number in its year, counted from zero, where `month` is the
first month to look at. -/
def monthAndDay (year : Int) (rest month : Nat) : Nat → Nat × Nat
  | 0 => (month, rest + 1)
  | fuel + 1 =>
    if rest < daysInMonth year month then (month, rest + 1)
    else monthAndDay year (rest - daysInMonth year month) (month + 1) fuel

end Calendar

/-- A day of the calendar. -/
structure Date where
  year : Int
  month : Nat
  day : Nat
deriving DecidableEq, Repr

namespace Date

open Calendar

/-- The date of a day number. -/
def ofDay (day : Int) : Date :=
  let year := yearOf day
  let (month, dayOfMonth) := monthAndDay year (day - startOfYear year).toNat 1 11
  ⟨year, month, dayOfMonth⟩

/-- The day number of a date. -/
def toDay (d : Date) : Int := startOfYear d.year + daysBefore d.year d.month + ((d.day : Int) - 1)

/-- Whether month and day exist. -/
def isValid (d : Date) : Bool := 1 ≤ d.month && d.month ≤ 12 && 1 ≤ d.day && d.day ≤ daysInMonth d.year d.month

/-- A year: four digits, outside of 0 to 9999 a sign and at least four digits. -/
def yearText (year : Int) : List Char :=
  if 0 ≤ year && year ≤ 9999 then Numeral.padded 4 year.toNat
  else (if year < 0 then '-' else '+') :: Numeral.padded 4 year.natAbs

/-- Year, month and day, separated by hyphens. -/
def toChars (d : Date) : List Char :=
  yearText d.year ++ '-' :: Numeral.padded 2 d.month ++ '-' :: Numeral.padded 2 d.day

/-- The text of a date. -/
def text (d : Date) : String := String.ofList d.toChars

end Date

namespace Calendar

/-- The number of the week of a day; week 0 holds 1970-01-01. -/
def weekOf (day : Int) : Int := (day + 3) / 7

/-- Year and number of the ISO week of a day. The Thursday of the week decides: its year is the year of the week, and
the week is the n-th of the year if the Thursday is the n-th one. -/
def isoWeek (day : Int) : Int × Nat :=
  let thursday := 7 * weekOf day
  let year := yearOf thursday
  (year, (thursday - startOfYear year).toNat / 7 + 1)

end Calendar

end Blotter
