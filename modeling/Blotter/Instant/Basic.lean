import Blotter.Calendar

/-!
# Instants

An instant is a day, a second of that day and a nanosecond, in UTC. A leap second is the second before it with a
nanosecond count of a thousand million or more; it may follow any minute. The years reach from -262143 to 262142.
-/

namespace Blotter

/-- A point in time in UTC. -/
structure Instant where
  /-- Days since 1970-01-01. -/
  day : Int
  /-- Seconds since midnight. -/
  second : Nat
  /-- Nanoseconds; from `10 ^ 9` on they lie in a leap second. -/
  nano : Nat
  first_le_day : -96465292 ≤ day
  day_le_last : day ≤ 95026236
  second_lt : second < 86400
  nano_lt : nano < 2000000000
  leap : 1000000000 ≤ nano → second % 60 = 59
deriving DecidableEq

namespace Instant

/-- The first day that has instants, -262143-01-01. -/
def firstDay : Int := -96465292

/-- The last day that has instants, 262142-12-31. -/
def lastDay : Int := 95026236

/-- The instant with the given parts, if there is one. -/
def ofParts? (day : Int) (second nano : Nat) : Option Instant :=
  if h : (firstDay ≤ day ∧ day ≤ lastDay) ∧ second < 86400 ∧ nano < 2000000000 ∧
      (1000000000 ≤ nano → second % 60 = 59) then
    some ⟨day, second, nano, h.1.1, h.1.2, h.2.1, h.2.2.1, h.2.2.2⟩
  else none

/-- The start of 1970. -/
def epoch : Instant := ⟨0, 0, 0, by decide, by decide, by decide, by decide, by decide⟩

instance : Inhabited Instant := ⟨epoch⟩

/-- The date in UTC. -/
def date (t : Instant) : Date := Date.ofDay t.day

/-- Nanoseconds since the start of 1970. -/
def toNanos (t : Instant) : Int := (t.day * 86400 + t.second) * 1000000000 + t.nano

end Instant

end Blotter
