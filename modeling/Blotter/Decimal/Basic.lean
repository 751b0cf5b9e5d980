import Blotter.Power

/-!
# Decimals

A decimal is a sign, a coefficient below `2 ^ 96` and a scale of at most 28 fraction digits; it stands for
`± coefficient / 10 ^ scale`. The scale is kept, so `1.5` and `1.50` are two decimals of one value, and so is the sign
of a zero. Comparison looks at the value alone.
-/

namespace Blotter

/-- The first coefficient that is too large, `2 ^ 96`. -/
def Decimal.limit : Nat := 79228162514264337593543950336

/-- A decimal number of at most 96 bits and 28 fraction digits. -/
structure Decimal where
  /-- Whether the sign is a minus; a zero may carry one. -/
  negative : Bool
  /-- The digits as one number. -/
  coefficient : Nat
  /-- How many of the digits are fraction digits. -/
  scale : Nat
  coefficient_lt : coefficient < Decimal.limit
  scale_le : scale ≤ 28
deriving DecidableEq

namespace Decimal

theorem zero_lt_limit : 0 < limit := by decide

theorem one_lt_limit : 1 < limit := by decide

theorem zero_le_maxScale : 0 ≤ 28 := by decide

/-- The decimal with the given parts, if there is one. -/
def ofParts? (negative : Bool) (coefficient scale : Nat) : Option Decimal :=
  if h : coefficient < limit ∧ scale ≤ 28 then some ⟨negative, coefficient, scale, h.1, h.2⟩ else none

/-- Zero without fraction digits. -/
def zero : Decimal := ⟨false, 0, 0, zero_lt_limit, zero_le_maxScale⟩

instance : Inhabited Decimal := ⟨zero⟩

/-- Whether the value is zero, whatever the sign and the scale. -/
def isZero (a : Decimal) : Bool := a.coefficient == 0

/-- Whether the sign is a minus; it is for a negated zero. -/
def isNegative (a : Decimal) : Bool := a.negative

/-- The same number with the other sign, also for a zero. -/
def neg (a : Decimal) : Decimal := { a with negative := !a.negative }

/-- The same number without its sign. -/
def abs (a : Decimal) : Decimal := { a with negative := false }

/-- The coefficient with the sign. -/
def signed (a : Decimal) : Int := if a.negative then -(a.coefficient : Int) else a.coefficient

/-- The order of the values: both sides are brought to a common scale. -/
def compareValue (a b : Decimal) : Ordering :=
  compare (a.signed * tenTo b.scale) (b.signed * tenTo a.scale)

/-- Whether the value of `a` is below the value of `b`. -/
def lt (a b : Decimal) : Bool := a.compareValue b == .lt

/-- Whether the value of `a` is at most the value of `b`. -/
def le (a b : Decimal) : Bool := a.compareValue b != .gt

/-- The larger of two decimals; the first one if their values agree. -/
def max (a b : Decimal) : Decimal := if a.lt b then b else a

/-- An integer as a decimal without fraction digits. -/
def ofInt? (i : Int) : Option Decimal := ofParts? (decide (i < 0)) i.natAbs 0

end Decimal

end Blotter
