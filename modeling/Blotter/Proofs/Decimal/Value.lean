import Mathlib
import Blotter.Decimal.Arithmetic

/-!
# The values of decimals

A decimal stands for a rational number. Comparisons look at nothing else (`le_iff`, `lt_iff`), zeros are those of
value zero (`isZero_iff`), and the sign of any other decimal is that of its value (`isNegative_iff`). An operation that
is not rounded has the value that it should have (`Gives`).
-/

namespace Blotter

namespace Decimal

variable {a b : Decimal}

/-- The value of a decimal. -/
def toRat (a : Decimal) : ℚ := a.signed / tenTo a.scale

theorem tenTo_pos_rat (n : Nat) : (0 : ℚ) < tenTo n := by
  exact_mod_cast tenTo_pos n

theorem le_iff : a.le b = true ↔ a.toRat ≤ b.toRat := by
  rw [le, compareValue, bne_iff_ne, ne_eq, compare_gt_iff_gt, not_lt, toRat, toRat,
    div_le_div_iff₀ (tenTo_pos_rat _) (tenTo_pos_rat _)]
  exact_mod_cast Iff.rfl

theorem lt_iff : a.lt b = true ↔ a.toRat < b.toRat := by
  rw [lt, compareValue, beq_iff_eq, compare_lt_iff_lt, toRat, toRat,
    div_lt_div_iff₀ (tenTo_pos_rat _) (tenTo_pos_rat _)]
  exact_mod_cast Iff.rfl

theorem not_le_eq_lt (a b : Decimal) : (!a.le b) = decide (b.toRat < a.toRat) := by
  rw [Bool.eq_iff_iff, Bool.not_eq_true', ← Bool.not_eq_true, le_iff, not_le, decide_eq_true_iff]

@[simp]
theorem toRat_zero : zero.toRat = 0 := by
  simp [toRat, zero, signed]

theorem signed_neg (a : Decimal) : a.neg.signed = -a.signed := by
  unfold signed neg
  cases a.negative <;> simp

theorem toRat_neg (a : Decimal) : a.neg.toRat = -a.toRat := by
  unfold toRat
  rw [signed_neg]
  push_cast
  exact neg_div _ _

theorem isZero_iff : a.isZero = true ↔ a.toRat = 0 := by
  unfold isZero toRat signed
  rw [beq_iff_eq, div_eq_zero_iff, or_iff_left (tenTo_pos_rat _).ne']
  split
  · simp
  · simp

theorem toRat_ne_zero (h : a.isZero = false) : a.toRat ≠ 0 := fun zero => by
  rw [isZero_iff.mpr zero] at h
  cases h

/-- The sign of a decimal that is no zero is the sign of its value. -/
theorem isNegative_iff (h : a.isZero = false) : a.isNegative = true ↔ a.toRat < 0 := by
  have nonzero : 0 < a.coefficient := Nat.pos_of_ne_zero (by simpa [isZero] using h)
  rw [toRat, div_lt_iff₀ (tenTo_pos_rat _), zero_mul, signed, isNegative]
  cases a.negative with
  | true => simpa using nonzero
  | false => simp

theorem isNegative_eq_iff (ha : a.isZero = false) (hb : b.isZero = false) :
    a.isNegative = b.isNegative ↔ 0 < a.toRat * b.toRat := by
  rw [Bool.eq_iff_iff, isNegative_iff ha, isNegative_iff hb]
  constructor
  · intro same
    rcases (toRat_ne_zero ha).lt_or_gt with below | above
    · exact mul_pos_of_neg_of_neg below (same.mp below)
    · exact mul_pos above ((toRat_ne_zero hb).lt_or_gt.resolve_left fun below => (same.mpr below).not_gt above)
  · intro same
    rcases pos_and_pos_or_neg_and_neg_of_mul_pos same with ⟨ha, hb⟩ | ⟨ha, hb⟩
    · exact iff_of_false ha.not_gt hb.not_gt
    · exact iff_of_true ha hb

theorem toRat_max (a b : Decimal) : (a.max b).toRat = Max.max a.toRat b.toRat := by
  rw [max]
  split
  · rename_i below
    exact (max_eq_right (lt_iff.mp below).le).symm
  · rename_i above
    rw [lt_iff, not_lt] at above
    exact (max_eq_left above).symm

/-! ## Operations that are not rounded -/

/-- Whether the result of an operation, if there is one, has the given value. -/
def Gives (result : Except Overflow Decimal) (value : ℚ) : Prop := ∀ c ∈ result.toOption, c.toRat = value

instance (result : Except Overflow Decimal) (value : ℚ) : Decidable (Gives result value) :=
  inferInstanceAs (Decidable (∀ c ∈ result.toOption, c.toRat = value))

theorem Gives.toRat_eq {result : Except Overflow Decimal} {value : ℚ} {c : Decimal} (h : Gives result value)
    (ended : result = .ok c) : c.toRat = value :=
  h c (by rw [ended]; rfl)

end Decimal

end Blotter
