import Mathlib
import Blotter.Proofs.Decimal.Value

/-!
# Results that exist

An exact result is a decimal as soon as it can be rounded to an integer of 96 bits (`exists_fit?`). So the difference of
two decimals that are not negative never overflows (`exists_sub`).
-/

namespace Blotter

namespace Decimal

/-- A quotient that is not above a natural number is not rounded above it. -/
theorem roundHalfEven_le {n d m : Nat} (positive : 0 < d) (le : n ≤ m * d) : roundHalfEven n d ≤ m := by
  have division : d * (n / d) + n % d = n := Nat.div_add_mod n d
  have quotient : n / d ≤ m := Nat.div_le_of_le_mul (by rwa [mul_comm d])
  rw [roundHalfEven]
  split
  · rename_i up
    -- nothing remains that could be rounded if the quotient is the largest one
    rcases quotient.lt_or_eq with below | top
    · exact below
    · have rest : n % d = 0 := by
        rw [top, mul_comm] at division
        omega
      exact absurd up (by simp [rest, positive.ne])
  · exact quotient

theorem exists_fit? (negative : Bool) {n scale : Nat} (small : roundHalfEven n (tenTo scale) < limit) {dropped : Nat}
    (le : dropped ≤ scale) : ∃ c, fit? negative n scale dropped = some c := by
  induction left : scale - dropped generalizing dropped with
  | zero =>
    obtain rfl : dropped = scale := by omega
    have fits : roundHalfEven n (tenTo dropped) < limit ∧ dropped - dropped ≤ 28 := ⟨small, by omega⟩
    rw [fit?, if_neg (lt_irrefl dropped)]
    simp only [ofParts?, dif_pos fits]
    exact ⟨_, rfl⟩
  | succ left' ih =>
    rw [fit?, if_neg (by omega)]
    simp only
    split
    · exact ⟨_, rfl⟩
    · exact ih (by omega) (by omega)

/-- A coefficient at a larger scale. -/
theorem abs_signed_mul_le (a : Decimal) (scale : Nat) :
    |a.signed * (tenTo (scale - a.scale) : Int)| ≤ (limit - 1 : Nat) * (tenTo scale : Int) := by
  have coefficient : |a.signed| ≤ (limit - 1 : Nat) := by
    have below := a.coefficient_lt
    unfold signed
    cases a.negative
    all_goals
      simp
      omega
  have power : (tenTo (scale - a.scale) : Int) ≤ tenTo scale := by
    exact_mod_cast Nat.pow_le_pow_right (by decide) (Nat.sub_le scale a.scale)
  rw [abs_mul, abs_of_nonneg (Int.natCast_nonneg (tenTo (scale - a.scale)))]
  exact mul_le_mul coefficient power (Int.natCast_nonneg _) (Int.natCast_nonneg _)

theorem signed_nonneg {a : Decimal} (h : 0 ≤ a.toRat) : 0 ≤ a.signed := by
  rw [toRat, le_div_iff₀ (tenTo_pos_rat _), zero_mul] at h
  exact_mod_cast h

/-- The difference of decimals that are not negative. -/
theorem exists_sub {a b : Decimal} (ha : 0 ≤ a.toRat) (hb : 0 ≤ b.toRat) : ∃ c, a.sub b = .ok c := by
  rw [sub]
  split
  · exact ⟨_, rfl⟩
  · split
    · exact ⟨_, rfl⟩
    · rw [addExact?]
      generalize Nat.max a.scale b.neg.scale = scale
      have left := abs_le.mp (abs_signed_mul_le a scale)
      have right := abs_le.mp (abs_signed_mul_le b scale)
      have left' : 0 ≤ a.signed * (tenTo (scale - a.scale) : Int) :=
        mul_nonneg (signed_nonneg ha) (Int.natCast_nonneg _)
      have right' : 0 ≤ b.signed * (tenTo (scale - b.scale) : Int) :=
        mul_nonneg (signed_nonneg hb) (Int.natCast_nonneg _)
      have small : roundHalfEven (a.signed * tenTo (scale - a.scale) +
          b.neg.signed * tenTo (scale - b.neg.scale)).natAbs (tenTo scale) < limit := by
        refine Nat.lt_of_le_pred zero_lt_limit (roundHalfEven_le (tenTo_pos scale) ?_)
        rw [signed_neg, show b.neg.scale = b.scale from rfl, neg_mul, Nat.pred_eq_sub_one, ← Int.ofNat_le,
          Int.natCast_natAbs, Int.natCast_mul, abs_le]
        constructor
        · linarith
        · linarith
      obtain ⟨c, found⟩ := exists_fit? (decide (a.signed * tenTo (scale - a.scale) +
        b.neg.signed * tenTo (scale - b.neg.scale) < 0)) small (Nat.zero_le scale)
      exact ⟨c, by rw [found]; rfl⟩

end Decimal

end Blotter
