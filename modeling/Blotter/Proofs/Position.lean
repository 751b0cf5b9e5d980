import Mathlib
import Blotter.Position
import Blotter.Proofs.Decimal.Text
import Blotter.Proofs.Decimal.Value
import Blotter.Proofs.Failure

/-!
# Positions and fills

A fill adds to the quantity of a position, and the average price is calculated, kept, replaced or given up
(`Averages`, `apply_ok`).

A quotient never is a negative zero, so the average price of a position has no such sign (`apply_avgPrice_isPlain`). The
quantity may have one, but a later fill does not look at it (`apply_withPlainZero`), and it would not look at the one of
an average price either (`map_apply_withPlainZeros`).
-/

namespace Blotter

namespace Decimal

variable {a b c : Decimal}

theorem isPlain_ofParts? {negative : Bool} {coefficient scale : Nat}
    (h : ofParts? (negative && coefficient != 0) coefficient scale = some c) : c.IsPlain := by
  rw [ofParts?] at h
  split at h
  · obtain rfl := Option.some.inj h
    intro zero
    simp only [isZero, beq_iff_eq] at zero
    simp [zero]
  · exact absurd h (by simp)

theorem isPlain_zero : zero.IsPlain := fun _ => rfl

theorem isPlain_div (h : a.div b = .ok c) : c.IsPlain := by
  rw [div] at h
  split at h
  · exact absurd h (by simp)
  · split at h
    · exact Except.ok.inj h ▸ isPlain_zero
    · simp only at h
      split at h
      · exact absurd h (by simp)
      · rename_i q s inexact _
        generalize (if inexact = true then trimQuotient (q, s) else (q, s)) = trimmed at h
        generalize hf : ofParts? ((a.negative != b.negative) && trimmed.1 != 0) trimmed.1 trimmed.2 = quotient at h
        cases quotient with
        | none => exact absurd h (by simp)
        | some d => exact Except.ok.inj h ▸ isPlain_ofParts? hf

theorem withPlainZero_withPlainZero (a : Decimal) : a.withPlainZero.withPlainZero = a.withPlainZero :=
  withPlainZero_of_isPlain a.isPlain_withPlainZero

/-- A product with a zero is the plain zero in any case. -/
theorem mul_withPlainZero (a b : Decimal) : a.withPlainZero.mul b = a.mul b := by
  by_cases zero : a.isZero = true
  · have zero' : a.withPlainZero.isZero = true := zero
    rw [mul, mul, zero, zero']
    rfl
  · rw [withPlainZero_of_isPlain fun isZero => absurd isZero zero]

theorem add_of_isZero (h : a.isZero = true) (b : Decimal) : a.add b = .ok b := by rw [add, if_pos h]

end Decimal

namespace Side

/-- The sign of what is bought or sold. -/
def sign : Side → ℚ
  | .buy => 1
  | .sell => -1

theorem toRat_signed (side : Side) (quantity : Decimal) :
    (side.signed quantity).toRat = side.sign * quantity.toRat := by
  cases side with
  | buy => exact (one_mul _).symm
  | sell => exact (Decimal.toRat_neg quantity).trans (neg_one_mul _).symm

end Side

namespace Position

variable {p p' : Position} {side : Side} {quantity price : Decimal}

/-- A fill does not look at the sign of a zero quantity. -/
theorem apply_withPlainZero (p : Position) (side : Side) (quantity price : Decimal) :
    ({ p with quantity := p.quantity.withPlainZero } : Position).apply side quantity price =
      p.apply side quantity price := by
  by_cases zero : p.quantity.isZero = true
  · have zero' : p.quantity.withPlainZero.isZero = true := zero
    simp only [apply, Decimal.add_of_isZero zero, Decimal.add_of_isZero zero', zero, zero', Bool.true_or, if_true]
    rfl
  · rw [Decimal.withPlainZero_of_isPlain fun isZero => absurd isZero zero]

/-- The position without the signs of its zeros. -/
def withPlainZeros (p : Position) : Position := { p with
  quantity := p.quantity.withPlainZero
  avgPrice := p.avgPrice.withPlainZero }

/-- The signs of zeros make no difference to a fill but for the sign of a zero average price that stays. -/
theorem map_apply_withPlainZeros (p : Position) (side : Side) (quantity price : Decimal) :
    (p.withPlainZeros.apply side quantity price).map withPlainZeros =
      (p.apply side quantity price).map withPlainZeros := by
  have quantities : p.withPlainZeros.apply side quantity price =
      ({ p with avgPrice := p.avgPrice.withPlainZero } : Position).apply side quantity price :=
    apply_withPlainZero { p with avgPrice := p.avgPrice.withPlainZero } side quantity price
  rw [quantities]
  simp only [apply, Decimal.mul_withPlainZero]
  cases p.quantity.add (side.signed quantity) with
  | error o => rfl
  | ok next =>
    simp only [bind, Except.bind]
    split
    · rfl
    · split
      · rfl
      · split
        · rfl
        · simp only [pure, Except.pure, Except.map, withPlainZeros, Decimal.withPlainZero_withPlainZero]

/-! ## What a fill does -/

/-- Whether a fill adds to what is held: the signs are the same, or nothing is held. -/
def grows (p : Position) (side : Side) (quantity : Decimal) : Bool :=
  p.quantity.isZero || p.quantity.isNegative == (side.signed quantity).isNegative

/-- The average price after a fill that makes `next` of the quantity. -/
inductive Averages (p : Position) (side : Side) (quantity price next : Decimal) : Decimal → Prop
  | emptied (empty : next.isZero = true) : Averages p side quantity price next .zero
  | grown {held added notional avg : Decimal} (more : p.grows side quantity = true) (holds : next.isZero = false)
      (old : p.avgPrice.mul p.quantity.abs = .ok held) (new : price.mul quantity = .ok added)
      (sum : held.add added = .ok notional) (average : notional.div next.abs = .ok avg) :
      Averages p side quantity price next avg
  | flipped (less : p.grows side quantity = false) (holds : next.isZero = false)
      (turned : next.isNegative ≠ p.quantity.isNegative) : Averages p side quantity price next price
  | shrunk (less : p.grows side quantity = false) (holds : next.isZero = false)
      (stays : next.isNegative = p.quantity.isNegative) : Averages p side quantity price next p.avgPrice

/-- A fill adds its quantity, with the sign of its side, and leaves the position under its key. -/
theorem apply_ok (h : p.apply side quantity price = .ok p') :
    p.quantity.add (side.signed quantity) = .ok p'.quantity ∧
      Averages p side quantity price p'.quantity p'.avgPrice ∧ p'.key = p.key := by
  rw [apply] at h
  obtain ⟨next, added, h⟩ := exists_of_bind_eq_ok h
  split at h
  · rename_i more
    obtain ⟨held, old, h⟩ := exists_of_bind_eq_ok h
    obtain ⟨value, new, h⟩ := exists_of_bind_eq_ok h
    obtain ⟨notional, sum, h⟩ := exists_of_bind_eq_ok h
    simp only at h
    split at h
    · rename_i empty
      exact Except.ok.inj h ▸ ⟨added, .emptied empty, rfl⟩
    · rename_i holds
      obtain ⟨avg, average, h⟩ := exists_of_bind_eq_ok h
      exact Except.ok.inj h ▸ ⟨added, .grown more (by simpa using holds) old new sum average, rfl⟩
  · rename_i less
    have less : p.grows side quantity = false := by simpa [grows] using less
    split at h
    · rename_i empty
      exact Except.ok.inj h ▸ ⟨added, .emptied empty, rfl⟩
    · rename_i holds
      have holds : next.isZero = false := by simpa using holds
      split at h
      · rename_i turned
        exact Except.ok.inj h ▸ ⟨added, .flipped less holds (bne_iff_ne.mp turned), rfl⟩
      · rename_i stays
        exact Except.ok.inj h ▸ ⟨added, .shrunk less holds (by simpa using stays), rfl⟩

/-- A fill leaves the position under its key. -/
theorem key_apply (h : p.apply side quantity price = .ok p') : p'.key = p.key := (apply_ok h).2.2

/-- The average price is no negative zero if none of the prices is. -/
theorem apply_avgPrice_isPlain (h : p.apply side quantity price = .ok p') (old : p.avgPrice.IsPlain)
    (new : price.IsPlain) : p'.avgPrice.IsPlain := by
  obtain ⟨-, averages, -⟩ := apply_ok h
  generalize p'.avgPrice = avg at averages
  cases averages with
  | emptied => exact Decimal.isPlain_zero
  | grown _ _ _ _ _ average => exact Decimal.isPlain_div average
  | flipped => exact new
  | shrunk => exact old

end Position

end Blotter
