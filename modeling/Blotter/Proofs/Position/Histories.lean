import Mathlib
import Blotter.Proofs.Position

/-!
# Histories of a position

What a position has come to after fills that are booked one after the other, nothing held at first.

- As long as no sum of quantities is rounded, each fill takes the position one of four ways, and which one can be told
  from the quantities before and after it (`applyFill_cases`).
- So the quantity is the signed sum of the fills, the average price of nothing is zero, a fill that shrinks the position
  keeps the average price, and one that flips it sets the average price to its own price. If the average prices are not
  rounded either, they lie between the lowest and the highest price of the fills since the position last left zero or
  changed its sign (`booked_history`).
-/

namespace Blotter

/-! ## What fills come to -/

/-- What a fill adds to what is held: bought units count positive and sold ones negative. -/
def Fill.signedQuantity (f : Fill) : ℚ := f.side.sign * f.quantity.toRat

/-- What fills come to, all of them in one position. -/
def Fill.signedSum (fills : List Fill) : ℚ := (fills.map signedQuantity).sum

theorem Fill.signedSum_concat (fills : List Fill) (f : Fill) :
    signedSum (fills ++ [f]) = signedSum fills + f.signedQuantity := by
  simp [signedSum]

/-- What is held, and the fills since it last left zero or changed its sign. -/
structure Holding where
  quantity : ℚ
  fills : List Fill

namespace Holding

/-- Nothing is held. -/
def none : Holding := ⟨0, []⟩

/-- What is held after one more fill. -/
def after (h : Holding) (f : Fill) : Holding :=
  let quantity := h.quantity + f.signedQuantity
  ⟨quantity, if 0 < h.quantity * quantity then h.fills ++ [f] else [f]⟩

/-- What is held after fills. -/
def ofFills (fills : List Fill) : Holding := fills.foldl after none

theorem ofFills_concat (fills : List Fill) (f : Fill) : ofFills (fills ++ [f]) = (ofFills fills).after f :=
  List.foldl_concat ..

theorem quantity_ofFills (fills : List Fill) : (ofFills fills).quantity = Fill.signedSum fills := by
  induction fills using List.reverseRecOn with
  | nil => rfl
  | append_singleton fills f ih => rw [ofFills_concat, after, ih, Fill.signedSum_concat]

end Holding

namespace Position

variable {p q : Position} {fills : List Fill} {f : Fill} {next avg : Decimal}

/-! ## One fill -/

/-- Whether the quantity after a fill is not rounded. -/
def SumsExactly (p : Position) (f : Fill) : Prop :=
  Decimal.Gives (p.quantity.add (f.side.signed f.quantity)) (p.quantity.toRat + f.signedQuantity)

/-- Whether no step towards the average price after a fill is rounded, if it is calculated. -/
def AveragesExactly (p : Position) (f : Fill) : Prop :=
  p.grows f.side f.quantity = true →
    Decimal.Gives (p.avgPrice.mul p.quantity.abs) (p.avgPrice.toRat * |p.quantity.toRat|) ∧
    Decimal.Gives (f.price.mul f.quantity) (f.price.toRat * f.quantity.toRat) ∧
    ∀ held ∈ (p.avgPrice.mul p.quantity.abs).toOption, ∀ added ∈ (f.price.mul f.quantity).toOption,
      Decimal.Gives (held.add added) (held.toRat + added.toRat) ∧
      ∀ notional ∈ (held.add added).toOption, ∀ next ∈ (p.quantity.add (f.side.signed f.quantity)).toOption,
        Decimal.Gives (notional.div next.abs) (notional.toRat / |next.toRat|)

instance (p : Position) (f : Fill) : Decidable (p.SumsExactly f) :=
  inferInstanceAs (Decidable (Decimal.Gives _ _))

instance (p : Position) (f : Fill) : Decidable (p.AveragesExactly f) :=
  inferInstanceAs (Decidable (_ → _ ∧ _ ∧ ∀ _ ∈ _, ∀ _ ∈ _, _ ∧ ∀ _ ∈ _, ∀ _ ∈ _, Decimal.Gives _ _))

/-- A fill adds to what is held if it does not take away from it. -/
theorem grows_iff (positive : 0 < f.quantity.toRat) :
    p.grows f.side f.quantity = true ↔ 0 ≤ p.quantity.toRat * f.signedQuantity := by
  have delta : (f.side.signed f.quantity).toRat = f.signedQuantity := Side.toRat_signed ..
  have moves : (f.side.signed f.quantity).isZero = false := by
    rw [← Bool.not_eq_true, Decimal.isZero_iff, delta, Fill.signedQuantity]
    cases f.side <;> simp [Side.sign, positive.ne']
  rw [grows]
  cases empty : p.quantity.isZero with
  | true => simp [Decimal.isZero_iff.mp empty]
  | false =>
    have nonzero : p.quantity.toRat * f.signedQuantity ≠ 0 :=
      mul_ne_zero (Decimal.toRat_ne_zero empty) (delta ▸ Decimal.toRat_ne_zero moves)
    rw [Bool.false_or, beq_iff_eq, Decimal.isNegative_eq_iff empty moves, delta]
    exact nonzero.symm.le_iff_lt.symm

/-- The four ways of a fill: nothing is left, more is held, less is held, or the sign changes. -/
theorem applyFill_cases (positive : 0 < f.quantity.toRat) (exact : p.SumsExactly f) (booked : p.applyFill f = .ok q) :
    q.quantity.toRat = p.quantity.toRat + f.signedQuantity ∧
      (q.quantity.toRat = 0 ∧ q.avgPrice.isZero = true ∨
        0 ≤ p.quantity.toRat * f.signedQuantity ∧ q.quantity.toRat ≠ 0 ∧ (p.AveragesExactly f → q.avgPrice.toRat =
          (p.avgPrice.toRat * |p.quantity.toRat| + f.price.toRat * f.quantity.toRat) / |q.quantity.toRat|) ∨
        p.quantity.toRat * q.quantity.toRat < 0 ∧ q.avgPrice = f.price ∨
        0 < p.quantity.toRat * q.quantity.toRat ∧ q.avgPrice = p.avgPrice) := by
  obtain ⟨sum, averages, -⟩ := apply_ok booked
  refine ⟨exact.toRat_eq sum, ?_⟩
  have holding (less : p.grows f.side f.quantity = false) : p.quantity.isZero = false :=
    (Bool.or_eq_false_iff.mp less).1
  generalize average : q.avgPrice = avg at averages
  cases averages with
  | emptied empty => exact .inl ⟨Decimal.isZero_iff.mp empty, rfl⟩
  | @grown held added notional avg more holds old new total quotient =>
    refine .inr (.inl ⟨(grows_iff positive).mp more, Decimal.toRat_ne_zero holds, fun calculated => ?_⟩)
    obtain ⟨oldExact, newExact, rest⟩ := calculated more
    obtain ⟨totalExact, rest⟩ := rest held (by rw [old]; rfl) added (by rw [new]; rfl)
    have quotientExact := rest notional (by rw [total]; rfl) q.quantity (by rw [sum]; rfl)
    rw [quotientExact.toRat_eq quotient, totalExact.toRat_eq total, oldExact.toRat_eq old, newExact.toRat_eq new]
  | flipped less holds turned =>
    have nonzero : p.quantity.toRat * q.quantity.toRat ≠ 0 :=
      mul_ne_zero (Decimal.toRat_ne_zero (holding less)) (Decimal.toRat_ne_zero holds)
    refine .inr (.inr (.inl ⟨lt_of_le_of_ne (not_lt.mp fun same => ?_) nonzero, rfl⟩))
    exact turned ((Decimal.isNegative_eq_iff (holding less) holds).mpr same).symm
  | shrunk less holds stays =>
    exact .inr (.inr (.inr ⟨(Decimal.isNegative_eq_iff (holding less) holds).mp stays.symm, rfl⟩))

/-- Nothing has no average price. -/
theorem avgPrice_of_empty (positive : 0 < f.quantity.toRat) (exact : p.SumsExactly f)
    (booked : p.applyFill f = .ok q) (empty : q.quantity.toRat = 0) : q.avgPrice.isZero = true := by
  obtain ⟨-, ⟨-, free⟩ | ⟨-, holds, -⟩ | ⟨turned, -⟩ | ⟨stays, -⟩⟩ := applyFill_cases positive exact booked
  · exact free
  · exact absurd empty holds
  · exact absurd empty (right_ne_zero_of_mul turned.ne)
  · exact absurd empty (right_ne_zero_of_mul stays.ne')

/-- A fill that leaves less of what is held keeps the average price. -/
theorem avgPrice_of_shrinks (positive : 0 < f.quantity.toRat) (exact : p.SumsExactly f)
    (booked : p.applyFill f = .ok q) (stays : 0 < p.quantity.toRat * q.quantity.toRat)
    (less : |q.quantity.toRat| < |p.quantity.toRat|) : q.avgPrice = p.avgPrice := by
  obtain ⟨sum, ⟨empty, -⟩ | ⟨more, -, -⟩ | ⟨turned, -⟩ | ⟨-, kept⟩⟩ := applyFill_cases positive exact booked
  · exact absurd empty (right_ne_zero_of_mul stays.ne')
  · rw [sum, (abs_add_eq_add_abs_iff _ _).mpr (mul_nonneg_iff.mp more)] at less
    linarith [abs_nonneg f.signedQuantity]
  · exact absurd stays turned.not_gt
  · exact kept

/-- A fill that changes the sign of what is held sets the average price. -/
theorem avgPrice_of_flips (positive : 0 < f.quantity.toRat) (exact : p.SumsExactly f)
    (booked : p.applyFill f = .ok q) (turned : p.quantity.toRat * q.quantity.toRat < 0) : q.avgPrice = f.price := by
  obtain ⟨sum, ⟨empty, -⟩ | ⟨more, -, -⟩ | ⟨-, set⟩ | ⟨stays, -⟩⟩ := applyFill_cases positive exact booked
  · exact absurd empty (right_ne_zero_of_mul turned.ne)
  · rw [sum, mul_add] at turned
    linarith [mul_self_nonneg p.quantity.toRat]
  · exact set
  · exact absurd stays turned.not_gt

/-! ## Average prices between others -/

/-- Whether a price lies between the lowest and the highest price of fills. -/
def Between (price : ℚ) (fills : List Fill) : Prop :=
  ∃ low ∈ fills, ∃ high ∈ fills, low.price.toRat ≤ price ∧ price ≤ high.price.toRat

/-- A weighted average lies between the two prices. -/
theorem average_bounds {a b v w : ℚ} (le : a ≤ b) (hv : 0 ≤ v) (hw : 0 ≤ w) (pos : 0 < v + w) :
    a ≤ (a * v + b * w) / (v + w) ∧ (a * v + b * w) / (v + w) ≤ b := by
  constructor
  · rw [le_div_iff₀ pos, mul_add]
    linarith [mul_le_mul_of_nonneg_right le hw]
  · rw [div_le_iff₀ pos, mul_add]
    linarith [mul_le_mul_of_nonneg_right le hv]

theorem Between.single (f : Fill) : Between f.price.toRat [f] :=
  ⟨f, List.mem_singleton_self f, f, List.mem_singleton_self f, le_rfl, le_rfl⟩

theorem Between.concat {price : ℚ} (h : Between price fills) (f : Fill) : Between price (fills ++ [f]) := by
  obtain ⟨low, hlow, high, hhigh, bounds⟩ := h
  exact ⟨low, List.mem_append_left _ hlow, high, List.mem_append_left _ hhigh, bounds⟩

/-- An average with the price of one more fill. -/
theorem Between.average {price v w : ℚ} (h : Between price fills) (f : Fill) (hv : 0 ≤ v) (hw : 0 < w) :
    Between ((price * v + f.price.toRat * w) / (v + w)) (fills ++ [f]) := by
  obtain ⟨low, hlow, high, hhigh, above, below⟩ := h
  have hlow := List.mem_append_left [f] hlow
  have hhigh := List.mem_append_left [f] hhigh
  have hf : f ∈ fills ++ [f] := List.mem_append_right _ (List.mem_singleton_self f)
  have pos : 0 < v + w := add_pos_of_nonneg_of_pos hv hw
  rcases le_total price f.price.toRat with le | le
  · obtain ⟨least, most⟩ := average_bounds le hv hw.le pos
    exact ⟨low, hlow, f, hf, above.trans least, most⟩
  · obtain ⟨least, most⟩ := average_bounds le hw.le hv (by rwa [add_comm])
    rw [add_comm (f.price.toRat * w), add_comm w] at least most
    exact ⟨f, hf, high, hhigh, least, most.trans below⟩

/-- The price at which a position is entered lies between the prices of the fills since, after one more fill. -/
theorem between_applyFill (positive : 0 < f.quantity.toRat) (exact : p.SumsExactly f) (averages : p.AveragesExactly f)
    (booked : p.applyFill f = .ok q) {held : Holding} (same : held.quantity = p.quantity.toRat)
    (before : p.quantity.toRat ≠ 0 → Between p.avgPrice.toRat held.fills) (holds : q.quantity.toRat ≠ 0) :
    Between q.avgPrice.toRat (held.after f).fills := by
  obtain ⟨sum, ways⟩ := applyFill_cases positive exact booked
  rw [Holding.after, same, ← sum]
  rcases ways with ⟨empty, -⟩ | ⟨more, -, average⟩ | ⟨turned, set⟩ | ⟨stays, kept⟩
  · exact absurd empty holds
  · have size : |f.signedQuantity| = f.quantity.toRat := by
      rw [Fill.signedQuantity, abs_mul, abs_of_pos positive]
      cases f.side <;> simp [Side.sign]
    rw [average averages]
    by_cases empty : p.quantity.toRat = 0
    · rw [if_neg (by rw [empty, zero_mul]; exact lt_irrefl 0), sum, empty, zero_add, abs_zero, mul_zero, zero_add, size,
        mul_div_cancel_right₀ _ positive.ne']
      exact .single f
    · have stays : 0 < p.quantity.toRat * q.quantity.toRat := by
        rw [sum, mul_add]
        linarith [mul_self_pos.mpr empty]
      rw [if_pos stays, sum, (abs_add_eq_add_abs_iff _ _).mpr (mul_nonneg_iff.mp more), size]
      exact (before empty).average f (abs_nonneg _) positive
  · rw [if_neg turned.not_gt, set]
    exact .single f
  · rw [if_pos stays, kept]
    exact (before (left_ne_zero_of_mul stays.ne')).concat f

/-! ## Fills one after the other -/

theorem quantity_foldlM (flat : p.isFlat = true) (positive : ∀ f ∈ fills, 0 < f.quantity.toRat)
    (exact : HoldsAlong applyFill SumsExactly p fills) (booked : fills.foldlM applyFill p = .ok q) :
    q.quantity.toRat = Fill.signedSum fills := by
  induction fills using List.reverseRecOn generalizing q with
  | nil =>
    obtain rfl := Except.ok.inj booked
    exact Decimal.isZero_iff.mp flat
  | append_singleton fills f ih =>
    obtain ⟨r, before, last⟩ := foldlM_concat_ok booked
    obtain ⟨exact, exactLast⟩ := exact.of_concat
    have sum := (applyFill_cases (positive f (by simp)) (exactLast r before) last).1
    rw [sum, ih (fun g hg => positive g (by simp [hg])) exact before, Fill.signedSum_concat]

/-- What is held when it is not nothing has been entered at a price between those of the fills since. -/
theorem between_foldlM (flat : p.isFlat = true) (positive : ∀ f ∈ fills, 0 < f.quantity.toRat)
    (exact : HoldsAlong applyFill SumsExactly p fills) (averages : HoldsAlong applyFill AveragesExactly p fills)
    (booked : fills.foldlM applyFill p = .ok q) (holds : q.quantity.toRat ≠ 0) :
    Between q.avgPrice.toRat (Holding.ofFills fills).fills := by
  induction fills using List.reverseRecOn generalizing q with
  | nil =>
    obtain rfl := Except.ok.inj booked
    exact absurd (Decimal.isZero_iff.mp flat) holds
  | append_singleton fills f ih =>
    obtain ⟨r, before, last⟩ := foldlM_concat_ok booked
    obtain ⟨exact, exactLast⟩ := exact.of_concat
    obtain ⟨averages, averagesLast⟩ := averages.of_concat
    have positive' (g : Fill) (hg : g ∈ fills) : 0 < g.quantity.toRat := positive g (by simp [hg])
    have same : (Holding.ofFills fills).quantity = r.quantity.toRat := by
      rw [Holding.quantity_ofFills, quantity_foldlM flat positive' exact before]
    rw [Holding.ofFills_concat]
    exact between_applyFill (positive f (by simp)) (exactLast r before) (averagesLast r before) last same
      (ih positive' exact averages before) holds

/-- What fills make of a position that is flat at first. -/
theorem booked_history (flat : p.isFlat = true) (free : p.avgPrice.isZero = true)
    (positive : ∀ f ∈ fills, 0 < f.quantity.toRat) (exact : HoldsAlong applyFill SumsExactly p fills)
    (booked : fills.foldlM applyFill p = .ok q) :
    q.quantity.toRat = Fill.signedSum fills ∧
      (Fill.signedSum fills = 0 → q.avgPrice.isZero = true) ∧
      (∀ earlier f, fills = earlier ++ [f] → ∃ r, earlier.foldlM applyFill p = .ok r ∧
        (0 < Fill.signedSum earlier * Fill.signedSum fills → |Fill.signedSum fills| < |Fill.signedSum earlier| →
          q.avgPrice = r.avgPrice) ∧
        (Fill.signedSum earlier * Fill.signedSum fills < 0 → q.avgPrice = f.price)) ∧
      (HoldsAlong applyFill AveragesExactly p fills → Fill.signedSum fills ≠ 0 →
        Between q.avgPrice.toRat (Holding.ofFills fills).fills) := by
  have sum := quantity_foldlM flat positive exact booked
  refine ⟨sum, fun empty => ?_, ?_, fun averages holds => ?_⟩
  · rcases List.eq_nil_or_concat fills with rfl | ⟨earlier, f, rfl⟩
    · exact Except.ok.inj booked ▸ free
    · rw [List.concat_eq_append] at exact booked positive
      obtain ⟨r, before, last⟩ := foldlM_concat_ok booked
      exact avgPrice_of_empty (positive f (by simp)) (exact.of_concat.2 r before) last (sum.trans empty)
  · rintro earlier f rfl
    obtain ⟨r, before, last⟩ := foldlM_concat_ok booked
    obtain ⟨exact, exactLast⟩ := exact.of_concat
    rw [← sum, ← quantity_foldlM flat (fun g hg => positive g (by simp [hg])) exact before]
    exact ⟨r, before, avgPrice_of_shrinks (positive f (by simp)) (exactLast r before) last,
      avgPrice_of_flips (positive f (by simp)) (exactLast r before) last⟩
  · exact between_foldlM flat positive exact averages booked (sum ▸ holds)

/-- A fill of a position, with quantity and price as texts. -/
def trade (side : Side) (quantity price : String) : Fill :=
  ⟨⟨"e"⟩, ⟨"o"⟩, ⟨"A"⟩, ⟨"S"⟩, ⟨"I"⟩, side, (Decimal.ofText? quantity).getD .zero, (Decimal.ofText? price).getD .zero,
    .epoch⟩

/-- Units that are bought, sold again and sold short, in the end at prices below zero. -/
def exampleTrades : List Fill :=
  [trade .buy "2" "100", trade .buy "2.0" "110.0", trade .sell "1" "120", trade .sell "5" "-90",
    trade .sell "2" "-94.5"]

theorem booked_history_exampleTrades : ∃ q, exampleTrades.foldlM applyFill (.flat ⟨⟨"A"⟩, ⟨"S"⟩, ⟨"I"⟩⟩) = .ok q ∧
    q.quantity.toRat = -4 ∧ Between q.avgPrice.toRat (exampleTrades.drop 3) := by
  have ends : (exampleTrades.foldlM applyFill (.flat ⟨⟨"A"⟩, ⟨"S"⟩, ⟨"I"⟩⟩)).isOk = true := by decide +kernel
  have positive : ∀ f ∈ exampleTrades, 0 < f.quantity.toRat := by decide +kernel
  have sums : HoldsAlong applyFill SumsExactly (.flat ⟨⟨"A"⟩, ⟨"S"⟩, ⟨"I"⟩⟩) exampleTrades := by decide +kernel
  have averages : HoldsAlong applyFill AveragesExactly (.flat ⟨⟨"A"⟩, ⟨"S"⟩, ⟨"I"⟩⟩) exampleTrades := by decide +kernel
  have total : Fill.signedSum exampleTrades = -4 := by decide +kernel
  have since : (Holding.ofFills exampleTrades).fills = exampleTrades.drop 3 := by decide +kernel
  obtain ⟨q, booked⟩ := exists_of_isOk ends
  obtain ⟨sum, -, -, between⟩ := booked_history rfl rfl positive sums booked
  rw [total, since] at between
  exact ⟨q, booked, sum.trans total, between averages (by norm_num)⟩

end Position

end Blotter
