import Mathlib
import Blotter.Decimal.Text
import Blotter.Order
import Blotter.Proofs.Decimal.Arithmetic
import Blotter.Proofs.Failure

/-!
# Executions of an order

What an order has come to after executions, one after the other, if nothing of it was filled at first.

- An execution adds to what is filled and says whether the order is filled; the average price is calculated anew
  (`applyFill_ok`).
- So what is filled is the sum of the executions, as long as no sum is rounded, the status tells whether that is the
  quantity, and what is left is the rest of it. If nothing is rounded, the average price is that of all executions
  (`executed_history`).
-/

namespace Blotter

/-- One execution of an order, and when it is heard of. -/
structure Execution where
  quantity : Decimal
  price : Decimal
  time : Instant

namespace Execution

/-- What executions come to. -/
def total (xs : List Execution) : ℚ := (xs.map fun x => x.quantity.toRat).sum

/-- What executions have cost. -/
def cost (xs : List Execution) : ℚ := (xs.map fun x => x.quantity.toRat * x.price.toRat).sum

variable {xs : List Execution}

theorem total_append (xs ys : List Execution) : total (xs ++ ys) = total xs + total ys := by
  simp [total]

theorem total_concat (xs : List Execution) (x : Execution) : total (xs ++ [x]) = total xs + x.quantity.toRat := by
  simp [total]

theorem cost_concat (xs : List Execution) (x : Execution) :
    cost (xs ++ [x]) = cost xs + x.quantity.toRat * x.price.toRat := by
  simp [cost]

theorem total_nonneg (positive : ∀ x ∈ xs, 0 < x.quantity.toRat) : 0 ≤ total xs := by
  refine List.sum_nonneg fun q hq => ?_
  obtain ⟨x, hx, rfl⟩ := List.mem_map.mp hq
  exact (positive x hx).le

end Execution

namespace Order

open Execution (total cost)

variable {o q : Order} {x : Execution} {xs : List Execution}

/-! ## One execution -/

/-- What an execution does to an order. -/
theorem applyFill_ok {quantity price : Decimal} {now : Instant} (h : o.applyFill quantity price now = .ok q) :
    o.filledQuantity.add quantity = .ok q.filledQuantity ∧
      q.status = (if o.quantity.le q.filledQuantity then .filled else .partiallyFilled) ∧
      (q.filledQuantity.isZero = false → ∃ earlier new notional avg,
        (o.avgFillPrice.getD .zero).mul o.filledQuantity = .ok earlier ∧ quantity.mul price = .ok new ∧
          earlier.add new = .ok notional ∧ notional.div q.filledQuantity = .ok avg ∧ q.avgFillPrice = some avg) ∧
      q.quantity = o.quantity ∧ q.account = o.account ∧ q.orderId = o.orderId := by
  rw [applyFill] at h
  obtain ⟨earlier, old, h⟩ := exists_of_bind_eq_ok h
  obtain ⟨filled, added, h⟩ := exists_of_bind_eq_ok h
  simp only at h
  split at h
  · rename_i empty
    obtain rfl := Except.ok.inj h
    exact ⟨added, rfl, fun filled => (Bool.eq_false_iff.mp filled empty).elim, rfl, rfl, rfl⟩
  · obtain ⟨new, value, h⟩ := exists_of_bind_eq_ok h
    obtain ⟨notional, sum, h⟩ := exists_of_bind_eq_ok h
    obtain ⟨avg, average, h⟩ := exists_of_bind_eq_ok h
    obtain rfl := Except.ok.inj h
    exact ⟨added, rfl, fun _ => ⟨earlier, new, notional, avg, old, value, sum, average, rfl⟩, rfl, rfl, rfl⟩

/-- The order after an execution. -/
def execute (o : Order) (x : Execution) : Except Overflow Order := o.applyFill x.quantity x.price x.time

/-- Whether what is filled after an execution is not rounded. -/
def SumsExactly (o : Order) (x : Execution) : Prop :=
  Decimal.Gives (o.filledQuantity.add x.quantity) (o.filledQuantity.toRat + x.quantity.toRat)

/-- Whether no step towards the average price after an execution is rounded. -/
def AveragesExactly (o : Order) (x : Execution) : Prop :=
  Decimal.Gives ((o.avgFillPrice.getD .zero).mul o.filledQuantity)
      ((o.avgFillPrice.getD .zero).toRat * o.filledQuantity.toRat) ∧
    Decimal.Gives (x.quantity.mul x.price) (x.quantity.toRat * x.price.toRat) ∧
    ∀ earlier ∈ ((o.avgFillPrice.getD .zero).mul o.filledQuantity).toOption,
      ∀ new ∈ (x.quantity.mul x.price).toOption, Decimal.Gives (earlier.add new) (earlier.toRat + new.toRat) ∧
        ∀ notional ∈ (earlier.add new).toOption, ∀ filled ∈ (o.filledQuantity.add x.quantity).toOption,
          Decimal.Gives (notional.div filled) (notional.toRat / filled.toRat)

instance (o : Order) (x : Execution) : Decidable (o.SumsExactly x) :=
  inferInstanceAs (Decidable (Decimal.Gives _ _))

instance (o : Order) (x : Execution) : Decidable (o.AveragesExactly x) :=
  inferInstanceAs (Decidable (_ ∧ _ ∧ ∀ _ ∈ _, ∀ _ ∈ _, _ ∧ ∀ _ ∈ _, ∀ _ ∈ _, Decimal.Gives _ _))

/-- The average price of what is filled is calculated from what it has cost. -/
theorem average_execute (averages : o.AveragesExactly x) (executed : o.execute x = .ok q)
    (filled : q.filledQuantity.toRat ≠ 0) : ∃ avg, q.avgFillPrice = some avg ∧
      avg.toRat * q.filledQuantity.toRat =
        (o.avgFillPrice.getD .zero).toRat * o.filledQuantity.toRat + x.quantity.toRat * x.price.toRat := by
  obtain ⟨added, -, calculated, -⟩ := applyFill_ok executed
  have nonzero : q.filledQuantity.isZero = false := by
    rw [← Bool.not_eq_true, Decimal.isZero_iff]
    exact filled
  obtain ⟨earlier, new, notional, avg, old, value, sum, average, shown⟩ := calculated nonzero
  obtain ⟨oldExact, valueExact, rest⟩ := averages
  obtain ⟨sumExact, rest⟩ := rest earlier (by rw [old]; rfl) new (by rw [value]; rfl)
  have averageExact := rest notional (by rw [sum]; rfl) q.filledQuantity (by rw [added]; rfl)
  refine ⟨avg, shown, ?_⟩
  rw [averageExact.toRat_eq average, div_mul_cancel₀ _ filled, sumExact.toRat_eq sum, oldExact.toRat_eq old,
    valueExact.toRat_eq value]

/-! ## Executions one after the other -/

theorem quantity_foldlM (executed : xs.foldlM execute o = .ok q) : q.quantity = o.quantity := by
  induction xs using List.reverseRecOn generalizing q with
  | nil => exact Except.ok.inj executed ▸ rfl
  | append_singleton xs x ih =>
    obtain ⟨r, before, last⟩ := foldlM_concat_ok executed
    obtain ⟨-, -, -, same, -⟩ := applyFill_ok last
    exact same.trans (ih before)

theorem filled_foldlM (unfilled : o.filledQuantity.isZero = true) (exact : HoldsAlong execute SumsExactly o xs)
    (executed : xs.foldlM execute o = .ok q) : q.filledQuantity.toRat = total xs := by
  induction xs using List.reverseRecOn generalizing q with
  | nil =>
    obtain rfl := Except.ok.inj executed
    exact Decimal.isZero_iff.mp unfilled
  | append_singleton xs x ih =>
    obtain ⟨r, before, last⟩ := foldlM_concat_ok executed
    obtain ⟨exact, exactLast⟩ := exact.of_concat
    obtain ⟨added, -⟩ := applyFill_ok last
    rw [(exactLast r before).toRat_eq added, ih exact before, Execution.total_concat]

/-- The last execution says whether the order is filled. -/
theorem status_foldlM (nonempty : xs ≠ []) (executed : xs.foldlM execute o = .ok q) :
    q.status = if o.quantity.toRat ≤ q.filledQuantity.toRat then .filled else .partiallyFilled := by
  rcases List.eq_nil_or_concat xs with rfl | ⟨front, x, rfl⟩
  · exact absurd rfl nonempty
  · rw [List.concat_eq_append] at executed
    obtain ⟨r, before, last⟩ := foldlM_concat_ok executed
    obtain ⟨-, status, -⟩ := applyFill_ok last
    rw [status, quantity_foldlM before]
    simp only [Decimal.le_iff]

/-- The average price of what is filled, times that, is what the executions have cost. -/
theorem average_foldlM (unfilled : o.filledQuantity.isZero = true) (positive : ∀ x ∈ xs, 0 < x.quantity.toRat)
    (exact : HoldsAlong execute SumsExactly o xs) (averages : HoldsAlong execute AveragesExactly o xs)
    (executed : xs.foldlM execute o = .ok q) :
    (q.avgFillPrice.getD .zero).toRat * q.filledQuantity.toRat = cost xs ∧
      (xs ≠ [] → q.avgFillPrice.isSome = true) := by
  induction xs using List.reverseRecOn generalizing q with
  | nil =>
    obtain rfl := Except.ok.inj executed
    rw [Decimal.isZero_iff.mp unfilled, mul_zero]
    exact ⟨rfl, fun nonempty => absurd rfl nonempty⟩
  | append_singleton xs x ih =>
    obtain ⟨r, before, last⟩ := foldlM_concat_ok executed
    obtain ⟨averages, averagesLast⟩ := averages.of_concat
    have positive' (y : Execution) (hy : y ∈ xs) : 0 < y.quantity.toRat := positive y (by simp [hy])
    have filled : 0 < q.filledQuantity.toRat := by
      rw [filled_foldlM unfilled exact executed, Execution.total_concat]
      exact add_pos_of_nonneg_of_pos (Execution.total_nonneg positive') (positive x (by simp))
    obtain ⟨avg, shown, average⟩ := average_execute (averagesLast r before) last filled.ne'
    rw [shown, Option.getD_some, average, (ih positive' exact.of_concat.1 averages before).1, Execution.cost_concat]
    exact ⟨rfl, fun _ => rfl⟩

/-- What is left of an order is what is not filled of its quantity, and there always is such a number. -/
theorem exists_leaves (whole : 0 ≤ o.quantity.toRat) (filled : 0 ≤ o.filledQuantity.toRat) :
    ∃ rest, o.leaves = .ok rest ∧
      (Decimal.Gives (o.quantity.sub o.filledQuantity) (o.quantity.toRat - o.filledQuantity.toRat) →
        rest.toRat = max (o.quantity.toRat - o.filledQuantity.toRat) 0) := by
  obtain ⟨c, difference⟩ := Decimal.exists_sub whole filled
  refine ⟨c.max .zero, ?_, fun exact => ?_⟩
  · rw [leaves, difference]
    rfl
  · rw [Decimal.toRat_max, Decimal.toRat_zero, exact.toRat_eq difference]

/-- What executions make of an order of which nothing is filled at first. -/
theorem executed_history (unfilled : o.filledQuantity.isZero = true) (whole : 0 < o.quantity.toRat) (nonempty : xs ≠ [])
    (positive : ∀ x ∈ xs, 0 < x.quantity.toRat) (exact : HoldsAlong execute SumsExactly o xs)
    (executed : xs.foldlM execute o = .ok q) :
    q.filledQuantity.toRat = total xs ∧
      q.status = (if o.quantity.toRat ≤ total xs then .filled else .partiallyFilled) ∧
      (∀ earlier later r, xs = earlier ++ later → earlier ≠ [] → earlier.foldlM execute o = .ok r →
        r.status = .filled → q.status = .filled) ∧
      (∃ rest, q.leaves = .ok rest ∧
        (Decimal.Gives (q.quantity.sub q.filledQuantity) (q.quantity.toRat - q.filledQuantity.toRat) →
          rest.toRat = max (o.quantity.toRat - total xs) 0)) ∧
      (HoldsAlong execute AveragesExactly o xs → ∃ avg, q.avgFillPrice = some avg ∧
        avg.toRat * q.filledQuantity.toRat = cost xs) := by
  have filled := filled_foldlM unfilled exact executed
  have quantity := quantity_foldlM executed
  refine ⟨filled, filled ▸ status_foldlM nonempty executed, ?_, ?_, fun averages => ?_⟩
  · rintro earlier later r rfl started before closed
    have reached : o.quantity.toRat ≤ total earlier := by
      rw [status_foldlM started before, filled_foldlM unfilled exact.of_append before] at closed
      by_contra short
      rw [if_neg short] at closed
      cases closed
    have more : 0 ≤ total later := Execution.total_nonneg fun x hx => positive x (List.mem_append_right _ hx)
    rw [status_foldlM nonempty executed, filled, Execution.total_append, if_pos (by linarith)]
  · have rest := exists_leaves (quantity ▸ whole.le) (filled ▸ Execution.total_nonneg positive)
    rwa [quantity, filled] at rest ⊢
  · obtain ⟨average, shown⟩ := average_foldlM unfilled positive exact averages executed
    obtain ⟨avg, found⟩ := Option.isSome_iff_exists.mp (shown nonempty)
    rw [found] at average
    exact ⟨avg, found, average⟩

/-- An order of ten units. -/
def tenUnits : Order :=
  .limit ⟨"o"⟩ ⟨"A"⟩ ⟨"S"⟩ ⟨"I"⟩ .buy ((Decimal.ofText? "10.0").getD .zero) ((Decimal.ofText? "1").getD .zero) .epoch

/-- An execution, with quantity and price as texts. -/
def execution (quantity price : String) : Execution :=
  ⟨(Decimal.ofText? quantity).getD .zero, (Decimal.ofText? price).getD .zero, .epoch⟩

/-- Executions of fifteen units at rising prices. -/
def exampleExecutions : List Execution := [execution "4" "100", execution "6.00" "110", execution "5" "115.0"]

theorem executed_history_exampleExecutions : ∃ q avg, exampleExecutions.foldlM execute tenUnits = .ok q ∧
    q.filledQuantity.toRat = 15 ∧ q.status = .filled ∧ q.avgFillPrice = some avg ∧
      avg.toRat * q.filledQuantity.toRat = 1635 := by
  have ends : (exampleExecutions.foldlM execute tenUnits).isOk = true := by decide +kernel
  have positive : ∀ x ∈ exampleExecutions, 0 < x.quantity.toRat := by decide +kernel
  have sums : HoldsAlong execute SumsExactly tenUnits exampleExecutions := by decide +kernel
  have averages : HoldsAlong execute AveragesExactly tenUnits exampleExecutions := by decide +kernel
  have whole : tenUnits.quantity.toRat = 10 := by decide +kernel
  have all : total exampleExecutions = 15 := by decide +kernel
  have paid : cost exampleExecutions = 1635 := by decide +kernel
  obtain ⟨q, executed⟩ := exists_of_isOk ends
  obtain ⟨filled, status, -, -, average⟩ :=
    executed_history rfl (by rw [whole]; norm_num) (by decide) positive sums executed
  obtain ⟨avg, shown, average⟩ := average averages
  rw [whole, all, if_pos (by norm_num)] at status
  exact ⟨q, avg, executed, filled.trans all, status, shown, average.trans paid⟩

end Order

end Blotter
