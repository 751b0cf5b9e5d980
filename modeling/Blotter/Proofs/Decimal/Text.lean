import Mathlib
import Blotter.Decimal.Text
import Blotter.Proofs.Text.Numeral

/-!
# Decimals read back

The text of a decimal is read as the same decimal, coefficient and scale included (`parse_text`). Only the sign of a
zero is lost: a zero is read without one (`withPlainZero`).
-/

namespace Blotter.Decimal

open Numeral

/-! ## Plain zeros -/

/-- The same decimal, where a zero carries no sign. -/
def withPlainZero (a : Decimal) : Decimal := { a with negative := a.negative && a.coefficient != 0 }

/-- Whether the decimal is no negative zero. -/
def IsPlain (a : Decimal) : Prop := a.isZero = true → a.negative = false

instance (a : Decimal) : Decidable a.IsPlain := inferInstanceAs (Decidable (_ → _))

theorem withPlainZero_of_isPlain {a : Decimal} (h : a.IsPlain) : a.withPlainZero = a := by
  obtain ⟨negative, coefficient, scale, h₁, h₂⟩ := a
  by_cases hc : coefficient = 0
  · have : negative = false := h (by simp [isZero, hc])
    simp [withPlainZero, this]
  · simp [withPlainZero, hc]

theorem isPlain_withPlainZero (a : Decimal) : a.withPlainZero.IsPlain := by
  intro h
  simp only [isZero, withPlainZero, beq_iff_eq] at h
  simp [withPlainZero, h]

/-- A run of digits is appended to the coefficient, as long as the result fits. -/
theorem scan_digits (point started : Bool) (rest : List Char) : ∀ (ds : List Char) (coefficient scale : Nat),
    (∀ c ∈ ds, c.isDigit = true) → coefficient * tenTo ds.length + value ds < limit →
    (point = true → scale + ds.length ≤ 28) →
    scan point started coefficient scale (ds ++ rest) =
      scan point (started || !ds.isEmpty) (coefficient * tenTo ds.length + value ds)
        (if point then scale + ds.length else scale) rest
  | [], coefficient, scale, _, _, _ => by simp [value, tenTo]
  | d :: ds, coefficient, scale, hd, hlt, hs => by
    have split : (coefficient * 10 + digitValue d) * tenTo ds.length + value ds =
        coefficient * tenTo (d :: ds).length + value (d :: ds) := by
      have head : value (d :: ds) = digitValue d * tenTo ds.length + value ds := by
        rw [← List.singleton_append, value_append]
        simp [value]
      rw [head, List.length_cons, tenTo_succ]
      ring
    have fits : coefficient * 10 + digitValue d < limit := by
      have := Nat.le_mul_of_pos_right (coefficient * 10 + digitValue d) (tenTo_pos ds.length)
      omega
    have room : (point && (scale == 28 || decide (limit ≤ coefficient * 10 + digitValue d))) = false := by
      cases point with
      | false => rfl
      | true =>
        have := hs rfl
        simp only [List.length_cons] at this
        simp
        omega
    have ih := scan_digits point true rest ds (coefficient * 10 + digitValue d) (if point then scale + 1 else scale)
      (fun c hc => hd c (by simp [hc])) (by omega) (by
        intro hp
        have := hs hp
        simp only [List.length_cons] at this
        simp [hp]
        omega)
    rw [List.cons_append, scan, if_pos (hd d (by simp))]
    simp only [room, Bool.false_eq_true, if_false, if_neg (Nat.not_le.mpr fits)]
    rw [ih, split]
    cases point <;> simp [Nat.add_comm 1, Nat.add_assoc]

/-! ## The round trip -/

/-- The digits of a decimal with the point between them. -/
def unsignedChars (a : Decimal) : List Char :=
  let ds := padded (a.scale + 1) a.coefficient
  if a.scale == 0 then ds else ds.take (ds.length - a.scale) ++ '.' :: ds.drop (ds.length - a.scale)

theorem toChars_eq (a : Decimal) : a.toChars = if a.negative then '-' :: a.unsignedChars else a.unsignedChars := rfl

/-- The digits of a decimal are scanned to its coefficient and its scale. -/
theorem scan_unsignedChars (a : Decimal) : scan false false 0 0 a.unsignedChars = .ok (a.coefficient, a.scale) := by
  have hds : ∀ c ∈ padded (a.scale + 1) a.coefficient, c.isDigit = true := isDigit_of_mem_padded
  have hlen := le_length_padded (a.scale + 1) a.coefficient
  have hval := value_padded (a.scale + 1) a.coefficient
  have hlt := a.coefficient_lt
  have hne := padded_ne_nil (a.scale + 1) a.coefficient
  rw [unsignedChars]
  generalize padded (a.scale + 1) a.coefficient = ds at hds hlen hval hne
  by_cases hs : a.scale = 0
  · have := scan_digits false false [] ds 0 0 hds (by omega) (by simp)
    simp only [List.append_nil, Nat.zero_mul, Nat.zero_add, hval] at this
    rw [if_pos (by simp [hs]), this]
    simp [scan, hs, hne]
  · -- The digits in front of the point and those behind it make up the coefficient together.
    have whole_ne : ds.take (ds.length - a.scale) ≠ [] := by
      rw [← List.length_pos_iff, List.length_take]
      omega
    have frac_len : (ds.drop (ds.length - a.scale)).length = a.scale := by
      rw [List.length_drop]
      omega
    have joined : value (ds.take (ds.length - a.scale)) * tenTo (ds.drop (ds.length - a.scale)).length +
        value (ds.drop (ds.length - a.scale)) = a.coefficient := by
      rw [← value_append, List.take_append_drop, hval]
    have whole_lt : value (ds.take (ds.length - a.scale)) < limit := by
      have := Nat.le_mul_of_pos_right (value (ds.take (ds.length - a.scale)))
        (tenTo_pos (ds.drop (ds.length - a.scale)).length)
      omega
    have front := scan_digits false false ('.' :: ds.drop (ds.length - a.scale)) (ds.take (ds.length - a.scale)) 0 0
      (fun c hc => hds c (List.mem_of_mem_take hc)) (by simpa using whole_lt) (by simp)
    have back := scan_digits true true [] (ds.drop (ds.length - a.scale))
      (value (ds.take (ds.length - a.scale))) 0 (fun c hc => hds c (List.mem_of_mem_drop hc))
      (by rw [joined]; exact hlt) (by rw [frac_len]; have := a.scale_le; omega)
    rw [List.append_nil, joined, frac_len] at back
    rw [if_neg (by simpa using hs), front]
    have started : (false || !(ds.take (ds.length - a.scale)).isEmpty) = true := by
      simpa [List.isEmpty_iff] using whole_ne
    rw [started, scan]
    simp only [show ('.').isDigit = false from rfl, Bool.false_eq_true, if_false, beq_self_eq_true, Bool.not_false,
      Bool.and_self, if_true, Nat.zero_mul, Nat.zero_add]
    rw [back]
    simp [scan]

theorem ofScan_self (a : Decimal) (negative : Bool) :
    ofScan negative (a.coefficient, a.scale) =
      .ok { a.withPlainZero with negative := negative && a.coefficient != 0 } := by
  simp [ofScan, ofParts?, a.coefficient_lt, a.scale_le, withPlainZero]

/-- The digits of a decimal start with a digit, not with the point. -/
theorem unsignedChars_cons (a : Decimal) : ∃ c cs, a.unsignedChars = c :: cs ∧ c.isDigit = true := by
  have hds : ∀ c ∈ padded (a.scale + 1) a.coefficient, c.isDigit = true := isDigit_of_mem_padded
  have hlen := le_length_padded (a.scale + 1) a.coefficient
  rw [unsignedChars]
  generalize padded (a.scale + 1) a.coefficient = ds at hds hlen
  cases ds with
  | nil => simp at hlen
  | cons c cs =>
    by_cases hs : a.scale = 0
    · exact ⟨c, cs, by simp [hs], hds c (by simp)⟩
    · have : (c :: cs).length - a.scale = ((c :: cs).length - a.scale - 1) + 1 := by omega
      rw [if_neg (by simpa using hs), this, List.take_succ_cons]
      exact ⟨c, _, rfl, hds c (by simp)⟩

/-- A text that starts with a digit is read without a sign. -/
theorem parseChars_digit {c : Char} (h : c.isDigit = true) (cs : List Char) :
    parseChars (c :: cs) = scan false false 0 0 (c :: cs) >>= ofScan false := by
  rw [parseChars.eq_def]
  split
  · simp_all
  · rename_i e
    obtain ⟨rfl, -⟩ := List.cons.inj e
    exact absurd h (by decide)
  · rename_i e
    obtain ⟨rfl, -⟩ := List.cons.inj e
    exact absurd h (by decide)
  · rfl

/-- The text of a decimal is read as the decimal, a zero without a sign. -/
theorem parseChars_toChars (a : Decimal) : parseChars a.toChars = .ok a.withPlainZero := by
  rw [toChars_eq]
  cases h : a.negative with
  | true =>
    rw [if_pos rfl, parseChars, scan_unsignedChars]
    show ofScan true (a.coefficient, a.scale) = _
    rw [ofScan_self]
    simp [withPlainZero, h]
  | false =>
    obtain ⟨c, cs, hc, hd⟩ := unsignedChars_cons a
    rw [if_neg (by simp), hc, parseChars_digit hd, ← hc, scan_unsignedChars]
    show ofScan false (a.coefficient, a.scale) = _
    rw [ofScan_self]
    simp [withPlainZero, h]

theorem parse_text (a : Decimal) : parse a.text = .ok a.withPlainZero := by
  rw [parse, text, String.toList_ofList, parseChars_toChars]

theorem ofText?_text (a : Decimal) : ofText? a.text = some a.withPlainZero := by
  rw [ofText?, parse_text]

end Blotter.Decimal
