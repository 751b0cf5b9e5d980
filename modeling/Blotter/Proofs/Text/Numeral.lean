import Blotter.Power
import Blotter.Text.Numeral
import Mathlib

/-!
# Numerals read back

- The digits of a number denote it (`value_digits`), and so do the padded digits (`value_padded`).
- A number below `10 ^ w` fills the width `w` exactly (`length_padded`).
- A numeral of several digits does not start with a zero (`head?_digits`).
-/

namespace Blotter.Numeral

/-! ## Single digits -/

theorem isDigit_digit {n : Nat} (h : n < 10) : (digit n).isDigit = true := by
  have all : ∀ m < 10, (digit m).isDigit = true := by decide
  exact all n h

theorem digitValue_digit {n : Nat} (h : n < 10) : digitValue (digit n) = n := by
  have all : ∀ m < 10, digitValue (digit m) = m := by decide
  exact all n h

/-! ## Values -/

theorem value_append_singleton (cs : List Char) (c : Char) : value (cs ++ [c]) = value cs * 10 + digitValue c := by
  simp [value]

/-- The value of a run of digits behind another one. -/
theorem value_append (cs ds : List Char) : value (cs ++ ds) = value cs * tenTo ds.length + value ds := by
  induction ds using List.reverseRecOn with
  | nil => simp [value, tenTo]
  | append_singleton ds d ih =>
    rw [← List.append_assoc, value_append_singleton, value_append_singleton, ih, List.length_append,
      List.length_singleton, tenTo_succ]
    rw [Nat.add_mul, Nat.mul_assoc, Nat.add_assoc]

theorem value_replicate_zero (n : Nat) : value (List.replicate n '0') = 0 := by
  induction n with
  | zero => rfl
  | succ n ih => rw [List.replicate_succ', value_append_singleton, ih]; rfl

/-! ## Digits -/

theorem digits_of_lt {n : Nat} (h : n < 10) : digits n = [digit n] := by
  rw [digits, if_pos h]

theorem digits_of_le {n : Nat} (h : 10 ≤ n) : digits n = digits (n / 10) ++ [digit (n % 10)] := by
  rw [digits, if_neg (by omega)]

theorem digits_ne_nil (n : Nat) : digits n ≠ [] := by
  rw [digits]
  split <;> simp

/-- A numeral consists of digits. -/
theorem isDigit_of_mem_digits (n : Nat) : ∀ c ∈ digits n, c.isDigit = true := by
  induction n using Nat.strongRecOn with
  | ind n ih =>
    intro c hc
    by_cases h : n < 10
    · rw [digits_of_lt h, List.mem_singleton] at hc
      rw [hc]
      exact isDigit_digit h
    · rw [digits_of_le (by omega), List.mem_append, List.mem_singleton] at hc
      rcases hc with hc | hc
      · exact ih (n / 10) (by omega) c hc
      · rw [hc]
        exact isDigit_digit (Nat.mod_lt _ (by decide))

/-- The numeral of a number denotes it. -/
theorem value_digits (n : Nat) : value (digits n) = n := by
  induction n using Nat.strongRecOn with
  | ind n ih =>
    by_cases h : n < 10
    · rw [digits_of_lt h]
      simp [value, digitValue_digit h]
    · rw [digits_of_le (by omega), value_append_singleton, ih (n / 10) (by omega),
        digitValue_digit (Nat.mod_lt _ (by decide))]
      omega

theorem length_digits_le {n w : Nat} (h : n < tenTo (w + 1)) : (digits n).length ≤ w + 1 := by
  induction w generalizing n with
  | zero =>
    have : n < 10 := h
    simp [digits_of_lt this]
  | succ w ih =>
    by_cases hn : n < 10
    · simp [digits_of_lt hn]
    · rw [tenTo_succ] at h
      have front := ih (n := n / 10) (by omega)
      rw [digits_of_le (by omega), List.length_append, List.length_singleton]
      omega

/-- The numeral of a positive number does not start with a zero. -/
theorem head?_digits_of_pos {n : Nat} (h : 0 < n) : (digits n).head? ≠ some '0' := by
  induction n using Nat.strongRecOn with
  | ind n ih =>
    by_cases hn : n < 10
    · have all : ∀ m < 10, 0 < m → digit m ≠ '0' := by decide
      rw [digits_of_lt hn]
      simpa using all n hn h
    · rw [digits_of_le (by omega), List.head?_append_of_ne_nil _ (digits_ne_nil _)]
      exact ih (n / 10) (by omega) (by omega)

/-- A numeral of several digits does not start with a zero. -/
theorem head?_digits {n : Nat} (h : 1 < (digits n).length) : (digits n).head? ≠ some '0' := by
  apply head?_digits_of_pos
  by_contra hn
  rw [digits_of_lt (by omega)] at h
  simp at h

/-! ## Padding -/

theorem padded_ne_nil (w n : Nat) : padded w n ≠ [] := by
  simp [padded, digits_ne_nil]

theorem isDigit_of_mem_padded {w n : Nat} : ∀ c ∈ padded w n, c.isDigit = true := by
  intro c hc
  rcases List.mem_append.mp hc with hc | hc
  · rw [List.eq_of_mem_replicate hc]
    rfl
  · exact isDigit_of_mem_digits n c hc

/-- Leading zeros do not change what a numeral denotes. -/
theorem value_padded (w n : Nat) : value (padded w n) = n := by
  rw [padded, value_append, value_replicate_zero, value_digits]
  omega

theorem le_length_padded (w n : Nat) : w ≤ (padded w n).length := by
  simp only [padded, List.length_append, List.length_replicate]
  omega

theorem length_padded {w n : Nat} (hw : 0 < w) (h : n < tenTo w) : (padded w n).length = w := by
  obtain ⟨w, rfl⟩ := Nat.exists_eq_add_of_le' hw
  have := length_digits_le h
  simp only [padded, List.length_append, List.length_replicate]
  omega

/-! ## Digits in front of a text -/

/-- A text that does not go on with a digit. -/
def StopsDigits (cs : List Char) : Prop := ∀ c ∈ cs.head?, c.isDigit = false

theorem StopsDigits.take {cs : List Char} (h : StopsDigits cs) (n : Nat) : StopsDigits (cs.take n) := by
  intro c hc
  cases n with
  | zero => simp at hc
  | succ n =>
    cases cs with
    | nil => simp at hc
    | cons d cs => exact h c hc

theorem takeWhile_isDigit {ds rest : List Char} (hd : ∀ c ∈ ds, c.isDigit = true) (hr : StopsDigits rest) :
    (ds ++ rest).takeWhile Char.isDigit = ds := by
  rw [List.takeWhile_append_of_pos hd]
  cases rest with
  | nil => simp
  | cons c cs => simp [hr c rfl]

theorem dropWhile_isDigit {ds rest : List Char} (hd : ∀ c ∈ ds, c.isDigit = true) (hr : StopsDigits rest) :
    (ds ++ rest).dropWhile Char.isDigit = rest := by
  rw [List.dropWhile_append_of_pos hd]
  cases rest with
  | nil => rfl
  | cons c cs => simp [hr c rfl]

end Blotter.Numeral
