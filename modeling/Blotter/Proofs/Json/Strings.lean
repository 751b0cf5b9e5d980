import Mathlib
import Blotter.Json.Document
import Blotter.Proofs.Text.Numeral

/-!
# Strings and numbers read back

- The quoted text of a string is read as the string, whatever its characters (`string?_quote`).
- The numeral of an integer of 64 bits is read as the integer (`scan?_numberChars`).
-/

namespace Blotter

namespace Json

/-! ## Characters -/

namespace Scan

theorem isHighHalf_toNat (c : Char) : isHighHalf c.toNat = false := by
  have := c.valid
  simp only [UInt32.isValidChar, Nat.isValidChar] at this
  have h : c.val.toNat = c.toNat := rfl
  simp [isHighHalf]
  omega

theorem isLowHalf_toNat (c : Char) : isLowHalf c.toNat = false := by
  have := c.valid
  simp only [UInt32.isValidChar, Nat.isValidChar] at this
  have h : c.val.toNat = c.toNat := rfl
  simp [isLowHalf]
  omega

/-- Whole characters are not joined. -/
theorem joinHalves?_toNat (cs : List Char) : joinHalves? (cs.map Char.toNat) = some cs := by
  induction cs with
  | nil => rfl
  | cons c cs ih =>
    cases cs with
    | nil => simp [joinHalves?, isHighHalf_toNat, isLowHalf_toNat]
    | cons d cs =>
      rw [List.map_cons, List.map_cons, joinHalves?, ← List.map_cons, ih]
      simp [isHighHalf_toNat, isLowHalf_toNat]

/-- A character that is no quote, no backslash and no control character stands for itself. -/
theorem codePoints?_cons {c : Char} (hq : c ≠ '"') (hb : c ≠ '\\') (hc : 0x20 ≤ c.toNat) (cs : List Char) :
    codePoints? (c :: cs) = (codePoints? cs).map fun x => (c.toNat :: x.1, x.2) := by
  rw [codePoints?.eq_def]
  split
  · rename_i e
    exact absurd e (by simp)
  · rename_i e
    exact absurd (List.cons.inj e).1 hq
  · rename_i e
    exact absurd (List.cons.inj e).1 hb
  · rename_i e
    exact absurd (List.cons.inj e).1 hb
  · rename_i e
    obtain ⟨rfl, rfl⟩ := List.cons.inj e
    rw [if_neg (by simp [hb]; omega)]
    cases codePoints? cs <;> rfl

/-- A short escape stands for its character. -/
theorem codePoints?_short {c : Char} {n : Nat} (hu : c ≠ 'u') (hn : shortEscape? c = some n) (cs : List Char) :
    codePoints? ('\\' :: c :: cs) = (codePoints? cs).map fun x => (n :: x.1, x.2) := by
  rw [codePoints?.eq_def]
  split
  · rename_i e
    exact absurd e (by simp)
  · rename_i e
    exact absurd (List.cons.inj e).1 (by decide)
  · rename_i e
    exact absurd (List.cons.inj (List.cons.inj e).2).1 hu
  · rename_i e
    obtain ⟨rfl, rfl⟩ := List.cons.inj (List.cons.inj e).2
    rw [hn]
    cases codePoints? cs <;> rfl
  · rename_i h e
    obtain ⟨rfl, rfl⟩ := List.cons.inj e
    exact absurd rfl (h _ _ rfl)

/-- A long escape stands for the character that its digits denote. -/
theorem codePoints?_long {a b c d : Char} {n : Nat} (hn : Blotter.Numeral.valueIn? 16 [a, b, c, d] = some n)
    (cs : List Char) :
    codePoints? ('\\' :: 'u' :: a :: b :: c :: d :: cs) = (codePoints? cs).map fun x => (n :: x.1, x.2) := by
  rw [codePoints?, hn]
  cases codePoints? cs <;> rfl

/-- The four digits of an escaped control character denote it. -/
theorem valueIn?_control {n : Nat} (h : n < 0x20) :
    Blotter.Numeral.valueIn? 16 ['0', '0', Blotter.Numeral.hexDigit (n / 16), Blotter.Numeral.hexDigit (n % 16)] =
      some n := by
  have all : ∀ m < 0x20, Blotter.Numeral.valueIn? 16
      ['0', '0', Blotter.Numeral.hexDigit (m / 16), Blotter.Numeral.hexDigit (m % 16)] = some m := by decide
  exact all n h

/-- An escaped character is read as the character. -/
theorem codePoints?_escape (c : Char) (cs : List Char) :
    codePoints? (escape c ++ cs) = (codePoints? cs).map fun x => (c.toNat :: x.1, x.2) := by
  rw [escape]
  split
  · rename_i h
    rw [beq_iff_eq] at h
    subst h
    exact codePoints?_short (by decide) rfl cs
  · rename_i hq
    split
    · rename_i h
      rw [beq_iff_eq] at h
      subst h
      exact codePoints?_short (by decide) rfl cs
    · rename_i hb
      rw [beq_iff_eq] at hq hb
      split
      · rename_i h
        exact codePoints?_cons hq hb h cs
      · rename_i hc
        split
        · rename_i h
          rw [beq_iff_eq] at h
          rw [h]
          exact codePoints?_short (by decide) rfl cs
        · split
          · rename_i h
            rw [beq_iff_eq] at h
            rw [h]
            exact codePoints?_short (by decide) rfl cs
          · split
            · rename_i h
              rw [beq_iff_eq] at h
              rw [h]
              exact codePoints?_short (by decide) rfl cs
            · split
              · rename_i h
                rw [beq_iff_eq] at h
                rw [h]
                exact codePoints?_short (by decide) rfl cs
              · split
                · rename_i h
                  rw [beq_iff_eq] at h
                  rw [h]
                  exact codePoints?_short (by decide) rfl cs
                · exact codePoints?_long (valueIn?_control (by omega)) cs

theorem codePoints?_flatMap_escape (cs rest : List Char) :
    codePoints? (cs.flatMap escape ++ '"' :: rest) = some (cs.map Char.toNat, rest) := by
  induction cs with
  | nil => rw [List.flatMap_nil, List.nil_append, codePoints?]; rfl
  | cons c cs ih => rw [List.flatMap_cons, List.append_assoc, codePoints?_escape, ih]; rfl

/-- The quoted text of a string is read as the string. -/
theorem string?_quote (s : String) (rest : List Char) :
    string? (s.toList.flatMap escape ++ '"' :: rest) = some (some s, rest) := by
  rw [string?, codePoints?_flatMap_escape]
  simp [joinHalves?_toNat]

end Scan

end Json

/-! ## Numbers -/

/-- Whether the text of a number denotes it again: an integer of 64 bits. -/
def JsonNumber.isExact : JsonNumber → Bool
  | .natural n => n ≤ 18446744073709551615
  | .negative n => 0 < n && n ≤ 9223372036854775808
  | .float _ _ => false

namespace Json

open Blotter.Numeral (StopsDigits value)

/-- A text that does not go on with a part of a numeral. -/
def StopsNumeral (cs : List Char) : Prop := ∀ c ∈ cs.head?, c.isDigit = false ∧ c ≠ '.' ∧ c ≠ 'e' ∧ c ≠ 'E'

theorem StopsNumeral.stopsDigits {cs : List Char} (h : StopsNumeral cs) : StopsDigits cs := fun c hc => (h c hc).1

theorem stopsNumeral_nil : StopsNumeral [] := by
  intro c hc
  simp at hc

theorem stopsNumeral_cons {c : Char} (h : c.isDigit = false ∧ c ≠ '.' ∧ c ≠ 'e' ∧ c ≠ 'E') (cs : List Char) :
    StopsNumeral (c :: cs) := by
  intro d hd
  obtain rfl : c = d := by simpa using hd
  exact h

namespace Numeral

theorem scanFraction?_of_stops {cs : List Char} (h : StopsNumeral cs) : scanFraction? cs = some ([], cs) := by
  rw [scanFraction?.eq_def]
  split
  · exact absurd rfl (h '.' (by simp)).2.1
  · rfl

theorem scanExponent?_of_stops {cs : List Char} (h : StopsNumeral cs) : scanExponent? cs = some (none, cs) := by
  rw [scanExponent?.eq_def]
  split
  · exact absurd rfl (h 'e' (by simp)).2.2.1
  · exact absurd rfl (h 'E' (by simp)).2.2.2
  · rfl

/-- The numeral that the digits of a number are. -/
def ofDigits (negative : Bool) (n : Nat) : Numeral := ⟨negative, Blotter.Numeral.digits n, [], none⟩

theorem digits_append (n : Nat) {rest : List Char} (h : StopsNumeral rest) :
    digits (Blotter.Numeral.digits n ++ rest) = (Blotter.Numeral.digits n, rest) := by
  have hd := Blotter.Numeral.isDigit_of_mem_digits n
  rw [Numeral.digits, Blotter.Numeral.takeWhile_isDigit hd h.stopsDigits,
    Blotter.Numeral.dropWhile_isDigit hd h.stopsDigits]

theorem whole_isValid (n : Nat) : ((Blotter.Numeral.digits n).isEmpty ||
    ((Blotter.Numeral.digits n).head? == some '0' && 1 < (Blotter.Numeral.digits n).length)) = false := by
  have nonempty := Blotter.Numeral.digits_ne_nil n
  by_cases h : 1 < (Blotter.Numeral.digits n).length
  · have := Blotter.Numeral.head?_digits h
    simp [nonempty, this]
  · simp [nonempty, h]

theorem scanUnsigned?_digits (negative : Bool) (n : Nat) {rest : List Char} (h : StopsNumeral rest) :
    scanUnsigned? negative (Blotter.Numeral.digits n ++ rest) = some (ofDigits negative n, rest) := by
  rw [scanUnsigned?]
  simp only [digits_append n h, whole_isValid, Bool.false_eq_true, if_false, scanFraction?_of_stops h,
    Option.bind_eq_bind, Option.bind_some, scanExponent?_of_stops h]
  rfl

theorem scan?_of_ne {c : Char} (h : c ≠ '-') (cs : List Char) : scan? (c :: cs) = scanUnsigned? false (c :: cs) := by
  rw [scan?.eq_def]
  split
  · rename_i e
    exact absurd (List.cons.inj e).1 h
  · rfl

/-- The text of a natural number is scanned as its digits. -/
theorem scan?_digits (n : Nat) {rest : List Char} (h : StopsNumeral rest) :
    scan? (Blotter.Numeral.digits n ++ rest) = some (ofDigits false n, rest) := by
  have hd := Blotter.Numeral.isDigit_of_mem_digits n
  cases hs : Blotter.Numeral.digits n with
  | nil => exact absurd hs (Blotter.Numeral.digits_ne_nil n)
  | cons c cs =>
    have minus : c ≠ '-' := by
      rintro rfl
      exact absurd (hd '-' (by simp [hs])) (by decide)
    rw [List.cons_append, scan?_of_ne minus, ← List.cons_append, ← hs]
    exact scanUnsigned?_digits false n h

theorem scan?_negative (n : Nat) {rest : List Char} (h : StopsNumeral rest) :
    scan? ('-' :: Blotter.Numeral.digits n ++ rest) = some (ofDigits true n, rest) :=
  scanUnsigned?_digits true n h

/-- The digits of a number of 64 bits are all part of the significand. -/
theorem foldl_addWhole {ds : List Char} (h : value ds ≤ significandMax) : ds.foldl addWhole (0, 0) = (value ds, 0) := by
  induction ds using List.reverseRecOn with
  | nil => rfl
  | append_singleton ds d ih =>
    rw [Blotter.Numeral.value_append_singleton] at h
    rw [List.foldl_append, ih (by omega), Blotter.Numeral.value_append_singleton, List.foldl_cons, List.foldl_nil,
      addWhole]
    simp only [bne_self_eq_false, Bool.false_or, decide_eq_true_eq]
    rw [if_neg (by omega)]

theorem toNumber?_ofDigits_false {n : Nat} (h : n ≤ significandMax) :
    (ofDigits false n).toNumber? = some (.natural n) := by
  have fits : value (Blotter.Numeral.digits n) ≤ significandMax := by rwa [Blotter.Numeral.value_digits]
  simp [toNumber?, ofDigits, foldl_addWhole fits, Blotter.Numeral.value_digits]

theorem toNumber?_ofDigits_true {n : Nat} (hpos : 0 < n) (h : n ≤ 9223372036854775808) :
    (ofDigits true n).toNumber? = some (.negative n) := by
  have fits : value (Blotter.Numeral.digits n) ≤ significandMax := by
    rw [Blotter.Numeral.value_digits, significandMax]
    omega
  have zero : n ≠ 0 := by omega
  have large : ¬9223372036854775808 < n := by omega
  simp [toNumber?, ofDigits, foldl_addWhole fits, Blotter.Numeral.value_digits, zero, large]

/-- The text of an exact number is read as the number. -/
theorem scan?_numberChars {n : JsonNumber} (hn : n.isExact = true) {rest : List Char} (h : StopsNumeral rest) :
    ∃ x, scan? (numberChars n ++ rest) = some (x, rest) ∧ x.toNumber? = some n := by
  cases n with
  | natural n =>
    simp only [JsonNumber.isExact, decide_eq_true_eq] at hn
    exact ⟨_, scan?_digits n h, toNumber?_ofDigits_false hn⟩
  | negative n =>
    simp only [JsonNumber.isExact, Bool.and_eq_true, decide_eq_true_eq] at hn
    exact ⟨_, scan?_negative n h, toNumber?_ofDigits_true hn.1 hn.2⟩
  | float negative x => simp [JsonNumber.isExact] at hn

end Numeral

end Json

end Blotter
