import Mathlib
import Blotter.Proofs.Json.Text

/-!
# Cut texts

A reader that comes to an end before the text does has the same answer if the text goes on (`value?_append`,
`members?_append`). So no proper prefix of the text of an object is a text that can be read (`parseChars_prefix`). A
single character is not one of an object in any case (`parseChars_single_ne_object`).
-/

namespace Blotter.Json

namespace Numeral

theorem digits_append_text {cs rest : List Char} (h : (digits cs).2 = rest) (hr : rest ≠ []) (ext : List Char) :
    digits (cs ++ ext) = ((digits cs).1, rest ++ ext) := by
  subst h
  induction cs with
  | nil => exact absurd rfl hr
  | cons c cs ih =>
    simp only [digits] at ih hr ⊢
    by_cases hc : c.isDigit = true
    · rw [List.dropWhile_cons_of_pos hc] at hr
      obtain ⟨take, drop⟩ := Prod.mk.inj (ih hr)
      rw [List.cons_append, List.takeWhile_cons_of_pos hc, List.dropWhile_cons_of_pos hc,
        List.takeWhile_cons_of_pos hc, List.dropWhile_cons_of_pos hc, take, drop]
    · rw [List.cons_append, List.takeWhile_cons_of_neg hc, List.dropWhile_cons_of_neg hc,
        List.takeWhile_cons_of_neg hc, List.dropWhile_cons_of_neg hc, List.cons_append]

theorem scanFraction?_append {cs rest fraction : List Char} (h : scanFraction? cs = some (fraction, rest))
    (hr : rest ≠ []) (ext : List Char) : scanFraction? (cs ++ ext) = some (fraction, rest ++ ext) := by
  rw [scanFraction?.eq_def] at h
  split at h
  · rename_i tail
    rw [List.cons_append, scanFraction?]
    by_cases hne : (digits tail).1.isEmpty = true
    · simp [hne] at h
    · simp only [hne, if_false, Option.some.injEq, Prod.mk.injEq, Bool.false_eq_true] at h
      rw [h.1] at hne
      simp only [digits_append_text h.2 hr ext, h.1, hne, if_false, Bool.false_eq_true]
  · rename_i other
    simp only [Option.some.injEq, Prod.mk.injEq] at h
    obtain ⟨rfl, rfl⟩ := h
    cases cs with
    | nil => exact absurd rfl hr
    | cons c cs =>
      rw [List.cons_append, scanFraction?.eq_def]
      split
      · rename_i e
        obtain ⟨rfl, -⟩ := List.cons.inj e
        exact absurd rfl (other cs)
      · rfl

theorem exponentDigits?_append {negative : Bool} {cs rest : List Char} {exponent : Option (Bool × List Char)}
    (h : exponentDigits? negative cs = some (exponent, rest)) (hr : rest ≠ []) (ext : List Char) :
    exponentDigits? negative (cs ++ ext) = some (exponent, rest ++ ext) := by
  rw [exponentDigits?] at h ⊢
  by_cases hne : (digits cs).1.isEmpty = true
  · simp [hne] at h
  · simp only [hne, if_false, Option.some.injEq, Prod.mk.injEq, Bool.false_eq_true] at h
    obtain ⟨rfl, hrest⟩ := h
    simp only [digits_append_text hrest hr ext, hne, if_false, Bool.false_eq_true]

theorem signedExponent?_of_ne {c : Char} (minus : c ≠ '-') (plus : c ≠ '+') (cs : List Char) :
    signedExponent? (c :: cs) = exponentDigits? false (c :: cs) := by
  rw [signedExponent?.eq_def]
  split
  · rename_i e
    exact absurd (List.cons.inj e).1 minus
  · rename_i e
    exact absurd (List.cons.inj e).1 plus
  · rfl

theorem signedExponent?_append {cs rest : List Char} {exponent : Option (Bool × List Char)}
    (h : signedExponent? cs = some (exponent, rest)) (hr : rest ≠ []) (ext : List Char) :
    signedExponent? (cs ++ ext) = some (exponent, rest ++ ext) := by
  cases cs with
  | nil => simp [signedExponent?, exponentDigits?, digits] at h
  | cons c cs =>
    by_cases minus : c = '-'
    · subst minus
      exact exponentDigits?_append h hr ext
    · by_cases plus : c = '+'
      · subst plus
        exact exponentDigits?_append h hr ext
      · rw [signedExponent?_of_ne minus plus] at h
        rw [List.cons_append, signedExponent?_of_ne minus plus]
        exact exponentDigits?_append h hr ext

theorem scanExponent?_append {cs rest : List Char} {exponent : Option (Bool × List Char)}
    (h : scanExponent? cs = some (exponent, rest)) (hr : rest ≠ []) (ext : List Char) :
    scanExponent? (cs ++ ext) = some (exponent, rest ++ ext) := by
  rw [scanExponent?.eq_def] at h
  split at h
  · exact signedExponent?_append h hr ext
  · exact signedExponent?_append h hr ext
  · rename_i lower upper
    simp only [Option.some.injEq, Prod.mk.injEq] at h
    obtain ⟨rfl, rfl⟩ := h
    cases cs with
    | nil => exact absurd rfl hr
    | cons c cs =>
      rw [List.cons_append, scanExponent?.eq_def]
      split
      · rename_i e
        exact absurd (congrArg (· :: cs) (List.cons.inj e).1) (lower cs)
      · rename_i e
        exact absurd (congrArg (· :: cs) (List.cons.inj e).1) (upper cs)
      · rfl

theorem scanUnsigned?_append {negative : Bool} {cs rest : List Char} {x : Numeral}
    (h : scanUnsigned? negative cs = some (x, rest)) (hr : rest ≠ []) (ext : List Char) :
    scanUnsigned? negative (cs ++ ext) = some (x, rest ++ ext) := by
  rw [scanUnsigned?] at h ⊢
  simp only at h ⊢
  split at h
  · exact absurd h (by simp)
  · rename_i valid
    simp only [Option.bind_eq_bind, Option.bind_eq_some_iff, Prod.exists, Option.some.injEq, Prod.mk.injEq] at h
    obtain ⟨fraction, behindFraction, hf, exponent, behindExponent, he, rfl, rfl⟩ := h
    -- Something is left behind every part, because something is left behind the last one.
    have hr' : behindFraction ≠ [] := by
      rintro rfl
      simp only [scanExponent?, Option.some.injEq, Prod.mk.injEq] at he
      exact hr he.2.symm
    have hr'' : (digits cs).2 ≠ [] := by
      intro e
      rw [e] at hf
      simp only [scanFraction?, Option.some.injEq, Prod.mk.injEq] at hf
      exact hr' hf.2.symm
    simp only [digits_append_text rfl hr'' ext, valid, if_false, scanFraction?_append hf hr' ext,
      scanExponent?_append he hr ext, Option.bind_eq_bind, Option.bind_some, Bool.false_eq_true]

/-- A numeral that something follows is scanned in the same way if the text goes on. -/
theorem scan?_append {cs rest : List Char} {x : Numeral} (h : scan? cs = some (x, rest)) (hr : rest ≠ [])
    (ext : List Char) : scan? (cs ++ ext) = some (x, rest ++ ext) := by
  cases cs with
  | nil => simp [scan?, scanUnsigned?, digits] at h
  | cons c cs =>
    by_cases minus : c = '-'
    · subst minus
      exact scanUnsigned?_append h hr ext
    · rw [scan?_of_ne minus] at h
      rw [List.cons_append, scan?_of_ne minus]
      exact scanUnsigned?_append h hr ext

/-- A numeral starts with a digit or a minus sign. -/
theorem scan?_cons {c : Char} {cs : List Char} {r : Numeral × List Char} (h : scan? (c :: cs) = some r) :
    c.isDigit = true ∨ c = '-' := by
  by_cases minus : c = '-'
  · exact .inr minus
  · refine .inl ?_
    by_contra digit
    rw [scan?_of_ne minus, scanUnsigned?] at h
    simp [digits, digit] at h

end Numeral

namespace Scan

theorem skipBlanks_append {cs rest : List Char} (h : skipBlanks cs = rest) (hr : rest ≠ []) (ext : List Char) :
    skipBlanks (cs ++ ext) = rest ++ ext := by
  subst h
  rw [skipBlanks, List.dropWhile_append]
  split
  · rename_i e
    exact absurd (List.isEmpty_iff.mp e) hr
  · rfl

/-- A string that is closed stays what it is if the text goes on. -/
theorem codePoints?_append {cs rest : List Char} {ns : List Nat} (h : codePoints? cs = some (ns, rest))
    (ext : List Char) : codePoints? (cs ++ ext) = some (ns, rest ++ ext) := by
  fun_induction codePoints? cs generalizing ns with
  | case1 => exact absurd h (by simp)
  | case2 tail =>
    simp only [Option.some.injEq, Prod.mk.injEq] at h
    obtain ⟨rfl, rfl⟩ := h
    rfl
  | case3 a b c d tail ih =>
    simp only [Option.bind_eq_bind, Option.bind_eq_some_iff, Prod.exists, Option.some.injEq, Prod.mk.injEq] at h
    obtain ⟨n, digits, ns, tail', read, rfl, rfl⟩ := h
    simp only [List.cons_append]
    rw [codePoints?_long digits, ih read]
    rfl
  | case4 c tail _ ih =>
    simp only [Option.bind_eq_bind, Option.bind_eq_some_iff, Prod.exists, Option.some.injEq, Prod.mk.injEq] at h
    obtain ⟨n, short, ns, tail', read, rfl, rfl⟩ := h
    have hu : c ≠ 'u' := by
      rintro rfl
      simp [shortEscape?] at short
    simp only [List.cons_append]
    rw [codePoints?_short hu short, ih read]
    rfl
  | case5 => exact absurd h (by simp)
  | case6 c tail quote _ _ plain ih =>
    simp only [Option.bind_eq_bind, Option.bind_eq_some_iff, Prod.exists, Option.some.injEq, Prod.mk.injEq] at h
    obtain ⟨ns, tail', read, rfl, rfl⟩ := h
    simp only [Bool.or_eq_true, decide_eq_true_eq, beq_iff_eq, not_or] at plain
    rw [List.cons_append, codePoints?_cons quote plain.2 (by omega), ih read]
    rfl

theorem string?_append {cs rest : List Char} {s : Option String} (h : string? cs = some (s, rest))
    (ext : List Char) : string? (cs ++ ext) = some (s, rest ++ ext) := by
  simp only [string?, Option.bind_eq_bind, Option.bind_eq_some_iff, Prod.exists, Option.some.injEq,
    Prod.mk.injEq] at h
  obtain ⟨ns, tail, read, rfl, rfl⟩ := h
  simp [string?, codePoints?_append read]

theorem word?_append_text {w cs rest : List Char} (h : word? w cs = some rest) (ext : List Char) :
    word? w (cs ++ ext) = some (rest ++ ext) := by
  rw [word?] at h
  split at h
  · rename_i front
    obtain ⟨tail, rfl⟩ := List.isPrefixOf_iff_prefix.mp front
    rw [List.drop_left, Option.some.injEq] at h
    rw [List.append_assoc, word?_append, h]
  · exact absurd h (by simp)

/-- The blanks in front of a value do not matter. -/
theorem value?_skipBlanks (fuel : Nat) (cs : List Char) : value? fuel (skipBlanks cs) = value? fuel cs := by
  cases fuel with
  | zero => rfl
  | succ fuel =>
    have once : skipBlanks (skipBlanks cs) = skipBlanks cs := List.dropWhile_idempotent isBlank cs
    rw [value?.eq_def, value?.eq_def (fuel + 1) cs]
    simp only [once]

/-- What does not begin with a character behind its blanks does not do so if the text goes on. -/
theorem head?_skipBlanks_append_ne {cs ext : List Char} {c : Char} (h : ∀ tail, skipBlanks cs = c :: tail → False)
    (nonblank : skipBlanks cs ≠ []) : (skipBlanks (cs ++ ext)).head? ≠ some c := by
  rw [skipBlanks_append rfl nonblank, List.head?_append_of_ne_nil _ nonblank]
  intro front
  obtain ⟨tail, front⟩ := List.head?_eq_some_iff.mp front
  exact h tail front

theorem members?_nil (fuel : Nat) : members? fuel [] = none := by
  cases fuel <;> rfl

theorem elements?_nil (fuel : Nat) : elements? fuel [] = none := by
  cases fuel with
  | zero => rfl
  | succ fuel => cases fuel <;> rfl

theorem map_word?_append {w tail rest : List Char} {v v' : Json}
    (h : (word? w tail).map (v, ·) = some (v', rest)) (ext : List Char) :
    (word? w (tail ++ ext)).map (v, ·) = some (v', rest ++ ext) := by
  obtain ⟨tail', word, e⟩ := Option.map_eq_some_iff.mp h
  obtain ⟨rfl, rfl⟩ := Prod.mk.inj e
  rw [word?_append_text word, Option.map_some]

/-- A number that something follows is read in the same way if the text goes on. -/
theorem value?_numeral_append {cs rest : List Char} {n : Numeral}
    (read : Numeral.scan? (skipBlanks cs) = some (n, rest)) (more : rest ≠ []) (fuel : Nat) (ext : List Char) :
    value? (fuel + 1) (cs ++ ext) = some (n.toNumber?.elim .unusable .number, rest ++ ext) := by
  have nonblank : skipBlanks cs ≠ [] := by
    intro e
    rw [e] at read
    simp [Numeral.scan?, Numeral.scanUnsigned?, Numeral.digits] at read
  obtain ⟨c, tail, start⟩ := List.exists_cons_of_ne_nil nonblank
  rw [start] at read
  have longer := Numeral.scan?_append read more ext
  rw [← value?_skipBlanks, skipBlanks_append start (by simp)]
  rw [List.cons_append] at longer ⊢
  rw [value?_numeral (Numeral.scan?_cons read), longer]
  rfl

mutual
/-- A value that something follows is read in the same way if the text goes on, and so is an object at the end. -/
theorem value?_append {fuel fuel' : Nat} {cs rest : List Char} {v : Json} (h : value? fuel cs = some (v, rest))
    (hf : fuel ≤ fuel') (hr : rest = [] → (skipBlanks cs).head? = some '\x7b') (ext : List Char) :
    value? fuel' (cs ++ ext) = some (v, rest ++ ext) := by
  have positive : fuel ≠ 0 := by
    rintro rfl
    simp [value?] at h
  obtain ⟨fuel, rfl⟩ := Nat.exists_eq_add_one_of_ne_zero positive
  obtain ⟨fuel', rfl⟩ : ∃ n, fuel' = n + 1 := ⟨fuel' - 1, by omega⟩
  rw [value?.eq_def] at h
  simp only at h
  split at h
  · rename_i tail start
    have start' : skipBlanks (cs ++ ext) = '\x7b' :: (tail ++ ext) := skipBlanks_append start (by simp) ext
    split at h
    · rename_i tail' brace
      simp only [Option.some.injEq, Prod.mk.injEq] at h
      obtain ⟨rfl, rfl⟩ := h
      rw [value?, start']
      simp only [skipBlanks_append brace (by simp), List.cons_append]
    · rename_i more
      simp only [Option.bind_eq_bind, Option.bind_eq_some_iff, Prod.exists, Option.some.injEq, Prod.mk.injEq] at h
      obtain ⟨ms, tail', hms, rfl, rfl⟩ := h
      have nonblank : skipBlanks tail ≠ [] := by
        intro blank
        rw [blank, members?_nil] at hms
        cases hms
      rw [value?_members start' (head?_skipBlanks_append_ne more nonblank), skipBlanks_append rfl nonblank,
        members?_append hms (by omega : fuel ≤ fuel') ext]
      rfl
  · rename_i tail start
    have start' : skipBlanks (cs ++ ext) = '[' :: (tail ++ ext) := skipBlanks_append start (by simp) ext
    split at h
    · rename_i tail' bracket
      simp only [Option.some.injEq, Prod.mk.injEq] at h
      obtain ⟨rfl, rfl⟩ := h
      rw [value?, start']
      simp only [skipBlanks_append bracket (by simp), List.cons_append]
    · rename_i more
      simp only [Option.bind_eq_bind, Option.bind_eq_some_iff, Prod.exists, Option.some.injEq, Prod.mk.injEq] at h
      obtain ⟨xs, tail', hxs, rfl, rfl⟩ := h
      have nonblank : skipBlanks tail ≠ [] := by
        intro blank
        rw [blank, elements?_nil] at hxs
        cases hxs
      rw [value?_elements start' (head?_skipBlanks_append_ne more nonblank), skipBlanks_append rfl nonblank,
        elements?_append hxs (by omega : fuel ≤ fuel') ext]
      rfl
  · rename_i tail start
    simp only [Option.bind_eq_bind, Option.bind_eq_some_iff, Prod.exists, Option.some.injEq, Prod.mk.injEq] at h
    obtain ⟨s, tail', read, rfl, rfl⟩ := h
    rw [value?, skipBlanks_append start (by simp)]
    simp only [List.cons_append, string?_append read, Option.bind_eq_bind, Option.bind_some]
  · rename_i tail start
    rw [value?, skipBlanks_append start (by simp)]
    exact map_word?_append h ext
  · rename_i tail start
    rw [value?, skipBlanks_append start (by simp)]
    exact map_word?_append h ext
  · rename_i tail start
    rw [value?, skipBlanks_append start (by simp)]
    exact map_word?_append h ext
  · rename_i brace _ _ _ _ _
    simp only [Option.bind_eq_bind, Option.bind_eq_some_iff, Prod.exists, Option.some.injEq, Prod.mk.injEq] at h
    obtain ⟨x, tail', read, rfl, rfl⟩ := h
    refine value?_numeral_append read (fun none => ?_) fuel' ext
    obtain ⟨tail, start⟩ := List.head?_eq_some_iff.mp (hr none)
    exact brace tail start
termination_by fuel
decreasing_by all_goals omega

theorem elements?_append {fuel fuel' : Nat} {cs rest : List Char} {xs : List Json}
    (h : elements? fuel cs = some (xs, rest)) (hf : fuel ≤ fuel') (ext : List Char) :
    elements? fuel' (cs ++ ext) = some (xs, rest ++ ext) := by
  have positive : fuel ≠ 0 := by
    rintro rfl
    simp [elements?] at h
  obtain ⟨fuel, rfl⟩ := Nat.exists_eq_add_one_of_ne_zero positive
  obtain ⟨fuel', rfl⟩ : ∃ n, fuel' = n + 1 := ⟨fuel' - 1, by omega⟩
  rw [elements?] at h ⊢
  simp only [Option.bind_eq_bind, Option.bind_eq_some_iff, Prod.exists] at h
  obtain ⟨x, behind, hx, h⟩ := h
  have nonempty : behind ≠ [] := by
    rintro rfl
    simp [skipBlanks] at h
  have value := value?_append hx (by omega : fuel ≤ fuel') (fun e => absurd e nonempty) ext
  simp only [value, Option.bind_eq_bind, Option.bind_some]
  split at h
  · rename_i tail comma
    simp only [Option.bind_eq_some_iff, Prod.exists, Option.some.injEq, Prod.mk.injEq] at h
    obtain ⟨xs, tail', hxs, rfl, rfl⟩ := h
    have elements := elements?_append hxs (by omega : fuel ≤ fuel') ext
    simp only [skipBlanks_append comma (by simp), List.cons_append, elements, Option.bind_some]
  · rename_i tail bracket
    simp only [Option.some.injEq, Prod.mk.injEq] at h
    obtain ⟨rfl, rfl⟩ := h
    simp only [skipBlanks_append bracket (by simp), List.cons_append]
  · exact absurd h (by simp)
termination_by fuel
decreasing_by all_goals omega

theorem members?_append {fuel fuel' : Nat} {cs rest : List Char} {ms : List (Option String × Json)}
    (h : members? fuel cs = some (ms, rest)) (hf : fuel ≤ fuel') (ext : List Char) :
    members? fuel' (cs ++ ext) = some (ms, rest ++ ext) := by
  have positive : fuel ≠ 0 := by
    rintro rfl
    simp [members?] at h
  obtain ⟨fuel, rfl⟩ := Nat.exists_eq_add_one_of_ne_zero positive
  obtain ⟨fuel', rfl⟩ : ∃ n, fuel' = n + 1 := ⟨fuel' - 1, by omega⟩
  rw [members?] at h ⊢
  split at h
  · rename_i tail start
    simp only [Option.bind_eq_bind, Option.bind_eq_some_iff, Prod.exists] at h
    obtain ⟨name, behindName, hname, h⟩ := h
    rw [skipBlanks_append start (by simp)]
    simp only [List.cons_append, string?_append hname, Option.bind_eq_bind, Option.bind_some]
    split at h
    · rename_i tail colon
      simp only [Option.bind_eq_some_iff, Prod.exists] at h
      obtain ⟨x, behind, hx, h⟩ := h
      have nonempty : behind ≠ [] := by
        rintro rfl
        simp [skipBlanks] at h
      have value := value?_append hx (by omega : fuel ≤ fuel') (fun e => absurd e nonempty) ext
      simp only [skipBlanks_append colon (by simp), List.cons_append, value, Option.bind_some]
      split at h
      · rename_i tail comma
        simp only [Option.bind_eq_some_iff, Prod.exists, Option.some.injEq, Prod.mk.injEq] at h
        obtain ⟨ms, tail', hms, rfl, rfl⟩ := h
        have members := members?_append hms (by omega : fuel ≤ fuel') ext
        simp only [skipBlanks_append comma (by simp), List.cons_append, members, Option.bind_some]
      · rename_i tail brace
        simp only [Option.some.injEq, Prod.mk.injEq] at h
        obtain ⟨rfl, rfl⟩ := h
        simp only [skipBlanks_append brace (by simp), List.cons_append]
      · exact absurd h (by simp)
    · exact absurd h (by simp)
  · exact absurd h (by simp)
termination_by fuel
decreasing_by all_goals omega
end

end Scan

/-- A proper prefix of the text of an object is no text of a value. -/
theorem parseChars_prefix {ms : List (String × Json)} (h : (Json.object ms).isExact = true) {cs ext : List Char}
    (hp : cs ++ ext = (Json.object ms).toChars) (hne : ext ≠ []) : parseChars cs = none := by
  cases read : Scan.value? (2 * cs.length + 2) cs with
  | none => simp [parseChars, read]
  | some r =>
    obtain ⟨v, rest⟩ := r
    have brace : (Scan.skipBlanks cs).head? = some '\x7b' := by
      cases cs with
      | nil => simp [Scan.value?, Scan.skipBlanks, Numeral.scan?, Numeral.scanUnsigned?, Numeral.digits] at read
      | cons c cs =>
        obtain rfl : c = '\x7b' := by
          cases ms with
          | nil => exact (List.cons.inj hp).1
          | cons m ms => exact (List.cons.inj hp).1
        rw [Scan.skipBlanks_cons rfl]
        rfl
    have length : (Json.object ms).toChars.length = cs.length + ext.length := by rw [← hp, List.length_append]
    have whole : Scan.value? (2 * (cs.length + ext.length) + 2) _ = _ := value?_toChars h stopsNumeral_nil (by omega)
    have longer : Scan.value? (2 * (cs.length + ext.length) + 2) _ = _ :=
      Scan.value?_append read (by omega) (fun _ => brace) ext
    rw [List.append_nil, ← hp, longer] at whole
    simp only [Option.some.injEq, Prod.mk.injEq, List.append_eq_nil_iff] at whole
    exact absurd whole.2.2 hne

/-- No object has a text of one character. -/
theorem parseChars_single_ne_object (c : Char) (ms : List (String × Json)) :
    parseChars [c] ≠ some (.object ms) := by
  intro parsed
  have read : ∃ rest, Scan.value? 4 [c] = some (.object ms, rest) := by
    rw [parseChars] at parsed
    split at parsed
    · rename_i v rest read
      split at parsed
      · exact ⟨rest, Option.some.inj parsed ▸ read⟩
      · cases parsed
    · cases parsed
  obtain ⟨rest, read⟩ := read
  cases blank : Scan.isBlank c with
  | true =>
    have nothing : Scan.skipBlanks [c] = [] := by simp [Scan.skipBlanks, blank]
    simp [Scan.value?, nothing, Numeral.scan?, Numeral.scanUnsigned?, Numeral.digits] at read
  | false =>
    rw [Scan.value?.eq_def] at read
    simp only [Scan.skipBlanks_cons blank] at read
    split at read
    case h_7 =>
      simp only [Option.bind_eq_bind, Option.bind_eq_some_iff, Prod.exists, Option.some.injEq, Prod.mk.injEq] at read
      obtain ⟨n, -, -, number, -⟩ := read
      cases value : n.toNumber? with
      | none =>
        rw [value] at number
        cases number
      | some x =>
        rw [value] at number
        cases number
    -- nothing is left behind the character that begins anything else
    all_goals
      rename_i front
      obtain ⟨-, rfl⟩ := List.cons.inj front
      cases read

end Blotter.Json
