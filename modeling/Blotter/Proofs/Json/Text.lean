import Mathlib
import Blotter.Proofs.Json.Strings

/-!
# Values read back

- The text of a value without floating-point numbers is read as the value (`parse_text`), even if something that is
  no part of a numeral follows (`value?_toChars`).
- That text is a single line (`lineBreak_notMem_toChars`).
-/

namespace Blotter.Json

mutual
/-- Whether the text of the value denotes it again: every part is usable and every number is exact. -/
def isExact : Json → Bool
  | .number n => n.isExact
  | .array xs => areExact xs
  | .object ms => membersAreExact ms
  | .unusable => false
  | _ => true

/-- Whether the texts of the values denote them again. -/
def areExact : List Json → Bool
  | [] => true
  | x :: xs => x.isExact && areExact xs

/-- Whether the texts of the members denote them again. -/
def membersAreExact : List (String × Json) → Bool
  | [] => true
  | (_, x) :: ms => x.isExact && membersAreExact ms
end

mutual
/-- An exact value has no part that denotes nothing. -/
theorem isUsable_of_isExact {v : Json} (h : v.isExact = true) : v.isUsable = true := by
  match v with
  | .null | .bool _ | .number _ | .string _ => rfl
  | .array xs => exact areUsable_of_areExact (by simpa [isExact] using h)
  | .object ms => exact membersAreUsable_of_membersAreExact (by simpa [isExact] using h)
  | .unusable => simp [isExact] at h

theorem areUsable_of_areExact {xs : List Json} (h : areExact xs = true) : areUsable xs = true := by
  match xs with
  | [] => rfl
  | x :: xs =>
    simp only [areExact, Bool.and_eq_true] at h
    simp [areUsable, isUsable_of_isExact h.1, areUsable_of_areExact h.2]

theorem membersAreUsable_of_membersAreExact {ms : List (String × Json)} (h : membersAreExact ms = true) :
    membersAreUsable ms = true := by
  match ms with
  | [] => rfl
  | (name, x) :: ms =>
    simp only [membersAreExact, Bool.and_eq_true] at h
    simp [membersAreUsable, isUsable_of_isExact h.1, membersAreUsable_of_membersAreExact h.2]
end

namespace Scan

/-! ## One step of the reader -/

theorem skipBlanks_cons {c : Char} (h : isBlank c = false) (cs : List Char) : skipBlanks (c :: cs) = c :: cs := by
  simp [skipBlanks, h]

theorem word?_append (w cs : List Char) : word? w (w ++ cs) = some cs := by
  simp [word?]

theorem isBlank_of_isDigit {c : Char} (h : c.isDigit = true) : isBlank c = false := by
  simp only [isBlank, Bool.or_eq_false_iff, beq_eq_false_iff_ne, ne_eq]
  refine ⟨⟨⟨?_, ?_⟩, ?_⟩, ?_⟩ <;> rintro rfl <;> exact absurd h (by decide)

/-- A value that starts with a digit or a minus sign is a number. -/
theorem value?_numeral {c : Char} (hc : c.isDigit = true ∨ c = '-') (fuel : Nat) (cs : List Char) :
    value? (fuel + 1) (c :: cs) =
      (Numeral.scan? (c :: cs)).map fun x => (x.1.toNumber?.elim .unusable .number, x.2) := by
  have blank : isBlank c = false := by
    rcases hc with hc | rfl
    · exact isBlank_of_isDigit hc
    · decide
  rw [value?.eq_def]
  simp only [skipBlanks_cons blank]
  split
  all_goals first
    | (rename_i e
       obtain ⟨rfl, rfl⟩ := List.cons.inj e
       exact absurd hc (by decide))
    | (cases Numeral.scan? (c :: cs) <;> rfl)

/-- A bracket that is not closed at once is followed by elements. -/
theorem value?_elements {cs tail : List Char} (start : skipBlanks cs = '[' :: tail)
    (more : (skipBlanks tail).head? ≠ some ']') (fuel : Nat) :
    value? (fuel + 1) cs = (elements? fuel (skipBlanks tail)).map fun x => (.array x.1, x.2) := by
  rw [value?, start]
  simp only
  split
  · rename_i closed
    exact absurd (congrArg List.head? closed) more
  · cases elements? fuel (skipBlanks tail) <;> rfl

/-- A brace that is not closed at once is followed by members. -/
theorem value?_members {cs tail : List Char} (start : skipBlanks cs = '\x7b' :: tail)
    (more : (skipBlanks tail).head? ≠ some '\x7d') (fuel : Nat) :
    value? (fuel + 1) cs = (members? fuel (skipBlanks tail)).map fun x => (ofMembers x.1, x.2) := by
  rw [value?, start]
  simp only
  split
  · rename_i closed
    exact absurd (congrArg List.head? closed) more
  · cases members? fuel (skipBlanks tail) <;> rfl

theorem value?_string (fuel : Nat) (s : String) (rest : List Char) :
    value? (fuel + 1) (quote s ++ rest) = some (.string s, rest) := by
  rw [quote, List.cons_append, List.cons_append, List.append_assoc, value?, skipBlanks_cons rfl]
  simp [string?_quote]

end Scan

/-! ## The texts of values -/

theorem toChars_number {n : JsonNumber} (h : n.isExact = true) :
    ∃ c cs, numberChars n = c :: cs ∧ (c.isDigit = true ∨ c = '-') := by
  have front (n : Nat) : ∃ c cs, Blotter.Numeral.digits n = c :: cs ∧ c.isDigit = true := by
    have hd := Blotter.Numeral.isDigit_of_mem_digits n
    cases hs : Blotter.Numeral.digits n with
    | nil => exact absurd hs (Blotter.Numeral.digits_ne_nil n)
    | cons c cs => exact ⟨c, cs, rfl, hd c (by simp [hs])⟩
  cases n with
  | natural n =>
    obtain ⟨c, cs, hc, hd⟩ := front n
    exact ⟨c, cs, hc, .inl hd⟩
  | negative n => exact ⟨'-', _, rfl, .inr rfl⟩
  | float negative x => simp [JsonNumber.isExact] at h

/-- A text starts neither with a blank nor with a closing bracket. -/
theorem toChars_cons {v : Json} (h : v.isExact = true) :
    ∃ c cs, v.toChars = c :: cs ∧ Scan.isBlank c = false ∧ c ≠ ']' := by
  cases v with
  | null => exact ⟨'n', _, rfl, by decide⟩
  | bool b => cases b <;> exact ⟨_, _, rfl, by decide⟩
  | number n =>
    obtain ⟨c, cs, hc, hd⟩ := toChars_number (n := n) (by simpa [isExact] using h)
    refine ⟨c, cs, hc, ?_, ?_⟩
    · rcases hd with hd | rfl
      · exact Scan.isBlank_of_isDigit hd
      · decide
    · rintro rfl
      exact absurd hd (by decide)
  | string s => exact ⟨'"', _, rfl, by decide⟩
  | array xs => cases xs <;> exact ⟨'[', _, rfl, by decide⟩
  | object ms =>
    cases ms with
    | nil => exact ⟨'\x7b', _, rfl, by decide⟩
    | cons m ms => exact ⟨'\x7b', _, rfl, by decide⟩
  | unusable => simp [isExact] at h

theorem stopsNumeral_elementChars (xs : List Json) (rest : List Char) : StopsNumeral (elementChars xs ++ rest) := by
  cases xs with
  | nil => exact stopsNumeral_cons (by decide) _
  | cons x xs => exact stopsNumeral_cons (by decide) _

theorem stopsNumeral_memberChars (ms : List (String × Json)) (rest : List Char) :
    StopsNumeral (memberChars ms ++ rest) := by
  cases ms with
  | nil => exact stopsNumeral_cons (by decide) _
  | cons m ms => exact stopsNumeral_cons (by decide) _

/-! ## The round trip -/

theorem Scan.ofMembers_named (ms : List (String × Json)) :
    ofMembers (ms.map fun m => (some m.1, m.2)) = .object ms := by
  have named : (ms.map fun m => (some m.1, m.2)).mapM
      (fun m : Option String × Json => m.1.map (·, m.2)) = some ms := by
    induction ms with
    | nil => rfl
    | cons m ms ih => rw [List.map_cons, List.mapM_cons, ih]; rfl
  simp only [ofMembers]
  rw [named]

mutual
/-- The text of an exact value is read as the value. Every array and object takes a step of its own and one for each
part of it, but it has at least as many characters. -/
theorem value?_toChars {v : Json} (h : v.isExact = true) {rest : List Char} (hr : StopsNumeral rest) {fuel : Nat}
    (hf : v.toChars.length ≤ fuel) : Scan.value? fuel (v.toChars ++ rest) = some (v, rest) := by
  obtain ⟨c, cs, hc, -, -⟩ := toChars_cons h
  obtain ⟨fuel, rfl⟩ : ∃ n, fuel = n + 1 := ⟨fuel - 1, by rw [hc, List.length_cons] at hf; omega⟩
  match v with
  | .null => rfl
  | .bool b => cases b <;> rfl
  | .number n =>
    have hn : n.isExact = true := by simpa [isExact] using h
    obtain ⟨c, cs, hc, hd⟩ := toChars_number hn
    obtain ⟨x, scanned, hx⟩ := Numeral.scan?_numberChars hn hr
    rw [toChars]
    rw [hc, List.cons_append] at scanned ⊢
    rw [Scan.value?_numeral hd, scanned, Option.map_some, hx]
    rfl
  | .string s =>
    rw [toChars]
    exact Scan.value?_string fuel s rest
  | .array [] => rfl
  | .array (x :: xs) =>
    simp only [isExact, areExact, Bool.and_eq_true] at h
    obtain ⟨c, cs, hc, blank, bracket⟩ := toChars_cons h.1
    simp only [toChars, List.length_cons, List.length_append] at hf
    have read : Scan.elements? fuel (_ ++ (_ ++ rest)) = _ := elements?_elementChars h.1 h.2 (by omega)
    have front : Scan.skipBlanks (x.toChars ++ (elementChars xs ++ rest)) = x.toChars ++ (elementChars xs ++ rest) := by
      rw [hc, List.cons_append, Scan.skipBlanks_cons blank]
    rw [toChars, List.cons_append, List.cons_append, List.append_assoc,
      Scan.value?_elements (Scan.skipBlanks_cons rfl _) ?_, front, read]
    · rfl
    · rw [front, hc]
      simpa using bracket
  | .object [] => rfl
  | .object ((name, x) :: ms) =>
    simp only [isExact, membersAreExact, Bool.and_eq_true] at h
    simp only [toChars, List.length_cons, List.length_append] at hf
    have read : Scan.members? fuel (quote name ++ (_ :: (_ ++ (_ ++ rest)))) = _ :=
      members?_memberChars h.1 h.2 (by omega)
    have front (cs : List Char) : Scan.skipBlanks (quote name ++ cs) = quote name ++ cs := Scan.skipBlanks_cons rfl _
    rw [toChars]
    simp only [List.cons_append, List.append_assoc] at read ⊢
    rw [Scan.value?_members (Scan.skipBlanks_cons rfl _) ?_, front, read, Option.map_some, Scan.ofMembers_named]
    rw [front]
    simp [quote]
termination_by fuel
decreasing_by all_goals omega

theorem elements?_elementChars {x : Json} {xs : List Json} (h : x.isExact = true) (hs : areExact xs = true)
    {rest : List Char} {fuel : Nat} (hf : x.toChars.length + (elementChars xs).length ≤ fuel) :
    Scan.elements? fuel (x.toChars ++ (elementChars xs ++ rest)) = some (x :: xs, rest) := by
  obtain ⟨c, cs, hc, -, -⟩ := toChars_cons h
  obtain ⟨fuel, rfl⟩ : ∃ n, fuel = n + 1 := ⟨fuel - 1, by rw [hc, List.length_cons] at hf; omega⟩
  have length : 0 < (elementChars xs).length := by cases xs <;> simp [elementChars]
  rw [Scan.elements?, value?_toChars h (stopsNumeral_elementChars xs rest) (by omega)]
  match xs with
  | [] => rfl
  | y :: ys =>
    simp only [areExact, Bool.and_eq_true] at hs
    simp only [elementChars, List.length_cons, List.length_append] at hf
    have read : Scan.elements? fuel (_ ++ (_ ++ rest)) = _ := elements?_elementChars hs.1 hs.2 (by omega)
    simp only [Option.bind_eq_bind, Option.bind_some, elementChars, List.cons_append, List.append_assoc,
      Scan.skipBlanks_cons (c := ',') rfl]
    rw [read]
    rfl
termination_by fuel
decreasing_by all_goals omega

theorem members?_memberChars {name : String} {x : Json} {ms : List (String × Json)} (h : x.isExact = true)
    (hs : membersAreExact ms = true) {rest : List Char} {fuel : Nat}
    (hf : x.toChars.length + (memberChars ms).length + 1 ≤ fuel) :
    Scan.members? fuel (quote name ++ (':' :: (x.toChars ++ (memberChars ms ++ rest)))) =
      some (((name, x) :: ms).map fun m => (some m.1, m.2), rest) := by
  obtain ⟨fuel, rfl⟩ : ∃ n, fuel = n + 1 := ⟨fuel - 1, by omega⟩
  have value : Scan.value? fuel _ = _ := value?_toChars h (stopsNumeral_memberChars ms rest) (by omega)
  rw [Scan.members?, quote, List.cons_append, List.cons_append, List.append_assoc, Scan.skipBlanks_cons rfl]
  simp only [List.cons_append, List.nil_append, Scan.string?_quote, Option.bind_eq_bind, Option.bind_some,
    Scan.skipBlanks_cons (c := ':') rfl, value]
  match ms with
  | [] => rfl
  | (name', y) :: ms' =>
    simp only [membersAreExact, Bool.and_eq_true] at hs
    simp only [memberChars, List.length_cons, List.length_append] at hf
    have read : Scan.members? fuel (quote name' ++ (_ :: (_ ++ (_ ++ rest)))) = _ :=
      members?_memberChars hs.1 hs.2 (by omega)
    simp only [memberChars, List.cons_append, List.append_assoc, Scan.skipBlanks_cons (c := ',') rfl]
    rw [read]
    rfl
termination_by fuel
decreasing_by all_goals omega
end

/-- The text of an exact value is read as the value. -/
theorem parse_text {v : Json} (h : v.isExact = true) : parse v.text = some v := by
  have read : Scan.value? (2 * v.toChars.length + 2) _ = _ := value?_toChars h stopsNumeral_nil (by omega)
  rw [List.append_nil] at read
  rw [parse, text, String.toList_ofList, parseChars, read]
  rfl

/-! ## One line -/

theorem lineBreak_notMem_digits (n : Nat) : '\n' ∉ Blotter.Numeral.digits n := fun h =>
  absurd (Blotter.Numeral.isDigit_of_mem_digits n _ h) (by decide)

theorem lineBreak_notMem_escape (c : Char) : '\n' ∉ escape c := by
  have hex : ∀ n < 0x20, '\n' ∉ ['\\', 'u', '0', '0', Numeral.hexDigit (n / 16), Numeral.hexDigit (n % 16)] := by
    decide
  rw [escape]
  repeat' split
  · decide
  · decide
  · rename_i h
    rw [List.mem_singleton]
    rintro rfl
    exact absurd h (by decide)
  · decide
  · decide
  · decide
  · decide
  · decide
  · exact hex _ (by omega)

theorem lineBreak_notMem_quote (s : String) : '\n' ∉ quote s := by
  have inside : '\n' ∉ s.toList.flatMap escape := by
    rw [List.mem_flatMap]
    rintro ⟨c, -, hc⟩
    exact lineBreak_notMem_escape c hc
  simp [quote, inside]

mutual
/-- The text of an exact value is a single line. -/
theorem lineBreak_notMem_toChars {v : Json} (h : v.isExact = true) : '\n' ∉ v.toChars := by
  match v with
  | .null => decide
  | .bool b => cases b <;> decide
  | .number (.natural n) => exact lineBreak_notMem_digits n
  | .number (.negative n) => simp [toChars, numberChars, lineBreak_notMem_digits n]
  | .string s => exact lineBreak_notMem_quote s
  | .array [] => decide
  | .array (x :: xs) =>
    simp only [isExact, areExact, Bool.and_eq_true] at h
    simp [toChars, lineBreak_notMem_toChars h.1, lineBreak_notMem_elementChars h.2]
  | .object [] => decide
  | .object ((name, x) :: ms) =>
    simp only [isExact, membersAreExact, Bool.and_eq_true] at h
    simp [toChars, lineBreak_notMem_quote, lineBreak_notMem_toChars h.1, lineBreak_notMem_memberChars h.2]

theorem lineBreak_notMem_elementChars {xs : List Json} (h : areExact xs = true) : '\n' ∉ elementChars xs := by
  match xs with
  | [] => decide
  | x :: xs =>
    simp only [areExact, Bool.and_eq_true] at h
    simp [elementChars, lineBreak_notMem_toChars h.1, lineBreak_notMem_elementChars h.2]

theorem lineBreak_notMem_memberChars {ms : List (String × Json)} (h : membersAreExact ms = true) :
    '\n' ∉ memberChars ms := by
  match ms with
  | [] => decide
  | (name, x) :: ms =>
    simp only [membersAreExact, Bool.and_eq_true] at h
    simp [memberChars, lineBreak_notMem_quote, lineBreak_notMem_toChars h.1, lineBreak_notMem_memberChars h.2]
end

end Blotter.Json
