import Mathlib
import Blotter.Instant.Text
import Blotter.Proofs.Calendar
import Blotter.Proofs.Text.Numeral

/-!
# Instants read back

- The text of every instant is read as the instant (`parse_text`): years of any size, fractions of a second and leap
  seconds included.
- The text with an offset is read by the strict reader too, as long as the year has four digits and no sign
  (`parseStrict_offsetText`).
- Different dates have different texts (`Date.text_injective`).
-/

namespace Blotter.Instant

open Numeral Text

/-! ## The parts of a text -/

theorem skipBlanks_cons {c : Char} (h : isBlank c = false) (cs : List Char) : skipBlanks (c :: cs) = c :: cs := by
  simp [skipBlanks, h]

theorem isBlank_of_isDigit {c : Char} (h : c.isDigit = true) : isBlank c = false := by
  simp only [Char.isDigit, Bool.and_eq_true, decide_eq_true_eq, UInt32.le_iff_toNat_le, ge_iff_le] at h
  have lower : 48 ≤ c.toNat := h.1
  have upper : c.toNat ≤ 57 := h.2
  simp [isBlank]
  omega

/-- A run of digits in front of something else is read as its value. -/
theorem number?_append {least most : Nat} {ds rest : List Char} (hd : ∀ c ∈ ds, c.isDigit = true)
    (hl : least ≤ ds.length) (hm : ds.length ≤ most) (hr : StopsDigits rest) :
    number? least most (ds ++ rest) = some (value ds, rest) := by
  have front : ((ds ++ rest).take most).takeWhile Char.isDigit = ds := by
    rw [List.take_append, List.take_of_length_le hm, takeWhile_isDigit hd (hr.take _)]
  simp only [number?, front, List.drop_left]
  rw [if_neg (by omega)]

theorem number?_padded {least most w n : Nat} {rest : List Char} (hw : 0 < w) (hn : n < tenTo w) (hl : least ≤ w)
    (hm : w ≤ most) (hr : StopsDigits rest) : number? least most (padded w n ++ rest) = some (n, rest) := by
  have hlen := length_padded hw hn
  rw [number?_append isDigit_of_mem_padded (by omega) (by omega) hr, value_padded]

/-- A field of two digits is read as its value. -/
theorem field?_padded {n : Nat} {rest : List Char} (hn : n < 100) (hr : StopsDigits rest) :
    field? (padded 2 n ++ rest) = some (n, rest) := by
  have hd : ∀ c ∈ padded 2 n, c.isDigit = true := isDigit_of_mem_padded
  have hne := padded_ne_nil 2 n
  have blank : skipBlanks (padded 2 n ++ rest) = padded 2 n ++ rest := by
    cases h : padded 2 n with
    | nil => exact absurd h hne
    | cons c cs => exact skipBlanks_cons (isBlank_of_isDigit (hd c (by simp [h]))) _
  rw [field?, blank]
  exact number?_padded (by decide) hn (by decide) (by decide) hr

theorem separator?_cons {c : Char} (h : isBlank c = false) (cs : List Char) : separator? c (c :: cs) = some cs := by
  simp [separator?, skipBlanks_cons h, expect?]

theorem stopsDigits_cons {c : Char} (h : c.isDigit = false) (cs : List Char) : StopsDigits (c :: cs) := by
  intro d hd
  obtain rfl : c = d := by simpa using hd
  exact h

theorem stopsDigits_dash (cs : List Char) : StopsDigits ('-' :: cs) := stopsDigits_cons rfl cs

theorem stopsDigits_T (cs : List Char) : StopsDigits ('T' :: cs) := stopsDigits_cons rfl cs

theorem stopsDigits_colon (cs : List Char) : StopsDigits (':' :: cs) := stopsDigits_cons rfl cs

/-! ## Years -/

theorem padded_cons (w n : Nat) : ∃ c cs, padded w n = c :: cs ∧ c.isDigit = true := by
  have hd : ∀ c ∈ padded w n, c.isDigit = true := isDigit_of_mem_padded
  cases h : padded w n with
  | nil => exact absurd h (padded_ne_nil w n)
  | cons c cs => exact ⟨c, cs, rfl, hd c (by simp [h])⟩

/-- A year without a sign is read as up to four digits. -/
theorem year?_digit {c : Char} (h : c.isDigit = true) (cs : List Char) :
    year? (c :: cs) = (number? 1 4 (c :: cs)).map fun (n, rest) => ((n : Int), rest) := by
  rw [year?.eq_def]
  split
  · rename_i e
    obtain ⟨rfl, -⟩ := List.cons.inj e
    exact absurd h (by decide)
  · rename_i e
    obtain ⟨rfl, -⟩ := List.cons.inj e
    exact absurd h (by decide)
  · rfl

/-- The text of a year in front of something else is read as the year. -/
theorem year?_yearText {year : Int} {rest : List Char} (hr : StopsDigits rest) :
    year? (Date.yearText year ++ rest) = some (year, rest) := by
  rw [Date.yearText]
  split
  · rename_i h
    simp only [Bool.and_eq_true, decide_eq_true_eq] at h
    obtain ⟨c, cs, hc, hd⟩ := padded_cons 4 year.toNat
    have read : number? 1 4 (padded 4 year.toNat ++ rest) = some (year.toNat, rest) :=
      number?_padded (by decide) (show year.toNat < 10000 by omega) (by decide) (by decide) hr
    rw [hc, List.cons_append] at read ⊢
    rw [year?_digit hd, read]
    simp
    omega
  · have read : number? 1 (padded 4 year.natAbs ++ rest).length (padded 4 year.natAbs ++ rest) =
        some (year.natAbs, rest) := by
      have := le_length_padded 4 year.natAbs
      rw [number?_append isDigit_of_mem_padded (by omega) (by simp) hr, value_padded]
    split
    · rw [List.cons_append, year?, read]
      simp only [Option.map_some, Option.some.injEq, Prod.mk.injEq, and_true]
      omega
    · rw [List.cons_append, year?, read]
      simp only [Option.map_some, Option.some.injEq, Prod.mk.injEq, and_true]
      omega

/-- A year of four digits is read by the strict reader. -/
theorem number?_yearText {year : Int} {rest : List Char} (h : 0 ≤ year ∧ year ≤ 9999) (hr : StopsDigits rest) :
    number? 4 4 (Date.yearText year ++ rest) = some (year.toNat, rest) := by
  rw [Date.yearText, if_pos (by simpa using h)]
  exact number?_padded (by decide) (show year.toNat < 10000 by omega) (by decide) (by decide) hr

theorem yearText_cons (year : Int) : ∃ c cs, Date.yearText year = c :: cs ∧ isBlank c = false := by
  rw [Date.yearText]
  split
  · obtain ⟨c, cs, hc, hd⟩ := padded_cons 4 year.toNat
    exact ⟨c, cs, hc, isBlank_of_isDigit hd⟩
  · exact ⟨_, _, rfl, by split <;> decide⟩

/-! ## Fractions -/

/-- A text that does not go on with a fraction or a digit. -/
def StopsFraction (cs : List Char) : Prop := ∀ c ∈ cs.head?, c.isDigit = false ∧ c ≠ '.'

theorem StopsFraction.stopsDigits {cs : List Char} (h : StopsFraction cs) : StopsDigits cs := fun c hc => (h c hc).1

theorem fraction?_of_stops {cs : List Char} (h : StopsFraction cs) : fraction? cs = some (0, cs) := by
  rw [fraction?.eq_def]
  split
  · exact absurd rfl (h '.' (by simp)).2
  · rfl

/-- A fraction of `w` digits is read in units of `10 ^ (9 - w)`. -/
theorem fraction?_padded {w n : Nat} {rest : List Char} (hw : 0 < w) (hw' : w ≤ 9) (hn : n < tenTo w)
    (hr : StopsDigits rest) : fraction? ('.' :: padded w n ++ rest) = some (n * tenTo (9 - w), rest) := by
  have hd : ∀ c ∈ padded w n, c.isDigit = true := isDigit_of_mem_padded
  have hlen := length_padded hw hn
  have width : ((padded w n ++ rest).take 9).takeWhile Char.isDigit = padded w n := by
    rw [List.take_append, List.take_of_length_le (by omega), takeWhile_isDigit hd (hr.take _)]
  rw [List.cons_append, fraction?, number?_padded hw hn hw hw' hr]
  simp only [Option.bind_eq_bind, Option.bind_some, width, hlen]
  congr 2
  rw [← List.nil_append rest]
  exact dropWhile_isDigit (by simp) hr

/-- The fraction of a second is read as it was. -/
theorem fraction?_fractionChars {nano : Nat} {rest : List Char} (hn : nano < 1000000000) (hr : StopsFraction rest) :
    fraction? (fractionChars nano ++ rest) = some (nano, rest) := by
  rw [fractionChars]
  split
  · rename_i h
    simp only [beq_iff_eq] at h
    rw [List.nil_append, fraction?_of_stops hr, h]
  · split
    · rename_i h
      simp only [beq_iff_eq] at h
      rw [fraction?_padded (by decide) (by decide) (show nano / 1000000 < 1000 by omega) hr.stopsDigits]
      have : tenTo (9 - 3) = 1000000 := rfl
      rw [this, Nat.div_mul_cancel (Nat.dvd_of_mod_eq_zero h)]
    · split
      · rename_i h
        simp only [beq_iff_eq] at h
        rw [fraction?_padded (by decide) (by decide) (show nano / 1000 < 1000000 by omega) hr.stopsDigits]
        have : tenTo (9 - 6) = 1000 := rfl
        rw [this, Nat.div_mul_cancel (Nat.dvd_of_mod_eq_zero h)]
      · rw [fraction?_padded (by decide) (by decide) (show nano < 1000000000 from hn) hr.stopsDigits]
        have : tenTo (9 - 9) = 1 := rfl
        rw [this, Nat.mul_one]

/-! ## The round trip -/

/-- The fields that the text of an instant has. -/
def fields (t : Instant) : Fields where
  year := t.date.year
  month := t.date.month
  day := t.date.day
  hour := t.second / 3600
  minute := t.second / 60 % 60
  second := if 1000000000 ≤ t.nano then t.second % 60 + 1 else t.second % 60
  nano := if 1000000000 ≤ t.nano then t.nano - 1000000000 else t.nano
  offset := 0

theorem toChars_eq (t : Instant) : t.toChars =
    Date.yearText t.fields.year ++ '-' :: (padded 2 t.fields.month ++ '-' :: (padded 2 t.fields.day ++ 'T' ::
      (padded 2 t.fields.hour ++ ':' :: (padded 2 t.fields.minute ++ ':' :: (padded 2 t.fields.second ++
        fractionChars t.fields.nano))))) := by
  simp [toChars, fields, Date.toChars]

theorem year_bounds (t : Instant) : -262143 ≤ t.date.year ∧ t.date.year ≤ 262142 := by
  have lower := Calendar.startOfYear_yearOf_le t.day
  have upper := Calendar.lt_startOfYear_yearOf t.day
  have first := t.first_le_day
  have last := t.day_le_last
  simp only [date, Date.year_ofDay]
  constructor
  · by_contra h
    have : Calendar.startOfYear (Calendar.yearOf t.day + 1) ≤ Calendar.startOfYear (-262143) :=
      Calendar.startOfYear_mono (by omega)
    have : Calendar.startOfYear (-262143) = -96465292 := by decide
    omega
  · by_contra h
    have : Calendar.startOfYear 262143 ≤ Calendar.startOfYear (Calendar.yearOf t.day) :=
      Calendar.startOfYear_mono (by omega)
    have : Calendar.startOfYear 262143 = 95026237 := by decide
    omega

/-- The fields of an instant are as short as they are written. -/
theorem fields_lt (t : Instant) : t.fields.month < 100 ∧ t.fields.day < 100 ∧ t.fields.hour < 100 ∧
    t.fields.minute < 100 ∧ t.fields.second < 100 ∧ t.fields.nano < 1000000000 := by
  have hd := Date.ofDay_lt t.day
  have hs := t.second_lt
  have hn := t.nano_lt
  refine ⟨hd.1, hd.2, ?_, ?_, ?_, ?_⟩
  · simp only [fields]
    omega
  · simp only [fields]
    omega
  · simp only [fields]
    split <;> omega
  · simp only [fields]
    split <;> omega

/-- The fields of an instant denote it. -/
theorem ofFields?_fields (t : Instant) : ofFields? t.fields = some t := by
  have hy := year_bounds t
  have hs := t.second_lt
  have hn := t.nano_lt
  have hl := t.leap
  have valid : (⟨t.date.year, t.date.month, t.date.day⟩ : Date).isValid = true := Date.isValid_ofDay t.day
  have number : (⟨t.date.year, t.date.month, t.date.day⟩ : Date).toDay = t.day := Date.toDay_ofDay t.day
  by_cases h : 1000000000 ≤ t.nano
  · have h60 : t.second % 60 + 1 = 60 := by
      have := hl h
      omega
    have whole :
        ((t.second / 3600 : Nat) : Int) * 3600 + ((t.second / 60 % 60 : Nat) : Int) * 60 + 59 - 0 = t.second := by
      have := hl h
      omega
    simp only [ofFields?, fields, h, if_true, valid, number, Bool.true_and, h60]
    rw [if_pos (by simp; omega)]
    simp only [beq_self_eq_true, if_true]
    rw [show (((59 : Nat) : Int)) = 59 from rfl, whole, show t.nano - 1000000000 + 1000000000 = t.nano by omega,
      show (t.second : Int) / 86400 = 0 by omega, show (t.second : Int) % 86400 = t.second by omega]
    simp [ofParts?, firstDay, lastDay, t.first_le_day, t.day_le_last, hs, hn]
    exact hl
  · have h60 : (t.second % 60 == 60) = false := by
      simp
      omega
    have whole : ((t.second / 3600 : Nat) : Int) * 3600 + ((t.second / 60 % 60 : Nat) : Int) * 60 +
        ((t.second % 60 : Nat) : Int) - 0 = t.second := by
      omega
    simp only [ofFields?, fields, h, if_false, valid, number, Bool.true_and, h60]
    rw [if_pos (by simp; omega)]
    simp only [Bool.false_eq_true, if_false]
    rw [whole, show (t.second : Int) / 86400 = 0 by omega, show (t.second : Int) % 86400 = t.second by omega]
    simp [ofParts?, firstDay, lastDay, t.first_le_day, t.day_le_last, hs, hn]
    exact hl

/-- The text of an instant is read as the instant. -/
theorem parse_text (t : Instant) : parse t.text = some t := by
  obtain ⟨hmonth, hday, hhour, hminute, hsecond, hnano⟩ := fields_lt t
  have stop : StopsFraction ['Z'] := by
    intro c hc
    obtain rfl : 'Z' = c := by simpa using hc
    decide
  have stopsNano : StopsDigits (fractionChars t.fields.nano ++ ['Z']) := by
    rw [fractionChars]
    split
    · exact stop.stopsDigits
    · split
      · exact stopsDigits_cons rfl _
      · split <;> exact stopsDigits_cons rfl _
  have front : skipBlanks (Date.yearText t.fields.year ++ '-' :: (padded 2 t.fields.month ++ '-' ::
      (padded 2 t.fields.day ++ 'T' :: (padded 2 t.fields.hour ++ ':' :: (padded 2 t.fields.minute ++ ':' ::
        (padded 2 t.fields.second ++ (fractionChars t.fields.nano ++ ['Z']))))))) =
      Date.yearText t.fields.year ++ '-' :: (padded 2 t.fields.month ++ '-' ::
      (padded 2 t.fields.day ++ 'T' :: (padded 2 t.fields.hour ++ ':' :: (padded 2 t.fields.minute ++ ':' ::
        (padded 2 t.fields.second ++ (fractionChars t.fields.nano ++ ['Z'])))))) := by
    obtain ⟨c, cs, hc, hb⟩ := yearText_cons t.fields.year
    rw [hc]
    exact skipBlanks_cons hb _
  rw [parse, text, String.toList_ofList, toChars_eq]
  simp only [List.append_assoc, List.cons_append]
  rw [parseChars, front, year?_yearText (stopsDigits_dash _)]
  dsimp only [Option.bind_eq_bind, Option.bind_some]
  rw [separator?_cons rfl]
  dsimp only [Option.bind_some]
  rw [field?_padded hmonth (stopsDigits_dash _)]
  dsimp only [Option.bind_some]
  rw [separator?_cons rfl]
  dsimp only [Option.bind_some]
  rw [field?_padded hday (stopsDigits_T _)]
  change Option.bind (field? (padded 2 t.fields.hour ++ ':' :: _)) _ = _
  rw [field?_padded hhour (stopsDigits_colon _)]
  dsimp only [Option.bind_some]
  rw [separator?_cons rfl]
  dsimp only [Option.bind_some]
  rw [field?_padded hminute (stopsDigits_colon _)]
  dsimp only [Option.bind_some]
  rw [separator?_cons rfl]
  dsimp only [Option.bind_some]
  rw [field?_padded hsecond stopsNano]
  dsimp only [Option.bind_some]
  rw [fraction?_fractionChars hnano stop]
  exact ofFields?_fields t

/-- The strict reader reads the text with an offset if the year has four digits and no sign. -/
theorem parseStrict_offsetText {t : Instant} (h : 0 ≤ t.date.year ∧ t.date.year ≤ 9999) :
    parseStrict t.offsetText = some t := by
  obtain ⟨hmonth, hday, hhour, hminute, hsecond, hnano⟩ := fields_lt t
  have stop : StopsFraction "+00:00".toList := by
    intro c hc
    obtain rfl : '+' = c := by simpa using hc
    decide
  have stopsNano : StopsDigits (fractionChars t.fields.nano ++ "+00:00".toList) := by
    rw [fractionChars]
    split
    · exact stop.stopsDigits
    · split
      · exact stopsDigits_cons rfl _
      · split <;> exact stopsDigits_cons rfl _
  have two {n : Nat} {rest : List Char} (hn : n < 100) (hr : StopsDigits rest) :
      number? 2 2 (padded 2 n ++ rest) = some (n, rest) :=
    number?_padded (by decide) hn (by decide) (by decide) hr
  have hyear : 0 ≤ t.fields.year ∧ t.fields.year ≤ 9999 := h
  rw [parseStrict, offsetText, String.toList_ofList, toChars_eq]
  simp only [List.append_assoc, List.cons_append]
  have expect (c : Char) (cs : List Char) : expect? c (c :: cs) = some cs := by simp [expect?]
  have year : ((t.fields.year.toNat : Nat) : Int) = t.fields.year := Int.toNat_of_nonneg h.1
  rw [parseStrictChars, number?_yearText hyear (stopsDigits_dash _)]
  dsimp only [Option.bind_eq_bind, Option.bind_some]
  rw [expect, year]
  dsimp only [Option.bind_some]
  rw [two hmonth (stopsDigits_dash _)]
  dsimp only [Option.bind_some]
  rw [expect]
  dsimp only [Option.bind_some]
  rw [two hday (stopsDigits_T _)]
  change Option.bind (number? 2 2 (padded 2 t.fields.hour ++ ':' :: _)) _ = _
  rw [two hhour (stopsDigits_colon _)]
  dsimp only [Option.bind_some]
  rw [expect]
  dsimp only [Option.bind_some]
  rw [two hminute (stopsDigits_colon _)]
  dsimp only [Option.bind_some]
  rw [expect]
  dsimp only [Option.bind_some]
  rw [two hsecond stopsNano]
  dsimp only [Option.bind_some]
  rw [fraction?_fractionChars hnano stop]
  exact ofFields?_fields t

end Blotter.Instant

namespace Blotter.Date

open Numeral Instant

/-- Different dates have different texts. -/
theorem text_injective : Function.Injective text := by
  intro a b h
  obtain ⟨year, month, day⟩ := a
  obtain ⟨year', month', day'⟩ := b
  have chars := String.ofList_injective h
  simp only [toChars, List.append_assoc, List.cons_append] at chars
  have years := congrArg year? chars
  rw [year?_yearText (stopsDigits_dash _), year?_yearText (stopsDigits_dash _)] at years
  obtain ⟨rfl, rest⟩ := Prod.mk.inj (Option.some.inj years)
  have rest := (List.cons.inj rest).2
  have months := congrArg (List.takeWhile Char.isDigit) rest
  rw [takeWhile_isDigit isDigit_of_mem_padded (stopsDigits_dash _),
    takeWhile_isDigit isDigit_of_mem_padded (stopsDigits_dash _)] at months
  have days := congrArg (List.dropWhile Char.isDigit) rest
  rw [dropWhile_isDigit isDigit_of_mem_padded (stopsDigits_dash _),
    dropWhile_isDigit isDigit_of_mem_padded (stopsDigits_dash _)] at days
  have month_eq := congrArg value months
  have day_eq := congrArg value (List.cons.inj days).2
  rw [value_padded, value_padded] at month_eq day_eq
  rw [month_eq, day_eq]

end Blotter.Date
