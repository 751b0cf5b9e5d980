import Blotter.Json.Basic
import Blotter.Power

/-!
# Numerals in JSON

`scan?` splits a numeral into its parts, `Numeral.toNumber?` gives it a value. As many leading digits as fit 64 bits
form a significand, the digits after them only move the decimal exponent. The floating-point value is that significand
multiplied or divided by a rounded power of ten, so it is rounded more than once and need not be the number closest to
the numeral.
-/

namespace Blotter.Json

/-- The parts of a numeral. -/
structure Numeral where
  negative : Bool
  whole : List Char
  /-- The digits behind the point; empty if there is no point. -/
  fraction : List Char
  /-- The exponent's sign and digits. -/
  exponent : Option (Bool × List Char)

namespace Numeral

/-- The largest significand. -/
def significandMax : Nat := 18446744073709551615

/-- Adds the whole digits: a significand and the count of digits that no longer fit. -/
def addWhole (x : Nat × Nat) (c : Char) : Nat × Nat :=
  let next := x.1 * 10 + Blotter.Numeral.digitValue c
  if x.2 != 0 || significandMax < next then (x.1, x.2 + 1) else (next, 0)

/-- Adds the fraction digits to a significand and counts them, up to the first one that does not fit. -/
def addFraction : List Char → Nat × Nat → Nat × Nat
  | [], x => x
  | c :: rest, (significand, count) =>
    let next := significand * 10 + Blotter.Numeral.digitValue c
    if significandMax < next then (significand, count) else addFraction rest (next, count + 1)

/-- Multiplies a magnitude by a power of ten in steps of at most `10 ^ 308`; `none` if the result is too large. -/
def scaleBy? : Nat → Binary64 → Int → Option Binary64
  | 0, x, _ => some x
  | fuel + 1, x, e =>
    if e.natAbs ≤ 308 then do
      let power ← Binary64.ofNat? (tenTo e.natAbs)
      if 0 ≤ e then x.mul? power else x.div? power
    else if x.mantissa == 0 then some x
    else if 0 ≤ e then none
    else do scaleBy? fuel (← x.div? (← Binary64.ofNat? (tenTo 308))) (e + 308)

/-- The floating-point value of a significand and a decimal exponent. -/
def toFloat? (significand : Nat) (e : Int) : Option Binary64 := do
  scaleBy? 4 (← Binary64.ofNat? significand) e

/-- The exponent part as a number; a larger exponent than 31 bits hold is `none`. -/
def exponentValue? : Option (Bool × List Char) → Option Int
  | none => some 0
  | some (negative, ds) =>
    let n := Blotter.Numeral.value ds
    if 2147483647 < n then none else some (if negative then -(n : Int) else n)

/-- The value of a numeral; `none` if it is beyond the floating-point range. -/
def toNumber? (x : Numeral) : Option JsonNumber :=
  let (significand, dropped) := x.whole.foldl addWhole (0, 0)
  if x.fraction.isEmpty && x.exponent.isNone && dropped == 0 then
    if !x.negative then some (.natural significand)
    else if significand == 0 || 9223372036854775808 < significand then
      (toFloat? significand 0).map (.float true)
    else some (.negative significand)
  else
    let (significand, count) := addFraction x.fraction (significand, 0)
    let start : Int := (dropped : Int) - count
    match exponentValue? x.exponent with
    | some e => (toFloat? significand (start + e)).map (.float x.negative)
    | none =>
      if significand != 0 && (x.exponent.any fun e => !e.1) then none
      else some (.float x.negative ⟨0, Binary64.lowestExponent⟩)

/-- Reads the digits in front. -/
def digits (cs : List Char) : List Char × List Char := (cs.takeWhile Char.isDigit, cs.dropWhile Char.isDigit)

/-- Reads the digits of an exponent, one at least. -/
def exponentDigits? (negative : Bool) (cs : List Char) : Option (Option (Bool × List Char) × List Char) :=
  let (ds, rest) := digits cs
  if ds.isEmpty then none else some (some (negative, ds), rest)

/-- Reads the sign and the digits of an exponent. -/
def signedExponent? : List Char → Option (Option (Bool × List Char) × List Char)
  | '-' :: rest => exponentDigits? true rest
  | '+' :: rest => exponentDigits? false rest
  | rest => exponentDigits? false rest

/-- Reads the exponent, if there is one. -/
def scanExponent? : List Char → Option (Option (Bool × List Char) × List Char)
  | 'e' :: rest | 'E' :: rest => signedExponent? rest
  | cs => some (none, cs)

/-- Reads the fraction, if there is one. -/
def scanFraction? : List Char → Option (List Char × List Char)
  | '.' :: rest =>
    let (ds, rest) := digits rest
    if ds.isEmpty then none else some (ds, rest)
  | cs => some ([], cs)

/-- Reads a numeral behind its sign. A whole part of more than one digit does not start with zero. -/
def scanUnsigned? (negative : Bool) (cs : List Char) : Option (Numeral × List Char) := do
  let (whole, cs) := digits cs
  if whole.isEmpty || (whole.head? == some '0' && 1 < whole.length) then none
  else
    let (fraction, cs) ← scanFraction? cs
    let (exponent, cs) ← scanExponent? cs
    some (⟨negative, whole, fraction, exponent⟩, cs)

/-- Reads a numeral. -/
def scan? : List Char → Option (Numeral × List Char)
  | '-' :: rest => scanUnsigned? true rest
  | cs => scanUnsigned? false cs

end Numeral

end Blotter.Json
