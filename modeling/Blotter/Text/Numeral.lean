/-!
# Numerals

`digits n` is the decimal numeral of a natural number, without leading zeros; `padded w n` fills it up with zeros to
the width `w`. `value` reads a run of digits back. In other bases letters stand for the digits from ten on.
-/

namespace Blotter.Numeral

/-- The digit of a number below ten. -/
def digit (n : Nat) : Char := Char.ofNat (n + 48)

/-- The number that a digit stands for. -/
def digitValue (c : Char) : Nat := c.toNat - 48

/-- The numeral of `n`: its digits from the highest down, `0` for zero. -/
def digits (n : Nat) : List Char :=
  if n < 10 then [digit n] else digits (n / 10) ++ [digit (n % 10)]
termination_by n
decreasing_by omega

/-- The numeral of `n` with leading zeros up to the width `w`. -/
def padded (w n : Nat) : List Char :=
  let ds := digits n
  List.replicate (w - ds.length) '0' ++ ds

/-- The number written by a run of digits. -/
def value (cs : List Char) : Nat := cs.foldl (fun n c => n * 10 + digitValue c) 0

/-- The number written by a text that consists of digits only; no number is written by the empty text. -/
def value? (cs : List Char) : Option Nat :=
  if !cs.isEmpty && cs.all Char.isDigit then some (value cs) else none

/-- The numeral of an integer: a minus sign in front of the negative ones. -/
def ofInt (i : Int) : List Char :=
  if i < 0 then '-' :: digits i.natAbs else digits i.natAbs

/-! ## Other bases -/

/-- The hexadecimal digit of a number below 16, in lower case. -/
def hexDigit (n : Nat) : Char := if n < 10 then digit n else Char.ofNat (n + 87)

/-- The number that a digit of the given base stands for, in either case. -/
def digitIn? (base : Nat) (c : Char) : Option Nat :=
  let n :=
    if c.isDigit then some (digitValue c)
    else if 'a' ≤ c && c ≤ 'z' then some (c.toNat - 87)
    else if 'A' ≤ c && c ≤ 'Z' then some (c.toNat - 55)
    else none
  n.filter (· < base)

/-- The number written by a run of digits of the given base; no number is written by the empty run. -/
def valueIn? (base : Nat) (cs : List Char) : Option Nat :=
  if cs.isEmpty then none else cs.foldlM (fun n c => (digitIn? base c).map (n * base + ·)) 0

end Blotter.Numeral
