import Blotter.Decimal.Basic

/-!
# Decimal arithmetic

Sums and products are exact where the exact result is a decimal. Otherwise fraction digits are given up, as few as
possible, with one rounding to the nearest coefficient, ties to the even one; a result without any fraction digit left
that is still too large is an overflow. A quotient has as many digits as fit, less the trailing zeros that the
division itself produced.
-/

namespace Blotter

/-- The operation whose result is larger than every decimal. -/
inductive Overflow where
  | addition
  | subtraction
  | multiplication
  | division
deriving DecidableEq, Repr

/-- The sentence that names the operation. -/
def Overflow.message : Overflow → String
  | .addition => "Addition overflowed"
  | .subtraction => "Subtraction overflowed"
  | .multiplication => "Multiplication overflowed"
  | .division => "Division overflowed"

namespace Decimal

/-- The quotient `n / d` rounded to the nearest natural number, a tie to the even one. -/
def roundHalfEven (n d : Nat) : Nat :=
  let q := n / d
  let r := n % d
  if d < 2 * r || (2 * r == d && q % 2 == 1) then q + 1 else q

/-- Gives up fraction digits of `n / 10 ^ scale` until coefficient and scale are those of a decimal, starting with
`dropped` digits given up; `none` if no fraction digit is left. -/
def fit? (negative : Bool) (n scale dropped : Nat) : Option Decimal :=
  if scale < dropped then none
  else
    let coefficient := roundHalfEven n (tenTo dropped)
    match ofParts? (negative && coefficient != 0) coefficient (scale - dropped) with
    | some d => some d
    | none => fit? negative n scale (dropped + 1)
termination_by scale + 1 - dropped

/-- The exact sum of two decimals with coefficients other than zero, brought into range; a zero has no sign. -/
def addExact? (a b : Decimal) : Option Decimal :=
  let scale := Nat.max a.scale b.scale
  let sum := a.signed * tenTo (scale - a.scale) + b.signed * tenTo (scale - b.scale)
  fit? (decide (sum < 0)) sum.natAbs scale 0

/-- The sum; a zero leaves the other side as it is, sign and scale included. -/
def add (a b : Decimal) : Except Overflow Decimal :=
  if a.isZero then .ok b
  else if b.isZero then .ok a
  else (addExact? a b).elim (.error .addition) .ok

/-- The difference; of two zeros it is the second one. -/
def sub (a b : Decimal) : Except Overflow Decimal :=
  if a.isZero then .ok (if b.isZero then b else b.neg)
  else if b.isZero then .ok a
  else (addExact? a b.neg).elim (.error .subtraction) .ok

/-- The product; a zero factor gives the plain zero. -/
def mul (a b : Decimal) : Except Overflow Decimal :=
  if a.isZero || b.isZero then .ok zero
  else (fit? (a.negative != b.negative) (a.coefficient * b.coefficient) (a.scale + b.scale) 0).elim
    (.error .multiplication) .ok

/-! ## Quotients -/

/-- A quotient under way: `(quotient + remainder / divisor) / 10 ^ scale`. The scale is below zero while the dividend
still owes fraction digits. -/
structure Quotient where
  quotient : Nat
  remainder : Nat
  scale : Int

/-- The largest `k ≤ most` with `n * 10 ^ k` below the limit, zero if there is none. -/
def room (n most : Nat) : Nat :=
  match most with
  | 0 => 0
  | k + 1 => if n * tenTo (k + 1) < limit then k + 1 else room n k

/-- Appends the digits of the quotient, up to nine at a time, until nothing remains or nothing more fits, where the
last digit is rounded. The flag says whether digits were appended to a remainder. `fuel` bounds the number of rounds;
each one lengthens the scale. -/
def extend? (divisor : Nat) : Nat → Quotient → Bool → Option (Nat × Nat × Bool)
  | 0, _, _ => none
  | fuel + 1, x, inexact =>
    if x.remainder == 0 && 0 ≤ x.scale then some (x.quotient, x.scale.toNat, inexact)
    else
      let k := if x.remainder == 0 then Nat.min 9 (-x.scale).toNat else room x.quotient (Nat.min 9 (28 - x.scale).toNat)
      let inexact := inexact || x.remainder != 0
      if x.remainder != 0 && k == 0 then
        if x.scale < 0 then none
        else
          let up := divisor < 2 * x.remainder || (2 * x.remainder == divisor && x.quotient % 2 == 1)
          let q := if up then x.quotient + 1 else x.quotient
          if q < limit then some (q, x.scale.toNat, inexact)
          else if x.scale == 0 then none
          else some (roundHalfEven q 10, (x.scale - 1).toNat, inexact)
      else
        let scaled := x.remainder * tenTo k
        let q := x.quotient * tenTo k + scaled / divisor
        let r := scaled % divisor
        let scale := x.scale + k
        if q < limit then extend? divisor fuel ⟨q, r, scale⟩ inexact
        else if scale - 1 < 0 then none
        else
          let last := q % 10
          let up := 5 < last || (last == 5 && (r != 0 || q / 10 % 2 == 1))
          some (if up then q / 10 + 1 else q / 10, (scale - 1).toNat, inexact)

/-- Drops `k` zeros at the end, if there are so many and the scale allows it. -/
def dropZeros (k : Nat) (x : Nat × Nat) : Nat × Nat :=
  if k ≤ x.2 && x.1 % tenTo k == 0 then (x.1 / tenTo k, x.2 - k) else x

/-- Drops zeros eight at a time as long as the low 32 bits of the coefficient are zero. -/
def dropEights : Nat → Nat × Nat → Nat × Nat
  | 0, x => x
  | fuel + 1, x =>
    if 8 ≤ x.2 && x.1 % twoTo 32 == 0 && x.1 % tenTo 8 == 0 then dropEights fuel (x.1 / tenTo 8, x.2 - 8) else x

/-- The trailing zeros that a division leaves are dropped by eights, then four, two and one at most once each. -/
def trimQuotient (x : Nat × Nat) : Nat × Nat :=
  dropZeros 1 (dropZeros 2 (dropZeros 4 (dropEights 4 x)))

/-- The quotient. A zero dividend gives the plain zero, and a quotient that is rounded to zero has no sign either;
nothing is divided by zero. -/
def div (a b : Decimal) : Except Overflow Decimal :=
  if b.isZero then .error .division
  else if a.isZero then .ok zero
  else
    let start : Quotient :=
      ⟨a.coefficient / b.coefficient, a.coefficient % b.coefficient, (a.scale : Int) - b.scale⟩
    match extend? b.coefficient 100 start false with
    | none => .error .division
    | some (q, s, inexact) =>
      let (q, s) := if inexact then trimQuotient (q, s) else (q, s)
      (ofParts? ((a.negative != b.negative) && q != 0) q s).elim (.error .division) .ok

end Decimal

end Blotter
