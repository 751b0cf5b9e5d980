import Blotter.Power
import Blotter.Text.Numeral

/-!
# Finite binary floating-point numbers

A magnitude `mantissa * 2 ^ exponent` of the 64-bit binary format, as exact arithmetic on natural numbers.
`nearest?` rounds a fraction to the closest magnitude, a tie to the even mantissa. `shortest` finds the fewest decimal
digits that round back to a magnitude, and of these the closest. `Binary64.text` writes them without an exponent.
-/

namespace Blotter

/-- The magnitude of a finite binary number. -/
structure Binary64 where
  mantissa : Nat
  exponent : Int
deriving DecidableEq, Repr

namespace Binary64

/-- The mantissa has at most 53 bits. -/
def mantissaLimit : Nat := twoTo 53

/-- The exponent of the smallest magnitude. -/
def lowestExponent : Int := -1074

/-- The exponent of the largest magnitudes. -/
def highestExponent : Int := 971

/-- A magnitude as a fraction. -/
def toFraction (x : Binary64) : Nat × Nat :=
  if 0 ≤ x.exponent then (x.mantissa * twoTo x.exponent.toNat, 1) else (x.mantissa, twoTo (-x.exponent).toNat)

/-- The quotient `num / den` in units of `2 ^ e`, rounded to the nearest natural number, a tie to the even one. -/
def units (num den : Nat) (e : Int) : Nat :=
  let (n, d) := if 0 ≤ e then (num, den * twoTo e.toNat) else (num * twoTo (-e).toNat, den)
  let q := n / d
  let r := n % d
  if d < 2 * r || (2 * r == d && q % 2 == 1) then q + 1 else q

/-- The magnitude nearest to `num / den`; `none` if that is beyond the largest one. -/
def nearest? (num den : Nat) : Option Binary64 :=
  if num == 0 then some ⟨0, lowestExponent⟩
  else
    -- The quotient lies between `2 ^ (k - 1)` and `2 ^ (k + 1)`.
    let k : Int := (Nat.log2 num : Int) - Nat.log2 den
    let e := max (k - 53) lowestExponent
    -- The first of the three exponents at which the mantissa fits.
    let m := units num den e
    let (m, e) := if m < mantissaLimit then (m, e) else (units num den (e + 1), e + 1)
    let (m, e) := if m < mantissaLimit then (m, e) else (units num den (e + 1), e + 1)
    if e ≤ highestExponent then some ⟨m, e⟩ else none

/-- The magnitude nearest to a natural number. -/
def ofNat? (n : Nat) : Option Binary64 := nearest? n 1

/-- The rounded product. -/
def mul? (x y : Binary64) : Option Binary64 :=
  let (a, b) := x.toFraction
  let (c, d) := y.toFraction
  nearest? (a * c) (b * d)

/-- The rounded quotient. -/
def div? (x y : Binary64) : Option Binary64 :=
  let (a, b) := x.toFraction
  let (c, d) := y.toFraction
  nearest? (a * d) (b * c)

/-! ## The shortest decimal -/

/-- Whether `n / d * 10 ^ p` rounds to `x`. -/
def roundsTo (x : Binary64) (digits : Nat) (p : Int) : Bool :=
  let (num, den) := if 0 ≤ p then (digits * tenTo p.toNat, 1) else (digits, tenTo (-p).toNat)
  match nearest? num den with
  | some y => y.toFraction.1 * x.toFraction.2 == x.toFraction.1 * y.toFraction.2
  | none => false

/-- The two neighbours of `num / den` on the grid `10 ^ p`, with twice the remainder of the lower one and the unit. -/
def neighbours (num den : Nat) (p : Int) : Nat × Nat × Nat :=
  let (n, d) := if 0 ≤ p then (num, den * tenTo p.toNat) else (num * tenTo (-p).toNat, den)
  (n / d, 2 * (n % d), d)

/-- Searches the grids from the coarse one at `10 ^ p` to finer ones for a decimal that rounds to `x`. Of the two
neighbours on a grid the nearer one wins, of equally near ones the even one. -/
def search (x : Binary64) : Nat → Int → Nat × Int
  | 0, p => (0, p)
  | fuel + 1, p =>
    let (num, den) := x.toFraction
    let (low, rest, unit) := neighbours num den p
    let lowFits := roundsTo x low p
    let highFits := roundsTo x (low + 1) p
    let preferHigh := unit < rest || (rest == unit && low % 2 == 1)
    if highFits && (preferHigh || !lowFits) then (low + 1, p)
    else if lowFits then (low, p)
    else search x fuel (p - 1)

/-- How many digits a natural number has. -/
def digitCount (n : Nat) : Nat := (Numeral.digits n).length

/-- Digits and decimal exponent of the shortest decimal that rounds to `x`. -/
def shortest (x : Binary64) : Nat × Int :=
  if x.mantissa == 0 then (0, 0)
  else
    let (num, den) := x.toFraction
    -- No decimal with fewer digits than one lies near `x`.
    let top : Int := (digitCount num : Int) - digitCount den + 1
    search x 20 top

/-- A decimal in positional notation, without a point if there are no fraction digits. -/
def positional (digits : Nat) (p : Int) : List Char :=
  if 0 ≤ p then Numeral.digits (if digits == 0 then 0 else digits * tenTo p.toNat)
  else
    let places := (-p).toNat
    let ds := Numeral.padded (places + 1) digits
    ds.take (ds.length - places) ++ '.' :: ds.drop (ds.length - places)

/-- Drops the zeros at the end of the digits. -/
def trimZeros : Nat → Nat × Int → Nat × Int
  | 0, x => x
  | fuel + 1, (digits, p) =>
    if digits != 0 && digits % 10 == 0 then trimZeros fuel (digits / 10, p + 1) else (digits, p)

/-- The shortest text that reads back as `x`, in positional notation. -/
def text (x : Binary64) : List Char :=
  let (digits, p) := trimZeros 400 x.shortest
  positional digits p

end Binary64

end Blotter
