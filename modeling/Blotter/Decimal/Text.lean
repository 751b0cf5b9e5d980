import Blotter.Decimal.Basic
import Blotter.Text.Numeral

/-!
# Decimals as text

A decimal is written with its sign, at least one digit in front of the point and exactly `scale` digits behind it.
Reading accepts more than is written: a plus sign, underscores between the digits, a point without digits on one side,
and more fraction digits than fit, which are rounded away. Numbers with an exponent have a reader of their own.
-/

namespace Blotter

/-- Why a text is no decimal. -/
inductive DecimalError where
  | empty
  | noDigits
  | unknownCharacter
  | secondPoint
  | leadingSeparator
  | tooManyDigits
  | roundedTooLarge
deriving DecidableEq, Repr

/-- The sentence that says why a text is no decimal. -/
def DecimalError.message : DecimalError → String
  | .empty => "Invalid decimal: empty"
  | .noDigits => "Invalid decimal: no digits found"
  | .unknownCharacter => "Invalid decimal: unknown character"
  | .secondPoint => "Invalid decimal: two decimal points"
  | .leadingSeparator => "Invalid decimal: must start lead with a number"
  | .tooManyDigits => "Invalid decimal: overflow from too many digits"
  | .roundedTooLarge => "Invalid decimal: overflow from mantissa after rounding"

namespace Decimal

open Numeral

/-! ## Writing -/

/-- The text of a decimal: all digits, with the point in front of the last `scale` of them. -/
def toChars (a : Decimal) : List Char :=
  let ds := padded (a.scale + 1) a.coefficient
  let whole := ds.take (ds.length - a.scale)
  let body := if a.scale == 0 then ds else whole ++ '.' :: ds.drop (ds.length - a.scale)
  if a.negative then '-' :: body else body

/-- The text of a decimal. -/
def text (a : Decimal) : String := String.ofList a.toChars

/-! ## Reading -/

/-- Checks the characters behind the last digit that counts: digits and underscores only. -/
def checkRest : List Char → Except DecimalError Unit
  | [] => .ok ()
  | c :: rest =>
    if c.isDigit || c == '_' then checkRest rest
    else .error (if c == '.' then .secondPoint else .unknownCharacter)

/-- Rounds by the first digit that does not count, a five goes up. A coefficient that grows too large by that gives up
one more digit. -/
def roundBy (coefficient scale next : Nat) : Except DecimalError (Nat × Nat) :=
  if next < 5 then .ok (coefficient, scale)
  else if coefficient + 1 < limit then .ok (coefficient + 1, scale)
  else if scale == 0 then .error .roundedTooLarge
  else .ok ((coefficient + 5) / 10, scale - 1)

/-- Reads on from a coefficient and a scale. `point` says that the point has been read, `started` that a digit has. -/
def scan (point started : Bool) (coefficient scale : Nat) : List Char → Except DecimalError (Nat × Nat)
  | [] => if started then .ok (coefficient, scale) else .error .noDigits
  | c :: rest =>
    if c.isDigit then
      let next := coefficient * 10 + digitValue c
      if point && (scale == 28 || limit ≤ next) then do
        checkRest rest
        roundBy coefficient scale (digitValue c)
      else if limit ≤ next then .error .tooManyDigits
      else scan point true next (if point then scale + 1 else scale) rest
    else if c == '.' && !point then scan true started coefficient scale rest
    else if c == '_' && started then scan point started coefficient scale rest
    else .error <| if c == '.' then .secondPoint else if c == '_' then .leadingSeparator else .unknownCharacter

/-- The decimal with the scanned parts; a zero has no sign. -/
def ofScan (negative : Bool) (parts : Nat × Nat) : Except DecimalError Decimal :=
  (ofParts? (negative && parts.1 != 0) parts.1 parts.2).elim (.error .tooManyDigits) .ok

/-- Reads a decimal in positional notation. -/
def parseChars : List Char → Except DecimalError Decimal
  | [] => .error .empty
  | '-' :: rest => scan false false 0 0 rest >>= ofScan true
  | '+' :: rest => scan false false 0 0 rest >>= ofScan false
  | cs => scan false false 0 0 cs >>= ofScan false

/-- Reads a decimal in positional notation. -/
def parse (s : String) : Except DecimalError Decimal := parseChars s.toList

/-! ## Exponents -/

/-- An exponent: digits behind an optional plus sign. -/
def exponent? : List Char → Option Nat
  | '+' :: rest => value? rest
  | cs => value? cs

/-- Multiplies by `10 ^ n`: fraction digits turn into whole digits as long as there are any. -/
def shiftUp? (a : Decimal) (n : Nat) : Option Decimal :=
  if n ≤ a.scale then ofParts? a.negative a.coefficient (a.scale - n)
  else if 28 < n - a.scale then none
  else ofParts? a.negative (a.coefficient * tenTo (n - a.scale)) 0

/-- Reads a base and, behind `e` or `E`, an exponent. -/
def scientific? (cs : List Char) : Option Decimal := do
  let isMark := fun c => c == 'e' || c == 'E'
  let base ← (parseChars (cs.takeWhile (!isMark ·))).toOption
  match cs.dropWhile (!isMark ·) with
  | [] => none
  | _ :: '-' :: digits => do ofParts? base.negative base.coefficient (base.scale + (← exponent? digits))
  | _ :: digits => do base.shiftUp? (← exponent? digits)

/-- Reads a decimal in either notation; the positional one goes first. -/
def ofText? (s : String) : Option Decimal :=
  match parse s with
  | .ok d => some d
  | .error _ => scientific? s.toList

end Decimal

end Blotter
