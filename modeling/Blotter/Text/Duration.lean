import Blotter.Power
import Blotter.Text.Numeral

/-!
# Durations

A duration is written in the largest of the units s, ms, µs and ns that it reaches, with as many fraction digits as it
needs.
-/

namespace Blotter.Duration

open Numeral

/-- A fraction of `width` digits without the zeros at its end, and without the point if nothing is left. -/
def fractionChars (width n : Nat) : List Char :=
  match (padded width n).reverse.dropWhile (· == '0') with
  | [] => []
  | ds => '.' :: ds.reverse

/-- A number of nanoseconds in a unit of `10 ^ width` nanoseconds. -/
def inUnit (width nanos : Nat) (unit : String) : String :=
  let fraction := if width == 0 then [] else fractionChars width (nanos % tenTo width)
  String.ofList (digits (nanos / tenTo width) ++ fraction) ++ unit

/-- The text of a duration of so many nanoseconds. -/
def text (nanos : Nat) : String :=
  if 1000000000 ≤ nanos then inUnit 9 nanos "s"
  else if 1000000 ≤ nanos then inUnit 6 nanos "ms"
  else if 1000 ≤ nanos then inUnit 3 nanos "µs"
  else inUnit 0 nanos "ns"

end Blotter.Duration
