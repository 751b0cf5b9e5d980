import Blotter.Text.Numeral

/-!
# Integers in YAML

A decimal numeral without leading zeros, or digits of another base behind `0x`, `0o` or `0b`, with a sign in front. A
plus sign in front of a base allows no second sign.
-/

namespace Blotter.Yaml

/-- The digits behind the mark of a base, with that base. -/
def based? : List Char → Option (Nat × List Char)
  | '0' :: 'x' :: rest => some (16, rest)
  | '0' :: 'o' :: rest => some (8, rest)
  | '0' :: 'b' :: rest => some (2, rest)
  | _ => none

/-- Whether a run of digits starts with a zero that says nothing; such a run is a text. -/
def hasLeadingZero (cs : List Char) : Bool := cs.head? == some '0' && 1 < cs.length && cs.all Char.isDigit

/-- The magnitude of an integer behind its sign. -/
def magnitude? (cs : List Char) : Option Nat :=
  match based? cs with
  | some (base, digits) => Numeral.valueIn? base digits
  | none => if hasLeadingZero cs then none else Numeral.value? cs

/-- The integer that a plain scalar writes. -/
def integer? : List Char → Option Int
  | '-' :: cs => (magnitude? cs).map fun n => -(n : Int)
  | '+' :: cs => (magnitude? cs).map Int.ofNat
  | cs => (magnitude? cs).map Int.ofNat

end Blotter.Yaml
