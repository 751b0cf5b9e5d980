import Blotter.Power
import Blotter.Text.Numeral

/-!
# Identifiers

Orders, accounts, strategies, instruments and executions are named by texts. Each kind has a type of its own; within a
kind the order is the order of the texts by code points.
-/

namespace Blotter

/-- The name of an order. -/
structure OrderId where
  name : String
deriving DecidableEq, Repr, Inhabited

/-- The name of a trading account. -/
structure AccountId where
  name : String
deriving DecidableEq, Repr, Inhabited

/-- The name of a strategy, the owner of orders, fills and positions. -/
structure StrategyId where
  name : String
deriving DecidableEq, Repr, Inhabited

/-- The name of a tradeable instrument. -/
structure InstrumentId where
  name : String
deriving DecidableEq, Repr, Inhabited

/-- The exchange's name of an execution; no two fills share one. -/
structure ExecId where
  name : String
deriving DecidableEq, Repr, Inhabited

instance : Ord OrderId := ⟨fun a b => compare a.name b.name⟩
instance : Ord AccountId := ⟨fun a b => compare a.name b.name⟩
instance : Ord StrategyId := ⟨fun a b => compare a.name b.name⟩
instance : Ord InstrumentId := ⟨fun a b => compare a.name b.name⟩
instance : Ord ExecId := ⟨fun a b => compare a.name b.name⟩

instance : ToString OrderId := ⟨OrderId.name⟩
instance : ToString AccountId := ⟨AccountId.name⟩
instance : ToString StrategyId := ⟨StrategyId.name⟩
instance : ToString InstrumentId := ⟨InstrumentId.name⟩
instance : ToString ExecId := ⟨ExecId.name⟩

/-! ## Random identifiers -/

namespace RandomId

/-- The lowest `count` hexadecimal digits of `n`, highest first. -/
def hexDigits : Nat → Nat → List Char
  | 0, _ => []
  | count + 1, n => hexDigits count (n / 16) ++ [Numeral.hexDigit (n % 16)]

/-- The identifier made from 122 random bits (version 4): 32 hexadecimal digits in groups of 8, 4, 4, 4 and
12, of which the 13th is the version and the 17th begins with the bits `10`. -/
def ofBits (random : Nat) : String :=
  let ds := hexDigits 32 random
  let variant := Numeral.hexDigit (8 + random / twoTo 60 % 4)
  String.ofList <| ds.take 8 ++ '-' :: (ds.drop 8).take 4 ++ '-' :: '4' :: (ds.drop 13).take 3 ++
    '-' :: variant :: (ds.drop 17).take 3 ++ '-' :: ds.drop 20

/-- Whether a character is a hexadecimal digit in lower case. -/
def isHexDigit (c : Char) : Bool := c.isDigit || ('a' ≤ c && c ≤ 'f')

/-- Whether a text is an identifier of version 4 in lower case. -/
def isVersion4 (s : String) : Bool :=
  match s.toList.splitOnP (· == '-') with
  | [a, b, c, d, e] =>
    [a, b, c, d, e].map List.length == [8, 4, 4, 4, 12] && [a, b, c, d, e].all (·.all isHexDigit) &&
      c.head? == some '4' && (d.head?.any fun x => ['8', '9', 'a', 'b'].contains x)
  | _ => false

end RandomId

end Blotter
