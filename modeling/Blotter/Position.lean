import Blotter.Fill

/-!
# Positions

A position is the net quantity that a strategy holds of an instrument, with the average price at which it was entered.
-/

namespace Blotter

/-- What tells one position from another. -/
structure PositionKey where
  account : AccountId
  strategy : StrategyId
  instrument : InstrumentId
deriving DecidableEq, Repr

instance : Ord PositionKey where
  compare a b := (compare a.account b.account).then <| (compare a.strategy b.strategy).then
    (compare a.instrument b.instrument)

/-- The position that a fill belongs to. -/
def Fill.positionKey (f : Fill) : PositionKey := ⟨f.account, f.strategy, f.instrument⟩

/-- A position; a positive quantity is long. -/
structure Position where
  account : AccountId
  strategy : StrategyId
  instrument : InstrumentId
  quantity : Decimal
  avgPrice : Decimal
deriving DecidableEq

namespace Position

/-- The position without any holding. -/
def flat (key : PositionKey) : Position := ⟨key.account, key.strategy, key.instrument, .zero, .zero⟩

/-- The key of a position. -/
def key (p : Position) : PositionKey := ⟨p.account, p.strategy, p.instrument⟩

/-- Whether nothing is held. -/
def isFlat (p : Position) : Bool := p.quantity.isZero

/-- The position after a fill. While it grows, the average price weights old and new quantity; while it shrinks, the
average price stays; when it changes sides, the fill's price takes its place. -/
def apply (p : Position) (side : Side) (quantity price : Decimal) : Except Overflow Position := do
  let delta := side.signed quantity
  let next ← p.quantity.add delta
  if p.quantity.isZero || p.quantity.isNegative == delta.isNegative then
    let notional ← (← p.avgPrice.mul p.quantity.abs).add (← price.mul quantity)
    let avg ← if next.isZero then pure Decimal.zero else notional.div next.abs
    return { p with quantity := next, avgPrice := avg }
  else if next.isZero then return { p with quantity := next, avgPrice := .zero }
  else if next.isNegative != p.quantity.isNegative then return { p with quantity := next, avgPrice := price }
  else return { p with quantity := next }

/-- The position after a fill. -/
def applyFill (p : Position) (f : Fill) : Except Overflow Position := p.apply f.side f.quantity f.price

end Position

end Blotter
