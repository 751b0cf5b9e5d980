import Blotter.Order

/-!
# Fills

A fill is one execution of an order. The name of the execution tells a second report of it from a second execution.
-/

namespace Blotter

/-- One execution of an order. -/
structure Fill where
  execId : ExecId
  orderId : OrderId
  account : AccountId
  strategy : StrategyId
  instrument : InstrumentId
  side : Side
  quantity : Decimal
  price : Decimal
  executedAt : Instant
deriving DecidableEq

/-- An execution of the given order. -/
def Fill.ofOrder (o : Order) (execId : ExecId) (quantity price : Decimal) (now : Instant) : Fill where
  execId := execId
  orderId := o.orderId
  account := o.account
  strategy := o.strategy
  instrument := o.instrument
  side := o.side
  quantity := quantity
  price := price
  executedAt := now

/-- A copy of a fill that the exchange sent on a separate session. -/
structure FillCopy where
  fill : Fill
  /-- The session that sent the copy. -/
  source : String
deriving DecidableEq

end Blotter
