import Blotter.Order

/-!
# Rejects

A reject says which order was refused, by whom and why.
-/

namespace Blotter

/-- Who refused an order. -/
inductive RejectSource where
  /-- A check before the order left. -/
  | locally
  /-- The exchange. -/
  | exchange
deriving DecidableEq, Repr

namespace RejectSource

/-- All sources. -/
def all : List RejectSource := [.locally, .exchange]

/-- The name of a source. -/
def name : RejectSource → String
  | .locally => "LOCAL"
  | .exchange => "EXCHANGE"

/-- The source with the given name. -/
def ofName? (s : String) : Option RejectSource := all.find? (·.name == s)

end RejectSource

/-- Why an order was refused. -/
structure Reject where
  orderId : OrderId
  account : AccountId
  strategy : StrategyId
  reason : String
  source : RejectSource
  rejectedAt : Instant
deriving DecidableEq

namespace Reject

/-- The reject of an order. -/
def ofOrder (source : RejectSource) (o : Order) (reason : String) (now : Instant) : Reject where
  orderId := o.orderId
  account := o.account
  strategy := o.strategy
  reason := reason
  source := source
  rejectedAt := now

end Reject

end Blotter
