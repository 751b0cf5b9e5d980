import Blotter.Decimal.Arithmetic
import Blotter.Identifier
import Blotter.Instant.Basic

/-!
# Orders

An order carries its latest state: what was asked for, how much of it has been filled and at which average price, and
the status. Every change takes the time at which it happens.
-/

namespace Blotter

/-- Which way an order trades. -/
inductive Side where
  | buy
  | sell
deriving DecidableEq, Repr

namespace Side

/-- All sides. -/
def all : List Side := [.buy, .sell]

/-- The name of a side. -/
def name : Side → String
  | .buy => "BUY"
  | .sell => "SELL"

/-- The side with the given name. -/
def ofName? (s : String) : Option Side := all.find? (·.name == s)

/-- A quantity with the sign of the side: a sale counts negative, even if it is zero. -/
def signed : Side → Decimal → Decimal
  | .buy, q => q
  | .sell, q => q.neg

end Side

/-- How the price of an order is set. -/
inductive OrderType where
  | market
  | limit
deriving DecidableEq, Repr

namespace OrderType

/-- All order types. -/
def all : List OrderType := [.market, .limit]

/-- The name of an order type. -/
def name : OrderType → String
  | .market => "MARKET"
  | .limit => "LIMIT"

/-- The order type with the given name. -/
def ofName? (s : String) : Option OrderType := all.find? (·.name == s)

end OrderType

/-- Where an order stands. -/
inductive OrderStatus where
  | pendingNew
  | new
  | partiallyFilled
  | filled
  | pendingCancel
  | canceled
  | rejected
  | replaced
deriving DecidableEq, Repr

namespace OrderStatus

/-- All statuses. -/
def all : List OrderStatus :=
  [.pendingNew, .new, .partiallyFilled, .filled, .pendingCancel, .canceled, .rejected, .replaced]

/-- The name of a status. -/
def name : OrderStatus → String
  | .pendingNew => "PENDING_NEW"
  | .new => "NEW"
  | .partiallyFilled => "PARTIALLY_FILLED"
  | .filled => "FILLED"
  | .pendingCancel => "PENDING_CANCEL"
  | .canceled => "CANCELED"
  | .rejected => "REJECTED"
  | .replaced => "REPLACED"

/-- The status with the given name. -/
def ofName? (s : String) : Option OrderStatus := all.find? (·.name == s)

/-- Whether the exchange may still trade the order. -/
def isOpen : OrderStatus → Bool
  | .pendingNew | .new | .partiallyFilled | .pendingCancel => true
  | .filled | .canceled | .rejected | .replaced => false

end OrderStatus

/-- The latest state of an order. -/
structure Order where
  orderId : OrderId
  account : AccountId
  strategy : StrategyId
  instrument : InstrumentId
  side : Side
  orderType : OrderType
  quantity : Decimal
  limitPrice : Option Decimal
  filledQuantity : Decimal
  avgFillPrice : Option Decimal
  status : OrderStatus
  updatedAt : Instant
deriving DecidableEq

namespace Order

/-- A new limit order. -/
def limit (orderId : OrderId) (account : AccountId) (strategy : StrategyId) (instrument : InstrumentId) (side : Side)
    (quantity price : Decimal) (now : Instant) : Order where
  orderId := orderId
  account := account
  strategy := strategy
  instrument := instrument
  side := side
  orderType := .limit
  quantity := quantity
  limitPrice := some price
  filledQuantity := .zero
  avgFillPrice := none
  status := .pendingNew
  updatedAt := now

/-- A new market order. -/
def market (orderId : OrderId) (account : AccountId) (strategy : StrategyId) (instrument : InstrumentId) (side : Side)
    (quantity : Decimal) (now : Instant) : Order where
  orderId := orderId
  account := account
  strategy := strategy
  instrument := instrument
  side := side
  orderType := .market
  quantity := quantity
  limitPrice := none
  filledQuantity := .zero
  avgFillPrice := none
  status := .pendingNew
  updatedAt := now

/-- Whether the exchange may still trade the order. -/
def isOpen (o : Order) : Bool := o.status.isOpen

/-- The quantity that is not filled yet, zero if more than the quantity is filled. -/
def leaves (o : Order) : Except Overflow Decimal := do
  return (← o.quantity.sub o.filledQuantity).max .zero

/-- The order with a new status. -/
def withStatus (o : Order) (status : OrderStatus) (now : Instant) : Order :=
  { o with status, updatedAt := now }

/-- The order after an execution. The average price weights the prices with their quantities; it stays as it is while
the filled quantity is zero. -/
def applyFill (o : Order) (quantity price : Decimal) (now : Instant) : Except Overflow Order := do
  let notional ← (o.avgFillPrice.getD .zero).mul o.filledQuantity
  let filled ← o.filledQuantity.add quantity
  let avg ← if filled.isZero then pure o.avgFillPrice
    else do
      let total ← notional.add (← quantity.mul price)
      pure (some (← total.div filled))
  return { o with
    filledQuantity := filled
    avgFillPrice := avg
    status := if o.quantity.le filled then .filled else .partiallyFilled
    updatedAt := now }

end Order

end Blotter
