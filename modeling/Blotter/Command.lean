import Blotter.Order

/-!
# Commands

A command is what a strategy asks for; it is journaled before it is carried out.
-/

namespace Blotter

/-- What a command asks for. -/
inductive CommandAction where
  | new
  | modify
  | cancel
deriving DecidableEq, Repr

namespace CommandAction

/-- All actions. -/
def all : List CommandAction := [.new, .modify, .cancel]

/-- The name of an action. -/
def name : CommandAction → String
  | .new => "NEW"
  | .modify => "MODIFY"
  | .cancel => "CANCEL"

/-- The action with the given name. -/
def ofName? (s : String) : Option CommandAction := all.find? (·.name == s)

end CommandAction

/-- A request of a strategy concerning one order. -/
structure Command where
  account : AccountId
  strategy : StrategyId
  orderId : OrderId
  action : CommandAction
  quantity : Option Decimal
  limitPrice : Option Decimal
  issuedAt : Instant
deriving DecidableEq

namespace Command

/-- The request to send an order. -/
def new (o : Order) (now : Instant) : Command where
  account := o.account
  strategy := o.strategy
  orderId := o.orderId
  action := .new
  quantity := some o.quantity
  limitPrice := o.limitPrice
  issuedAt := now

/-- The request to change quantity and limit price of an order. -/
def modify (o : Order) (quantity : Decimal) (limitPrice : Option Decimal) (now : Instant) : Command :=
  { new o now with action := .modify, quantity := some quantity, limitPrice }

/-- The request to cancel an order. -/
def cancel (o : Order) (now : Instant) : Command :=
  { new o now with action := .cancel, quantity := none, limitPrice := none }

end Command

end Blotter
