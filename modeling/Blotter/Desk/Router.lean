import Blotter.Reject

/-!
# Routers

A router is the way to the exchange. It sends, changes and cancels orders and knows which ones it holds to be open.
Every question may change it, so it may answer as it likes.
-/

namespace Blotter

/-- What becomes of a new order. -/
inductive RouteOutcome where
  /-- The order is on its way; it may differ from what was sent. -/
  | accepted (o : Order)
  | rejected (r : Reject)
deriving DecidableEq

/-- What a router is asked to do. -/
inductive RouterCall where
  | send (o : Order)
  | cancel (orderId : OrderId)
  | modify (orderId : OrderId) (quantity : Decimal) (limitPrice : Option Decimal)
  /-- To keep an order in mind that was sent earlier. -/
  | restore (o : Order)
deriving DecidableEq

/-- Ways to the exchange with states of type `ρ`. -/
class Router (ρ : Type) where
  send : Order → Instant → ρ → RouteOutcome × ρ
  /-- Asks to cancel an order; the reason if that is refused. -/
  cancel : OrderId → ρ → Except String Unit × ρ
  /-- Asks to change quantity and limit price of an order; the reason if that is refused. -/
  modify : OrderId → Decimal → Option Decimal → ρ → Except String Unit × ρ
  restore : Order → ρ → ρ
  openOrders : ρ → List Order × ρ

/-! ## A scripted router -/

/-- A router that does what its owner tells it and notes what it is asked to do. -/
structure ScriptedRouter where
  /-- How many cancels are swallowed. -/
  ignoreCancels : Nat := 0
  /-- Why new orders are rejected. -/
  rejectReason : Option String := none
  /-- The status that new orders are accepted with. -/
  acceptStatus : Option OrderStatus := none
  cancelError : Option String := none
  modifyError : Option String := none
  openOrders : List Order := []
  calls : List RouterCall := []
deriving DecidableEq

namespace ScriptedRouter

/-- Notes a call. -/
def note (r : ScriptedRouter) (call : RouterCall) : ScriptedRouter := { r with calls := r.calls ++ [call] }

/-- Sends an order. -/
def send (o : Order) (now : Instant) (r : ScriptedRouter) : RouteOutcome × ScriptedRouter :=
  let r := r.note (.send o)
  match r.rejectReason with
  | some reason => (.rejected (.ofOrder .exchange o reason now), r)
  | none =>
    let accepted := { o with status := r.acceptStatus.getD o.status }
    (.accepted accepted, { r with openOrders := r.openOrders ++ [accepted] })

/-- Cancels an order. -/
def cancel (orderId : OrderId) (r : ScriptedRouter) : Except String Unit × ScriptedRouter :=
  let r := r.note (.cancel orderId)
  match r.cancelError with
  | some reason => (.error reason, r)
  | none =>
    if 0 < r.ignoreCancels then (.ok (), { r with ignoreCancels := r.ignoreCancels - 1 })
    else (.ok (), { r with openOrders := r.openOrders.filter (·.orderId != orderId) })

/-- Changes an order. -/
def modify (orderId : OrderId) (quantity : Decimal) (limitPrice : Option Decimal) (r : ScriptedRouter) :
    Except String Unit × ScriptedRouter :=
  let r := r.note (.modify orderId quantity limitPrice)
  match r.modifyError with
  | some reason => (.error reason, r)
  | none => (.ok (), r)

/-- Keeps an order in mind. -/
def restore (o : Order) (r : ScriptedRouter) : ScriptedRouter :=
  let r := r.note (.restore o)
  { r with openOrders := r.openOrders ++ [o] }

instance : Router ScriptedRouter where
  send := send
  cancel := cancel
  modify := modify
  restore := restore
  openOrders r := (r.openOrders, r)

end ScriptedRouter

end Blotter
