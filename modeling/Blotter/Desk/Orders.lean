import Blotter.Desk.Basic

/-!
# Orders and reports

A new order is journaled as a command before it takes the way to the exchange, and as an order or a reject afterwards;
a change and a cancel likewise. New orders and changes are refused while the journal is full, cancels never are. A
report of the exchange changes what is tracked, and is told to the owner of the order and journaled.
-/

namespace Blotter

/-- What the exchange reports. -/
inductive ExecutionReport where
  /-- An order is known at the exchange. -/
  | ack (o : Order)
  | reject (o : Order) (r : Reject)
  | canceled (o : Order)
  | fill (f : Fill)
deriving DecidableEq

/-- Why an order is refused while the journal is full. -/
def AdmissionRefusal.rejectReason (r : AdmissionRefusal) : String := s!"journal admission: {r.label}"

namespace Desk

variable {ω ρ σ : Type} [JournalAccess ω] [Router ρ] [StageKind σ]

open DeskOp

/-- Sends a new order. One that is refused is rejected, and its owner is told. -/
def sendNew (o : Order) : DeskOp ω ρ σ RouteOutcome := do
  needReady
  needStrategy o.strategy (.newOrder o.orderId)
  match ← admissionRefusal with
  | some refusal =>
    let reject := Reject.ofOrder .locally o refusal.rejectReason (← get).now
    deliverReject o reject
    return .rejected reject
  | none =>
    persist (.command (Command.new o (← get).now))
    let outcome ← send o
    match outcome with
    | .accepted sent =>
      persist (.order sent)
      modify (·.track sent)
    | .rejected reject => deliverReject o reject
    modify (·.count .sendLatency)
    return outcome

/-- Changes quantity and limit price of a tracked order. While the journal is full that is refused and nothing is
journaled. -/
def modifyOrder (orderId : OrderId) (quantity : Decimal) (limitPrice : Option Decimal) : DeskOp ω ρ σ RouteOutcome := do
  needReady
  let o ← needOrder orderId
  match ← admissionRefusal with
  | some refusal => return .rejected (Reject.ofOrder .locally o refusal.rejectReason (← get).now)
  | none =>
    persist (.command (Command.modify o quantity limitPrice (← get).now))
    needRouted (← modifyAtRouter orderId quantity limitPrice)
    let updated := { o.withStatus o.status (← get).now with quantity, limitPrice }
    persist (.order updated)
    modify (·.track updated)
    return .accepted updated

/-- Cancels a tracked order. -/
def cancelOrder (orderId : OrderId) : DeskOp ω ρ σ Unit := do
  let o ← needOrder orderId
  persist (.command (Command.cancel o (← get).now))
  needRouted (← cancelAtRouter orderId)
  let pending := o.withStatus .pendingCancel (← get).now
  persist (.order pending)
  modify (·.track pending)

/-- Takes a report of the exchange. A fill has to be one of a tracked order. -/
def onReport : ExecutionReport → DeskOp ω ρ σ Unit
  | .ack o => do
    modify (·.track o)
    deliver o.strategy [.order o] (.orderAck o)
  | .reject o r => do
    modify (·.untrack o.orderId)
    deliverReject o r
  | .canceled o => do
    modify (·.untrack o.orderId)
    deliver o.strategy [.order o] (.cancel o)
  | .fill f => do
    let o ← needOrder f.orderId
    let o ← ofOverflow (o.applyFill f.quantity f.price (← get).now)
    modify fun d => if o.isOpen then d.track o else d.untrack o.orderId
    deliver f.strategy [.fill f, .order o] (.fill o f)

end Desk

end Blotter
