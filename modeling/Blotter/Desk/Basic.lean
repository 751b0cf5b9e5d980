import Blotter.Desk.Chain
import Blotter.Desk.Error
import Blotter.Journal.Access
import Blotter.Observability.Metrics

/-!
# Trading desks

A desk carries the orders of its strategies to the exchange and the reports of the exchange back to them. It journals
what it is about to do and what has happened, and it keeps track of the orders that are open. The journal, the router
and the stages before it are parameters. `Desk.trace` holds everything that a desk has done to the world around it, in
order.
-/

namespace Blotter

/-- What a strategy is told. -/
inductive Callback where
  | orderAck (o : Order)
  | orderReject (o : Order) (r : Reject)
  | fill (o : Order) (f : Fill)
  | cancel (o : Order)
  /-- An order that was open before the desk started. -/
  | rebuildOrder (o : Order)
  /-- A position that was held before the desk started. -/
  | rebuildPosition (p : Position)
deriving DecidableEq

/-- What a desk does to the world around it. -/
inductive DeskAction where
  /-- It hands an event to the journal, which takes it or not. -/
  | persist (event : Event) (toBus : Bool) (taken : Bool)
  /-- It tells a strategy something. -/
  | tell (strategy : StrategyId) (callback : Callback)
  /-- It asks the router something. -/
  | route (call : RouterCall)
deriving DecidableEq

/-- A trading desk on a journal of type `ω` and a router of type `ρ` behind stages of type `σ`. -/
structure Desk (ω ρ : Type) (σ : Type := Stage) where
  account : AccountId
  settings : DeskSettings
  strategies : List StrategyId
  /-- The orders that count as open. -/
  tracked : Table OrderId Order
  /-- Whether orders flow. -/
  ready : Bool
  journal : ω
  chain : Chain ρ σ
  metrics : Metrics
  trace : List DeskAction
  now : Instant
deriving DecidableEq

/-- What a desk does: a change of the desk with a result or a failure. The change stays when it fails. -/
abbrev DeskOp (ω ρ σ α : Type) := EStateM (Failure DeskError) (Desk ω ρ σ) α

/-- What a desk does whose stages are those that settings can ask for. -/
abbrev DeskM (ω ρ α : Type) := DeskOp ω ρ Stage α

namespace Desk

variable {ω ρ σ : Type}

/-- A desk without strategies; orders flow once it has recovered its state. -/
def new (account : AccountId) (settings : DeskSettings) (journal : ω) (chain : Chain ρ σ) (now : Instant) :
    Desk ω ρ σ where
  account := account
  settings := settings
  strategies := []
  tracked := .empty
  ready := false
  journal := journal
  chain := chain
  metrics := .empty
  trace := []
  now := now

/-- Whether a strategy is registered. -/
def knows (d : Desk ω ρ σ) (strategy : StrategyId) : Bool := d.strategies.contains strategy

/-- Registers a strategy. -/
def register (d : Desk ω ρ σ) (strategy : StrategyId) : Desk ω ρ σ :=
  if d.knows strategy then d else { d with strategies := d.strategies ++ [strategy] }

/-- The desk after an action. -/
def note (d : Desk ω ρ σ) (action : DeskAction) : Desk ω ρ σ := { d with trace := d.trace ++ [action] }

/-- The desk with an order among the open ones. -/
def track (d : Desk ω ρ σ) (o : Order) : Desk ω ρ σ := { d with tracked := d.tracked.insert o.orderId o }

/-- The desk without an order among the open ones. -/
def untrack (d : Desk ω ρ σ) (orderId : OrderId) : Desk ω ρ σ := { d with tracked := d.tracked.erase orderId }

/-- The desk with a counter raised. -/
def count (d : Desk ω ρ σ) (c : Counter) : Desk ω ρ σ := { d with metrics := d.metrics.add c 1 }

end Desk

namespace DeskOp

variable {ω ρ σ α : Type}

/-- Fails with an error of the desk. -/
def fail (e : DeskError) : DeskOp ω ρ σ α := throw (.reported e)

/-- Demands a result that the journal may refuse. -/
def ofJournal : Except JournalError α → DeskOp ω ρ σ α
  | .ok a => pure a
  | .error e => fail (.journal e)

/-- Demands a result of decimal arithmetic. -/
def ofOverflow : Except Overflow α → DeskOp ω ρ σ α
  | .ok a => pure a
  | .error o => throw (.overflow o)

/-- Demands that orders flow. -/
def needReady : DeskOp ω ρ σ Unit := do
  if !(← get).ready then fail .notReady

/-- Demands that a strategy is registered. -/
def needStrategy (strategy : StrategyId) (mention : StrategyMention) : DeskOp ω ρ σ Unit := do
  if !(← get).knows strategy then fail (.unknownStrategy strategy mention)

/-- Demands that an order is tracked. -/
def needOrder (orderId : OrderId) : DeskOp ω ρ σ Order := do
  match (← get).tracked.find? orderId with
  | some o => pure o
  | none => fail (.unknownOrder orderId)

/-- Tells a strategy something. -/
def tell (strategy : StrategyId) (callback : Callback) : DeskOp ω ρ σ Unit := modify (·.note (.tell strategy callback))

section Journal

variable [JournalAccess ω]

/-- Hands an event to the journal. Observers are told about everything but commands. -/
def tryPersist (event : Event) : DeskOp ω ρ σ (Except JournalError Nat) := do
  let d ← get
  let toBus := event.kind != .command
  let (result, journal) := JournalAccess.persist event toBus d.journal
  set ({ d with journal }.note (.persist event toBus result.toOption.isSome))
  return result

/-- Journals an event. -/
def persist (event : Event) : DeskOp ω ρ σ Unit := do
  let _ ← ofJournal (← tryPersist event)

/-- Journals events one after the other, up to the first one that the journal refuses. -/
def persistAll (events : List Event) : DeskOp ω ρ σ Unit := events.forM persist

/-- Why the journal admits no new orders, if so; the refusal is counted. -/
def admissionRefusal : DeskOp ω ρ σ (Option AdmissionRefusal) := do
  let d ← get
  let refusal :=
    if !JournalAccess.canPersist d.journal then some AdmissionRefusal.fileBackpressure
    else if !JournalAccess.canPersistToDatabase d.journal then some .databaseBackpressure
    else none
  match refusal with
  | none => return none
  | some reason =>
    modify (·.count (.refused reason))
    return some reason

/-- Tells a strategy of an event and journals what belongs to it, in the order that the settings ask for. -/
def deliver (strategy : StrategyId) (events : List Event) (callback : Callback) : DeskOp ω ρ σ Unit := do
  needStrategy strategy .executionReport
  match (← get).settings.persistOrdering with
  | .callbackFirst =>
    tell strategy callback
    persistAll events
  | .persistFirst =>
    persistAll events
    tell strategy callback

/-- Tells the owner of an order that it was rejected, and journals that. -/
def deliverReject (o : Order) (r : Reject) : DeskOp ω ρ σ Unit := do
  let rejected := o.withStatus .rejected (← get).now
  deliver o.strategy [.orderReject rejected r] (.orderReject rejected r)

end Journal

section Router

variable [Router ρ]

/-- Sends an order through the chain. -/
def send [StageKind σ] (o : Order) : DeskOp ω ρ σ RouteOutcome := do
  let d ← get
  let (routing, chain) := d.chain.send o d.now
  let d := { d with chain }
  set (if routing.vetoed then d.count (.refused .stageVeto) else d.note (.route (.send o)))
  return routing.outcome

/-- Asks the router to cancel an order. -/
def cancelAtRouter (orderId : OrderId) : DeskOp ω ρ σ (Except String Unit) := do
  let d ← get
  let (result, chain) := d.chain.cancel orderId
  set ({ d with chain }.note (.route (.cancel orderId)))
  return result

/-- Asks the router to change an order. -/
def modifyAtRouter (orderId : OrderId) (quantity : Decimal) (limitPrice : Option Decimal) :
    DeskOp ω ρ σ (Except String Unit) := do
  let d ← get
  let (result, chain) := d.chain.modify orderId quantity limitPrice
  set ({ d with chain }.note (.route (.modify orderId quantity limitPrice)))
  return result

/-- Lets the router keep an order in mind. -/
def restoreAtRouter (o : Order) : DeskOp ω ρ σ Unit :=
  modify fun d => { d with chain := d.chain.restore o }.note (.route (.restore o))

/-- The orders that the router holds to be open. -/
def openAtRouter : DeskOp ω ρ σ (List Order) := do
  let d ← get
  let (orders, chain) := d.chain.openOrders
  set { d with chain }
  return orders

/-- Demands that the router does what it is asked to do. -/
def needRouted : Except String Unit → DeskOp ω ρ σ Unit
  | .ok () => pure ()
  | .error reason => fail (.router reason)

end Router

end DeskOp

end Blotter
