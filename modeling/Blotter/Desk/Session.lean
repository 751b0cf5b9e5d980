import Blotter.Desk.Orders

/-!
# Start and stop

A desk starts by recovering the orders and positions of its account, all of which have to belong to strategies that it
knows; then orders flow. It stops by cancelling what is open, in a limited number of rounds, and stops the journal.
-/

namespace Blotter

/-- How much a desk recovered. -/
structure RecoveryReport where
  orders : Nat
  positions : Nat
deriving DecidableEq, Repr

/-- How a desk came to an end. -/
structure DrainReport where
  /-- How many rounds of cancels there were. -/
  iterations : Nat
  /-- How many orders are still open. -/
  remaining : Nat
deriving DecidableEq, Repr

namespace Desk

variable {ω ρ σ : Type} [JournalAccess ω] [Router ρ]

open DeskOp

/-- Hands a recovered order to its strategy and to the router. -/
def rebuildOrder (o : Order) : DeskOp ω ρ σ Unit := do
  tell o.strategy (.rebuildOrder o)
  restoreAtRouter o
  modify (·.track o)

/-- Hands a recovered position to its strategy. -/
def rebuildPosition (p : Position) : DeskOp ω ρ σ Unit := tell p.strategy (.rebuildPosition p)

/-- Recovers the state and opens the flow of orders. Nothing is rebuilt if anything stands against it. -/
def start (reader : RecoveryReader) : DeskOp ω ρ σ RecoveryReport := do
  let d ← get
  if JournalAccess.state d.journal != .started then fail .notReady
  let orders ← ofJournal (reader.openOrders d.account)
  let positions := (← ofJournal (reader.openPositions d.account)).filter (!·.isFlat)
  orders.forM fun o => needStrategy o.strategy (.openOrder o.orderId)
  positions.forM fun p => needStrategy p.strategy (.position p.instrument)
  orders.forM rebuildOrder
  positions.forM rebuildPosition
  modify fun d => { d with ready := d.settings.orderFlowEnabled }
  return ⟨orders.length, positions.length⟩

/-- Cancels an order whatever the journal and the router say. -/
def drainOrder (o : Order) : DeskOp ω ρ σ Unit := do
  let _ ← tryPersist (.command (Command.cancel o (← get).now))
  let _ ← cancelAtRouter o.orderId

/-- Cancels the open orders, then those that are still open, and so on for a number of rounds. -/
def drain : Nat → List Order → DeskOp ω ρ σ DrainReport
  | 0, orders => return ⟨0, orders.length⟩
  | _ + 1, [] => return ⟨0, 0⟩
  | rounds + 1, orders => do
    orders.forM drainOrder
    let report ← drain rounds (← openAtRouter)
    return { report with iterations := report.iterations + 1 }

/-- Ends the flow of orders, cancels what is open, and stops the journal. -/
def stop : DeskOp ω ρ σ DrainReport := do
  modify fun d => { d with ready := false }
  let settings := (← get).settings
  let report ← if settings.orderFlowEnabled then drain settings.drainIterations (← openAtRouter)
    else pure ⟨0, 0⟩
  modify fun d => { d with journal := JournalAccess.stop d.journal }
  return report

end Desk

end Blotter
