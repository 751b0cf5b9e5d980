import Blotter.Desk.Router
import Blotter.Desk.Stage

/-!
# Chains

A chain is the stages that a new order passes and the router behind them. Cancels and changes go to the router
directly.
-/

namespace Blotter

/-- Stages and the router behind them. -/
structure Chain (ρ : Type) (σ : Type := Stage) where
  stages : List σ
  router : ρ
deriving DecidableEq

/-- What a chain made of an order. -/
structure Routing where
  outcome : RouteOutcome
  /-- Whether a stage kept the order from the router. -/
  vetoed : Bool
deriving DecidableEq

namespace Chain

variable {ρ σ : Type}

/-- The chain that the settings ask for. -/
def ofSettings (router : ρ) (s : DeskSettings) : Chain ρ := ⟨Stage.ofSettings s, router⟩

/-- The chain with another stage behind the ones it has. -/
def withStage (c : Chain ρ σ) (s : σ) : Chain ρ σ := { c with stages := c.stages ++ [s] }

/-- How many stages there are. -/
def length (c : Chain ρ σ) : Nat := c.stages.length

variable [Router ρ]

/-- Sends an order, unless a stage refuses it. -/
def send [StageKind σ] (c : Chain ρ σ) (o : Order) (now : Instant) : Routing × Chain ρ σ :=
  match StageKind.checkAll o now.toNanos c.stages with
  | (some reason, stages) => (⟨.rejected (.ofOrder .locally o reason now), true⟩, { c with stages })
  | (none, stages) =>
    let (outcome, router) := Router.send o now c.router
    (⟨outcome, false⟩, ⟨stages, router⟩)

/-- Cancels an order. -/
def cancel (c : Chain ρ σ) (orderId : OrderId) : Except String Unit × Chain ρ σ :=
  let (result, router) := Router.cancel orderId c.router
  (result, { c with router })

/-- Changes an order. -/
def modify (c : Chain ρ σ) (orderId : OrderId) (quantity : Decimal) (limitPrice : Option Decimal) :
    Except String Unit × Chain ρ σ :=
  let (result, router) := Router.modify orderId quantity limitPrice c.router
  (result, { c with router })

/-- Lets the router keep an order in mind. -/
def restore (c : Chain ρ σ) (o : Order) : Chain ρ σ := { c with router := Router.restore o c.router }

/-- The orders that the router holds to be open. -/
def openOrders (c : Chain ρ σ) : List Order × Chain ρ σ :=
  let (orders, router) := Router.openOrders c.router
  (orders, { c with router })

end Chain

end Blotter
