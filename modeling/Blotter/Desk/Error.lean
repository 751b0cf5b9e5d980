import Blotter.Journal.Error

/-!
# Errors of a trading desk

Why a trading desk refuses a call or a report.
-/

namespace Blotter

/-- Where a strategy is named that the desk does not know. -/
inductive StrategyMention where
  | openOrder (orderId : OrderId)
  | position (instrument : InstrumentId)
  | newOrder (orderId : OrderId)
  | executionReport
deriving DecidableEq, Repr

/-- The words that say where a strategy is named. -/
def StrategyMention.message : StrategyMention → String
  | .openOrder orderId => s!"open order {orderId}"
  | .position instrument => s!"position in {instrument}"
  | .newOrder orderId => s!"new order {orderId}"
  | .executionReport => "execution report"

/-- Why a desk refuses a call or a report. -/
inductive DeskError where
  /-- Orders do not flow: the desk has not recovered its state, or it is told not to trade. -/
  | notReady
  | unknownStrategy (strategy : StrategyId) (mention : StrategyMention)
  | unknownOrder (orderId : OrderId)
  | journal (cause : JournalError)
  | router (reason : String)
deriving DecidableEq, Repr

/-- The sentence that says why a desk refuses. -/
def DeskError.message : DeskError → String
  | .notReady => "Order flow is not ready"
  | .unknownStrategy strategy mention => s!"Unknown strategy {strategy} ({mention.message})"
  | .unknownOrder orderId => s!"Unknown order {orderId}"
  | .journal cause => s!"Journal error: {cause.message}"
  | .router reason => s!"Router error: {reason}"

/-- A name of the error for programs. -/
def DeskError.code : DeskError → String
  | .notReady => "NotReady"
  | .unknownStrategy _ _ => "UnknownStrategy"
  | .unknownOrder _ => "UnknownOrder"
  | .journal cause => "Journal." ++ cause.code
  | .router _ => "Router"

end Blotter
