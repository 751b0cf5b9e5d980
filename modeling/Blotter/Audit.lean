import Blotter.Decimal.Basic
import Blotter.Identifier
import Blotter.Instant.Basic

/-!
# Audit records

Snapshots that are journaled for later inspection only: profit and loss, and the counters of the messaging layer.
-/

namespace Blotter

/-- Profit and loss of a strategy in one instrument. -/
structure PnlSnapshot where
  account : AccountId
  strategy : StrategyId
  instrument : InstrumentId
  position : Decimal
  realizedPnl : Decimal
  unrealizedPnl : Decimal
  recordedAt : Instant
deriving DecidableEq

/-- Message counts of one component. -/
structure MessagingStats where
  component : String
  sent : Nat
  received : Nat
  dropped : Nat
  recordedAt : Instant
deriving DecidableEq

end Blotter
