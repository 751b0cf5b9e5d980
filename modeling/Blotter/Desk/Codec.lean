import Blotter.Desk.Session
import Blotter.Record.Codec

/-!
# What a desk does, as JSON

Calls of a router, outcomes, callbacks and counters, written for those who watch a desk.
-/

namespace Blotter

/-- A call as its name and arguments. -/
def RouterCall.toJson : RouterCall → Json
  | .send o => .array [.string "send", .string o.orderId.name]
  | .cancel orderId => .array [.string "cancel", .string orderId.name]
  | .modify orderId quantity limitPrice =>
    .array [.string "modify", .string orderId.name, .ofDecimal quantity, .ofOption .ofDecimal limitPrice]
  | .restore o => .array [.string "restore", .string o.orderId.name]

/-- What became of an order. -/
def RouteOutcome.toJson : RouteOutcome → Json
  | .accepted o => .object [("accepted", o.toJson)]
  | .rejected r => .object [("rejected", r.toJson)]

/-- The name of a callback and what it tells. -/
def Callback.members : Callback → String × List (String × Json)
  | .orderAck o => ("on_order_ack", [("order", o.toJson)])
  | .orderReject o r => ("on_order_reject", [("order", o.toJson), ("reject", r.toJson)])
  | .fill o f => ("on_fill", [("order", o.toJson), ("fill", f.toJson)])
  | .cancel o => ("on_cancel", [("order", o.toJson)])
  | .rebuildOrder o => ("rebuild_order", [("order", o.toJson)])
  | .rebuildPosition p => ("rebuild_pos", [("position", p.toJson)])

/-- A callback of a strategy. -/
def Callback.toJson (c : Callback) (strategy : StrategyId) : Json :=
  .object (("cb", .string c.members.1) :: ("strategy", .string strategy.name) :: c.members.2)

/-- The counters with their values. -/
def Metrics.toJson (m : Metrics) : Json := .object (m.entries.map fun (c, n) => (c.name, .ofNat n))

end Blotter
