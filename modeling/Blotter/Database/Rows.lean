import Blotter.Database.Tables
import Blotter.Json.Document

/-!
# Rows as JSON

The rows of a table as lists of integers and texts in the order of the columns, and single rows put in by hand.
-/

namespace Blotter.Database

/-- The columns of an event row. -/
def EventRow.toJson (r : EventRow) : List Json :=
  [.ofInt r.seq, .string r.kind, .string r.recordedAt, .string r.body]

/-- The columns of an order row. -/
def OrderRow.toJson (r : OrderRow) : List Json :=
  [.string r.orderId.name, .string r.account.name, .string r.strategy.name, .string r.instrument.name,
    .string r.status, .ofInt r.isOpen, .ofInt r.seq, .string r.body]

/-- The columns of a fill row. -/
def FillRow.toJson (r : FillRow) : List Json :=
  [.string r.execId.name, .string r.orderId.name, .string r.account.name, .string r.strategy.name,
    .string r.instrument.name, .string r.tradeDate, .ofInt r.seq, .string r.body]

/-- The columns of a position row. -/
def PositionRow.toJson (r : PositionRow) : List Json :=
  [.string r.account.name, .string r.strategy.name, .string r.instrument.name, .string r.quantity,
    .string r.avgPrice, .ofInt r.seq]

/-- The columns of a session row. -/
def SessionRow.toJson (r : SessionRow) : List Json :=
  [.string r.senderCompId, .string r.targetCompId, .ofInt r.year, .ofInt r.week, .ofInt r.nextSenderSeq,
    .ofInt r.nextTargetSeq, .string r.updatedAt, .ofInt r.seq]

/-- An integer of a column. -/
def column? (v : Json) : Option Int := v.integer? (-9223372036854775808) 9223372036854775807

namespace Tables

/-- The rows of the table with a name. -/
def rows? (t : Tables) : String → Option (List (List Json))
  | "journal_events" => some (t.events.rows.map EventRow.toJson)
  | "orders" => some (t.orders.rows.map OrderRow.toJson)
  | "fills" => some (t.fills.rows.map FillRow.toJson)
  | "positions" => some (t.positions.rows.map PositionRow.toJson)
  | "fix_session_state" => some (t.sessions.rows.map SessionRow.toJson)
  | _ => none

/-- The tables with a row in the table with a name, over the row that has its key. -/
def putRow? (t : Tables) (table : String) (row : List Json) : Option Tables := do
  match table, row with
  | "journal_events", [seq, kind, recordedAt, body] =>
    let r : EventRow := ⟨← column? seq, ← kind.text?, ← recordedAt.text?, ← body.text?⟩
    some { t with events := t.events.insert r.seq r }
  | "orders", [orderId, account, strategy, instrument, status, isOpen, seq, body] =>
    let r : OrderRow := ⟨⟨← orderId.text?⟩, ⟨← account.text?⟩, ⟨← strategy.text?⟩, ⟨← instrument.text?⟩,
      ← status.text?, ← column? isOpen, ← column? seq, ← body.text?⟩
    some { t with orders := t.orders.insert r.orderId r }
  | "fills", [execId, orderId, account, strategy, instrument, tradeDate, seq, body] =>
    let r : FillRow := ⟨⟨← execId.text?⟩, ⟨← orderId.text?⟩, ⟨← account.text?⟩, ⟨← strategy.text?⟩,
      ⟨← instrument.text?⟩, ← tradeDate.text?, ← column? seq, ← body.text?⟩
    some { t with fills := t.fills.insert r.execId r }
  | "positions", [account, strategy, instrument, quantity, avgPrice, seq] =>
    let r : PositionRow := ⟨⟨← account.text?⟩, ⟨← strategy.text?⟩, ⟨← instrument.text?⟩, ← quantity.text?,
      ← avgPrice.text?, ← column? seq⟩
    some { t with positions := t.positions.insert r.key r }
  | "fix_session_state", [sender, target, year, week, nextSender, nextTarget, updatedAt, seq] =>
    let r : SessionRow := ⟨← sender.text?, ← target.text?, ← column? year, ← column? week, ← column? nextSender,
      ← column? nextTarget, ← updatedAt.text?, ← column? seq⟩
    some { t with sessions := t.sessions.insert r.key r }
  | _, _ => none

end Tables

end Blotter.Database
