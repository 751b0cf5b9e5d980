import Blotter.Event
import Blotter.Json.Document
import Blotter.Position

/-!
# Records as JSON

Every type of record is written as an object with its members in a fixed order. A reader takes the members in any
order, ignores unknown ones and fills in the optional ones; it refuses a repeated member. An event names its kind
beside its content, and a record is the object of an event with three more members, one line of the journal.
-/

namespace Blotter

open Document

namespace Order

/-- The members of an order. -/
def memberNames : List String :=
  ["order_id", "account", "strategy_id", "instrument", "side", "order_type", "quantity", "limit_price",
    "filled_quantity", "avg_fill_price", "status", "updated_at"]

/-- Writes an order. -/
def toJson (o : Order) : Json := .object [
  ("order_id", .string o.orderId.name),
  ("account", .string o.account.name),
  ("strategy_id", .string o.strategy.name),
  ("instrument", .string o.instrument.name),
  ("side", .string o.side.name),
  ("order_type", .string o.orderType.name),
  ("quantity", .ofDecimal o.quantity),
  ("limit_price", .ofOption .ofDecimal o.limitPrice),
  ("filled_quantity", .ofDecimal o.filledQuantity),
  ("avg_fill_price", .ofOption .ofDecimal o.avgFillPrice),
  ("status", .string o.status.name),
  ("updated_at", .ofInstant o.updatedAt)]

/-- Reads an order. -/
def ofJson? (v : Json) : Option Order := do
  let m ← record? memberNames v
  return {
    orderId := ⟨← m.required "order_id" text?⟩
    account := ⟨← m.required "account" text?⟩
    strategy := ⟨← m.required "strategy_id" text?⟩
    instrument := ⟨← m.required "instrument" text?⟩
    side := ← m.required "side" (named? Side.ofName?)
    orderType := ← m.required "order_type" (named? OrderType.ofName?)
    quantity := ← m.required "quantity" decimal?
    limitPrice := ← m.optional "limit_price" decimal?
    filledQuantity := ← m.orElse "filled_quantity" .zero decimal?
    avgFillPrice := ← m.optional "avg_fill_price" decimal?
    status := ← m.required "status" (named? OrderStatus.ofName?)
    updatedAt := ← m.required "updated_at" instant? }

end Order

namespace Reject

/-- The members of a reject. -/
def memberNames : List String := ["order_id", "account", "strategy_id", "reason", "source", "rejected_at"]

/-- Writes a reject. -/
def toJson (r : Reject) : Json := .object [
  ("order_id", .string r.orderId.name),
  ("account", .string r.account.name),
  ("strategy_id", .string r.strategy.name),
  ("reason", .string r.reason),
  ("source", .string r.source.name),
  ("rejected_at", .ofInstant r.rejectedAt)]

/-- Reads a reject. -/
def ofJson? (v : Json) : Option Reject := do
  let m ← record? memberNames v
  return {
    orderId := ⟨← m.required "order_id" text?⟩
    account := ⟨← m.required "account" text?⟩
    strategy := ⟨← m.required "strategy_id" text?⟩
    reason := ← m.required "reason" text?
    source := ← m.required "source" (named? RejectSource.ofName?)
    rejectedAt := ← m.required "rejected_at" instant? }

end Reject

namespace Fill

/-- The members of a fill. -/
def memberNames : List String :=
  ["exec_id", "order_id", "account", "strategy_id", "instrument", "side", "quantity", "price", "executed_at"]

/-- Writes a fill. -/
def toJson (f : Fill) : Json := .object [
  ("exec_id", .string f.execId.name),
  ("order_id", .string f.orderId.name),
  ("account", .string f.account.name),
  ("strategy_id", .string f.strategy.name),
  ("instrument", .string f.instrument.name),
  ("side", .string f.side.name),
  ("quantity", .ofDecimal f.quantity),
  ("price", .ofDecimal f.price),
  ("executed_at", .ofInstant f.executedAt)]

/-- Reads a fill. -/
def ofJson? (v : Json) : Option Fill := do
  let m ← record? memberNames v
  return {
    execId := ⟨← m.required "exec_id" text?⟩
    orderId := ⟨← m.required "order_id" text?⟩
    account := ⟨← m.required "account" text?⟩
    strategy := ⟨← m.required "strategy_id" text?⟩
    instrument := ⟨← m.required "instrument" text?⟩
    side := ← m.required "side" (named? Side.ofName?)
    quantity := ← m.required "quantity" decimal?
    price := ← m.required "price" decimal?
    executedAt := ← m.required "executed_at" instant? }

end Fill

namespace FillCopy

/-- The members of a copied fill. -/
def memberNames : List String := ["fill", "source"]

/-- Writes a copied fill. -/
def toJson (c : FillCopy) : Json := .object [("fill", c.fill.toJson), ("source", .string c.source)]

/-- Reads a copied fill. -/
def ofJson? (v : Json) : Option FillCopy := do
  let m ← record? memberNames v
  return { fill := ← m.required "fill" Fill.ofJson?, source := ← m.required "source" text? }

end FillCopy

namespace Command

/-- The members of a command. -/
def memberNames : List String :=
  ["account", "strategy_id", "order_id", "action", "quantity", "limit_price", "issued_at"]

/-- Writes a command. -/
def toJson (c : Command) : Json := .object [
  ("account", .string c.account.name),
  ("strategy_id", .string c.strategy.name),
  ("order_id", .string c.orderId.name),
  ("action", .string c.action.name),
  ("quantity", .ofOption .ofDecimal c.quantity),
  ("limit_price", .ofOption .ofDecimal c.limitPrice),
  ("issued_at", .ofInstant c.issuedAt)]

/-- Reads a command. -/
def ofJson? (v : Json) : Option Command := do
  let m ← record? memberNames v
  return {
    account := ⟨← m.required "account" text?⟩
    strategy := ⟨← m.required "strategy_id" text?⟩
    orderId := ⟨← m.required "order_id" text?⟩
    action := ← m.required "action" (named? CommandAction.ofName?)
    quantity := ← m.optional "quantity" decimal?
    limitPrice := ← m.optional "limit_price" decimal?
    issuedAt := ← m.required "issued_at" instant? }

end Command

namespace SessionKey

/-- The members of a session key. -/
def memberNames : List String := ["sender_comp_id", "target_comp_id", "year", "week"]

/-- Writes a session key. -/
def toJson (k : SessionKey) : Json := .object [
  ("sender_comp_id", .string k.senderCompId),
  ("target_comp_id", .string k.targetCompId),
  ("year", .ofInt k.year),
  ("week", .ofNat k.week)]

/-- Reads a session key. -/
def ofJson? (v : Json) : Option SessionKey := do
  let m ← record? memberNames v
  return {
    senderCompId := ← m.required "sender_comp_id" text?
    targetCompId := ← m.required "target_comp_id" text?
    year := ← m.required "year" int32?
    week := ← m.required "week" word32? }

end SessionKey

namespace SessionState

/-- The members of a session state. -/
def memberNames : List String :=
  ["sender_comp_id", "target_comp_id", "year", "week", "next_sender_seq", "next_target_seq", "updated_at"]

/-- Writes a session state. -/
def toJson (s : SessionState) : Json := .object [
  ("sender_comp_id", .string s.senderCompId),
  ("target_comp_id", .string s.targetCompId),
  ("year", .ofInt s.year),
  ("week", .ofNat s.week),
  ("next_sender_seq", .ofNat s.nextSenderSeq),
  ("next_target_seq", .ofNat s.nextTargetSeq),
  ("updated_at", .ofInstant s.updatedAt)]

/-- Reads a session state. -/
def ofJson? (v : Json) : Option SessionState := do
  let m ← record? memberNames v
  return {
    senderCompId := ← m.required "sender_comp_id" text?
    targetCompId := ← m.required "target_comp_id" text?
    year := ← m.required "year" int32?
    week := ← m.required "week" word32?
    nextSenderSeq := ← m.required "next_sender_seq" word64?
    nextTargetSeq := ← m.required "next_target_seq" word64?
    updatedAt := ← m.required "updated_at" instant? }

end SessionState

namespace SessionMessage

/-- The members of a session message. -/
def memberNames : List String := ["sender_comp_id", "target_comp_id", "direction", "seq_num", "body", "logged_at"]

/-- Writes a session message. -/
def toJson (m : SessionMessage) : Json := .object [
  ("sender_comp_id", .string m.senderCompId),
  ("target_comp_id", .string m.targetCompId),
  ("direction", .string m.direction.name),
  ("seq_num", .ofNat m.seqNum),
  ("body", .string m.body),
  ("logged_at", .ofInstant m.loggedAt)]

/-- Reads a session message. -/
def ofJson? (v : Json) : Option SessionMessage := do
  let m ← record? memberNames v
  return {
    senderCompId := ← m.required "sender_comp_id" text?
    targetCompId := ← m.required "target_comp_id" text?
    direction := ← m.required "direction" (named? MessageDirection.ofName?)
    seqNum := ← m.required "seq_num" word64?
    body := ← m.required "body" text?
    loggedAt := ← m.required "logged_at" instant? }

end SessionMessage

namespace PnlSnapshot

/-- The members of a profit and loss snapshot. -/
def memberNames : List String :=
  ["account", "strategy_id", "instrument", "position", "realized_pnl", "unrealized_pnl", "recorded_at"]

/-- Writes a profit and loss snapshot. -/
def toJson (p : PnlSnapshot) : Json := .object [
  ("account", .string p.account.name),
  ("strategy_id", .string p.strategy.name),
  ("instrument", .string p.instrument.name),
  ("position", .ofDecimal p.position),
  ("realized_pnl", .ofDecimal p.realizedPnl),
  ("unrealized_pnl", .ofDecimal p.unrealizedPnl),
  ("recorded_at", .ofInstant p.recordedAt)]

/-- Reads a profit and loss snapshot. -/
def ofJson? (v : Json) : Option PnlSnapshot := do
  let m ← record? memberNames v
  return {
    account := ⟨← m.required "account" text?⟩
    strategy := ⟨← m.required "strategy_id" text?⟩
    instrument := ⟨← m.required "instrument" text?⟩
    position := ← m.required "position" decimal?
    realizedPnl := ← m.required "realized_pnl" decimal?
    unrealizedPnl := ← m.required "unrealized_pnl" decimal?
    recordedAt := ← m.required "recorded_at" instant? }

end PnlSnapshot

namespace MessagingStats

/-- The members of messaging counters. -/
def memberNames : List String := ["component", "sent", "received", "dropped", "recorded_at"]

/-- Writes messaging counters. -/
def toJson (s : MessagingStats) : Json := .object [
  ("component", .string s.component),
  ("sent", .ofNat s.sent),
  ("received", .ofNat s.received),
  ("dropped", .ofNat s.dropped),
  ("recorded_at", .ofInstant s.recordedAt)]

/-- Reads messaging counters. -/
def ofJson? (v : Json) : Option MessagingStats := do
  let m ← record? memberNames v
  return {
    component := ← m.required "component" text?
    sent := ← m.required "sent" word64?
    received := ← m.required "received" word64?
    dropped := ← m.required "dropped" word64?
    recordedAt := ← m.required "recorded_at" instant? }

end MessagingStats

namespace Position

/-- The members of a position. -/
def memberNames : List String := ["account", "strategy_id", "instrument", "quantity", "avg_price"]

/-- Writes a position. -/
def toJson (p : Position) : Json := .object [
  ("account", .string p.account.name),
  ("strategy_id", .string p.strategy.name),
  ("instrument", .string p.instrument.name),
  ("quantity", .ofDecimal p.quantity),
  ("avg_price", .ofDecimal p.avgPrice)]

/-- Reads a position. -/
def ofJson? (v : Json) : Option Position := do
  let m ← record? memberNames v
  return {
    account := ⟨← m.required "account" text?⟩
    strategy := ⟨← m.required "strategy_id" text?⟩
    instrument := ⟨← m.required "instrument" text?⟩
    quantity := ← m.required "quantity" decimal?
    avgPrice := ← m.required "avg_price" decimal? }

end Position

/-! ## Events -/

namespace Event

/-- Writes the content of an event without its kind. -/
def contentJson : Event → Json
  | .command c => c.toJson
  | .order o => o.toJson
  | .orderReject o r => .object [("order", o.toJson), ("reject", r.toJson)]
  | .fill f => f.toJson
  | .sessionState s => s.toJson
  | .sessionMessage m => m.toJson
  | .fillCopy c => c.toJson
  | .pnlSnapshot p => p.toJson
  | .messagingStats s => s.toJson

/-- Reads the content of an event of the given kind. The two parts of a rejected order have to be named. -/
def ofContent? (kind : EventKind) (v : Json) : Option Event :=
  match kind with
  | .command => (Command.ofJson? v).map .command
  | .order => (Order.ofJson? v).map .order
  | .orderReject => do
    let m := Members.mk (← v.objectMembers? ["order", "reject"])
    return .orderReject (← m.required "order" Order.ofJson?) (← m.required "reject" Reject.ofJson?)
  | .fill => (Fill.ofJson? v).map .fill
  | .sessionState => (SessionState.ofJson? v).map .sessionState
  | .sessionMessage => (SessionMessage.ofJson? v).map .sessionMessage
  | .fillCopy => (FillCopy.ofJson? v).map .fillCopy
  | .pnlSnapshot => (PnlSnapshot.ofJson? v).map .pnlSnapshot
  | .messagingStats => (MessagingStats.ofJson? v).map .messagingStats

/-- The members that kind and content of an event are. -/
def members (e : Event) : List (String × Json) := [("kind", .string e.kind.name), ("payload", e.contentJson)]

/-- Writes an event. -/
def toJson (e : Event) : Json := .object e.members

/-- Reads kind and content of an event from the members of an object. -/
def ofMembers? (m : Members Json) : Option Event := do
  let kind ← m.required "kind" (named? EventKind.ofName?)
  m.required "payload" (ofContent? kind)

/-- How deep the values may be nested where they are kept before their type is known. -/
def nestingLimit : Nat := 127

/-- Whether a value inside of `outer` objects can be kept before its type is known. -/
def isKeepable (outer : Nat) (v : Json) : Bool := v.isUsable && outer + v.depth ≤ nestingLimit

/-- Whether the content comes in front of the kind, so that it has to be kept. -/
def contentComesFirst : List (String × Json) → Bool
  | [] => false
  | (name, _) :: ms => if name == "payload" then true else if name == "kind" then false else contentComesFirst ms

/-- Reads an event. -/
def ofJson? (v : Json) : Option Event := do
  let ms ← v.recordMembers? ["kind", "payload"]
  if contentComesFirst ms && !(ms.all fun m => m.1 != "payload" || isKeepable 1 m.2) then none
  else ofMembers? ⟨ms⟩

end Event

/-! ## Records -/

namespace Record

/-- The members of a record. -/
def memberNames : List String := ["seq", "recorded_at", "send_to_bus", "kind", "payload"]

/-- Writes a record. -/
def toJson (r : Record) : Json := .object <|
  ("seq", .ofNat r.seq) :: ("recorded_at", .ofInstant r.recordedAt) :: ("send_to_bus", .bool r.toBus) ::
    r.event.members

/-- Reads a record. Members that are not its own are kept until the kind is known, so the nesting of all values is
limited. -/
def ofJson? (v : Json) : Option Record := do
  if !Event.isKeepable 0 v then none
  let m := Members.mk (← v.objectMembers? memberNames)
  return {
    seq := ← m.required "seq" word64?
    recordedAt := ← m.required "recorded_at" instant?
    toBus := ← m.orElse "send_to_bus" false bool?
    event := ← Event.ofMembers? m }

/-- The line of a record in the journal, without the line break. -/
def line (r : Record) : String := r.toJson.text

/-- Reads a line of the journal. -/
def ofLine? (s : String) : Option Record := Json.parse s >>= ofJson?

end Record

end Blotter
