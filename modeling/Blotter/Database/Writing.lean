import Blotter.Database.Tables
import Blotter.Failure
import Blotter.Record.Codec
import Blotter.Sink.Error

/-!
# Writing records to the database

A record is stored once: its event row takes the sequence number, and a record whose number is taken changes nothing.
Beside its event row an order, a reject, a fill or a session state changes the table of its own, where a later
snapshot replaces an earlier one and an execution counts once. A batch is stored as a whole or not at all.
-/

namespace Blotter.Database

/-- The largest integer of a column. -/
def columnMax : Int := 9223372036854775807

/-- A natural number as a column holds it: the largest integer stands for everything above it. -/
def toColumn (n : Nat) : Int := min (n : Int) columnMax

/-- A natural number read from a column: a negative one is read as zero. -/
def ofColumn (i : Int) : Nat := i.toNat

/-- A stored decimal, in either notation. What is wrong with a text is said as of one in positional notation. -/
def decimalOfText (fault : String → DecimalError → ContentFault) (seq : Nat) (text : String) :
    Except SinkError Decimal :=
  match Decimal.parse text, Decimal.ofText? text with
  | .ok d, _ | _, some d => .ok d
  | .error e, none => .error (.serialization seq .fill (fault text e))

/-- A stored position. -/
def PositionRow.toPosition (r : PositionRow) (seq : Nat) : Except SinkError Position := do
  let quantity ← decimalOfText .quantity seq r.quantity
  let avgPrice ← decimalOfText .avgPrice seq r.avgPrice
  return ⟨r.account, r.strategy, r.instrument, quantity, avgPrice⟩

/-- The row of a position. -/
def PositionRow.ofPosition (seq : Nat) (p : Position) : PositionRow :=
  ⟨p.account, p.strategy, p.instrument, p.quantity.text, p.avgPrice.text, toColumn seq⟩

/-- The row of a record's event. -/
def EventRow.ofRecord (r : Record) : EventRow :=
  ⟨toColumn r.seq, r.kind.name, r.recordedAt.offsetText, r.line⟩

/-- The row of an order. -/
def OrderRow.ofOrder (seq : Nat) (o : Order) : OrderRow :=
  ⟨o.orderId, o.account, o.strategy, o.instrument, o.status.name, if o.isOpen then 1 else 0, toColumn seq,
    o.toJson.text⟩

/-- The row of a fill. -/
def FillRow.ofFill (seq : Nat) (f : Fill) : FillRow :=
  ⟨f.execId, f.orderId, f.account, f.strategy, f.instrument, f.executedAt.date.text, toColumn seq, f.toJson.text⟩

/-- The row of a session state. -/
def SessionRow.ofState (seq : Nat) (s : SessionState) : SessionRow :=
  ⟨s.senderCompId, s.targetCompId, s.year, s.week, toColumn s.nextSenderSeq, toColumn s.nextTargetSeq,
    s.updatedAt.offsetText, toColumn seq⟩

namespace Tables

/-- Stores a snapshot of an order. Over an older one it changes status, number and body, but not whose order it is. -/
def putOrder (t : Tables) (row : OrderRow) : Tables :=
  match t.orders.find? row.orderId with
  | none => { t with orders := t.orders.insert row.orderId row }
  | some old =>
    if old.seq < row.seq then
      let updated := { old with status := row.status, isOpen := row.isOpen, seq := row.seq, body := row.body }
      { t with orders := t.orders.insert row.orderId updated }
    else t

/-- Stores a session state, unless there is a newer one. -/
def putSession (t : Tables) (row : SessionRow) : Tables :=
  match t.sessions.find? row.key with
  | none => { t with sessions := t.sessions.insert row.key row }
  | some old => if old.seq < row.seq then { t with sessions := t.sessions.insert row.key row } else t

/-- The stored position under a key, flat if there is none. -/
def position (t : Tables) (seq : Nat) (key : PositionKey) : Except SinkError Position :=
  match t.positions.find? key with
  | none => .ok (.flat key)
  | some row => row.toPosition seq

/-- Stores a fill and the position after it, unless the execution is stored already. -/
def putFill (t : Tables) (seq : Nat) (f : Fill) : Except (Failure SinkError) Tables :=
  if t.fills.contains f.execId then .ok t
  else do
    let position ← Failure.ofReported (t.position seq f.positionKey)
    let position ← Failure.ofOverflow (position.applyFill f)
    return { t with
      fills := t.fills.insert f.execId (.ofFill seq f)
      positions := t.positions.insert f.positionKey (.ofPosition seq position) }

/-- Stores what an event means beside its event row. -/
def putEvent (t : Tables) (now : Instant) (seq : Nat) : Event → Except (Failure SinkError) Tables
  | .order o => .ok (t.putOrder (.ofOrder seq o))
  | .orderReject o _ => .ok (t.putOrder (.ofOrder seq (o.withStatus .rejected now)))
  | .fill f => t.putFill seq f
  | .sessionState s => .ok (t.putSession (.ofState seq s))
  | .command _ | .sessionMessage _ | .fillCopy _ | .pnlSnapshot _ | .messagingStats _ => .ok t

/-- Stores a record, unless its number is taken. -/
def write (now : Instant) (t : Tables) (r : Record) : Except (Failure SinkError) Tables :=
  let row := EventRow.ofRecord r
  if t.events.contains row.seq then .ok t
  else putEvent { t with events := t.events.insert row.seq row } now r.seq r.event

/-- Stores the records of a batch one after the other. -/
def writeBatch (now : Instant) (t : Tables) (rs : List Record) : Except (Failure SinkError) Tables :=
  rs.foldlM (write now) t

/-- The highest number of a stored record, zero if there is none above it. -/
def lastSeq (t : Tables) : Nat := ofColumn ((t.events.entries.getLast?.map (·.1)).getD 0)

end Tables

end Blotter.Database
