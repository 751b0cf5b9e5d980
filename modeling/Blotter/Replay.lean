import Blotter.Event
import Blotter.Position
import Blotter.Table

/-!
# Replay

The state that the records of a journal add up to: the latest snapshot of every order, the fills, the positions that
the fills lead to, and the latest state of every session. Records are taken in the order of their sequence numbers; one
that is not above the last number taken is ignored, and so is a fill whose execution is known already.
-/

namespace Blotter

/-- The latest snapshot of an order and the sequence number of its record. -/
structure Snapshot where
  seq : Nat
  order : Order
deriving DecidableEq

/-- The state that records add up to. -/
structure Replay where
  orders : Table OrderId Snapshot
  /-- The fills in the order of their records, each execution once. -/
  fills : List Fill
  positions : Table PositionKey Position
  sessions : Table SessionKey SessionState
  /-- The sequence number of the last record, zero if there is none. -/
  lastSeq : Nat
deriving DecidableEq

namespace Replay

/-- The state before any record. -/
def empty : Replay := ⟨.empty, [], .empty, .empty, 0⟩

instance : Inhabited Replay := ⟨empty⟩

/-- The state with a snapshot of an order. -/
def setOrder (s : Replay) (seq : Nat) (o : Order) : Replay := { s with orders := s.orders.insert o.orderId ⟨seq, o⟩ }

/-- Whether an execution is among the fills. -/
def knowsExecution (s : Replay) (execId : ExecId) : Bool := s.fills.any (·.execId == execId)

/-- The position under a key, flat if there is none yet. -/
def position (s : Replay) (key : PositionKey) : Position := (s.positions.find? key).getD (.flat key)

/-- The state after a fill. -/
def applyFill (s : Replay) (f : Fill) : Except Overflow Replay :=
  if s.knowsExecution f.execId then .ok s
  else do
    let position ← (s.position f.positionKey).applyFill f
    return { s with fills := s.fills ++ [f], positions := s.positions.insert f.positionKey position }

/-- The state after an event. A rejected order counts as rejected from the time of the reject. -/
def applyEvent (s : Replay) (seq : Nat) : Event → Except Overflow Replay
  | .order o => .ok (s.setOrder seq o)
  | .orderReject o r => .ok (s.setOrder seq (o.withStatus .rejected r.rejectedAt))
  | .fill f => s.applyFill f
  | .sessionState state => .ok { s with sessions := s.sessions.insert state.key state }
  | .command _ | .sessionMessage _ | .fillCopy _ | .pnlSnapshot _ | .messagingStats _ => .ok s

/-- Whether a sequence number is not above the last one. -/
def covers (s : Replay) (seq : Nat) : Bool := seq ≤ s.lastSeq && s.lastSeq != 0

/-- The state after a record. -/
def apply (s : Replay) (r : Record) : Except Overflow Replay :=
  if s.covers r.seq then .ok s else applyEvent { s with lastSeq := r.seq } r.seq r.event

/-- The state that records add up to. -/
def ofRecords (rs : List Record) : Except Overflow Replay := rs.foldlM apply empty

/-! ## Queries -/

/-- The open orders of an account, in the order of their snapshots. -/
def openOrders (s : Replay) (account : AccountId) : List Order :=
  let open' := s.orders.rows.filter fun x => x.order.account == account && x.order.isOpen
  (open'.mergeSort fun x y => x.seq ≤ y.seq).map (·.order)

/-- The positions of an account that are not flat, by strategy and instrument. -/
def openPositions (s : Replay) (account : AccountId) : List Position :=
  (s.positions.entries.filter fun x => x.1.account == account && !x.2.isFlat).map (·.2)

/-- The fills of an account on a date in UTC. -/
def fillsOn (s : Replay) (account : AccountId) (date : Date) : List Fill :=
  s.fills.filter fun f => f.account == account && f.executedAt.date == date

/-- The latest state of a session. -/
def session? (s : Replay) (key : SessionKey) : Option SessionState := s.sessions.find? key

end Replay

end Blotter
