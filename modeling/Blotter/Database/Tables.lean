import Blotter.Event
import Blotter.Position
import Blotter.Table

/-!
# Database tables

The five tables of the database. Columns hold texts and 64-bit integers with sign; amounts and times are texts. A row is
found by its primary key and the rows of a table stand in the order of their primary keys.
-/

namespace Blotter.Database

/-- A stored event, under its sequence number. -/
structure EventRow where
  seq : Int
  kind : String
  recordedAt : String
  /-- The line of the record. -/
  body : String
deriving DecidableEq, Repr

/-- The latest snapshot of an order, under its name. -/
structure OrderRow where
  orderId : OrderId
  account : AccountId
  strategy : StrategyId
  instrument : InstrumentId
  status : String
  isOpen : Int
  seq : Int
  /-- The order as JSON. -/
  body : String
deriving DecidableEq, Repr

/-- A fill, under the name of its execution. -/
structure FillRow where
  execId : ExecId
  orderId : OrderId
  account : AccountId
  strategy : StrategyId
  instrument : InstrumentId
  tradeDate : String
  seq : Int
  /-- The fill as JSON. -/
  body : String
deriving DecidableEq, Repr

/-- A position, under account, strategy and instrument. -/
structure PositionRow where
  account : AccountId
  strategy : StrategyId
  instrument : InstrumentId
  quantity : String
  avgPrice : String
  seq : Int
deriving DecidableEq, Repr

/-- The latest state of a session, under its parties and week. -/
structure SessionRow where
  senderCompId : String
  targetCompId : String
  year : Int
  week : Int
  nextSenderSeq : Int
  nextTargetSeq : Int
  updatedAt : String
  seq : Int
deriving DecidableEq, Repr

/-- The primary key of a session row. -/
structure SessionRowKey where
  senderCompId : String
  targetCompId : String
  year : Int
  week : Int
deriving DecidableEq, Repr

instance : Ord SessionRowKey where
  compare a b := (compare a.senderCompId b.senderCompId).then <| (compare a.targetCompId b.targetCompId).then <|
    (compare a.year b.year).then (compare a.week b.week)

/-- The primary key of a session row. -/
def SessionRow.key (r : SessionRow) : SessionRowKey := ⟨r.senderCompId, r.targetCompId, r.year, r.week⟩

/-- The primary key of a position row. -/
def PositionRow.key (r : PositionRow) : PositionKey := ⟨r.account, r.strategy, r.instrument⟩

/-- The contents of a database. -/
structure Tables where
  events : Table Int EventRow
  orders : Table OrderId OrderRow
  fills : Table ExecId FillRow
  positions : Table PositionKey PositionRow
  sessions : Table SessionRowKey SessionRow
deriving DecidableEq

namespace Tables

/-- A database without rows. -/
def empty : Tables := ⟨.empty, .empty, .empty, .empty, .empty⟩

instance : Inhabited Tables := ⟨empty⟩

end Tables

end Blotter.Database
