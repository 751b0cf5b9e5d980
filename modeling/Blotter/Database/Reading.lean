import Blotter.Database.Writing
import Blotter.Journal.Error

/-!
# Reading the database

The answers that recovery needs, from the rows of the tables. A body that cannot be read is an error of the query.
-/

namespace Blotter.Database.Tables

/-- Reads the body of a row. -/
def readBody {α : Type} (read : Json → Option α) (seq : Int) (kind : EventKind) (body : String) :
    Except JournalError α :=
  match Json.parse body >>= read with
  | some a => .ok a
  | none => .error (.sink (.serialization (ofColumn seq) kind .unreadable))

/-- The open orders of an account in the order of their numbers. -/
def openOrders (t : Tables) (account : AccountId) : Except JournalError (List Order) :=
  let rows := t.orders.rows.filter fun r => r.account == account && r.isOpen == 1
  (rows.mergeSort fun r s => r.seq ≤ s.seq).mapM fun r => readBody Order.ofJson? r.seq .order r.body

/-- The positions of an account that are not flat, by strategy and instrument. -/
def openPositions (t : Tables) (account : AccountId) : Except JournalError (List Position) := do
  let positions ← (t.positions.rows.filter (·.account == account)).mapM fun r =>
    match r.toPosition (ofColumn r.seq) with
    | .ok p => .ok p
    | .error e => .error (JournalError.sink e)
  return positions.filter (!·.isFlat)

/-- The fills of an account on a date in the order of their numbers. -/
def fillsOn (t : Tables) (account : AccountId) (date : Date) : Except JournalError (List Fill) :=
  let rows := t.fills.rows.filter fun r => r.account == account && r.tradeDate == date.text
  (rows.mergeSort fun r s => r.seq ≤ s.seq).mapM fun r => readBody Fill.ofJson? r.seq .fill r.body

/-- The latest state of a session. -/
def session? (t : Tables) (key : SessionKey) : Except JournalError (Option SessionState) :=
  match t.sessions.find? ⟨key.senderCompId, key.targetCompId, key.year, key.week⟩ with
  | none => .ok none
  | some r =>
    match Instant.parseStrict r.updatedAt with
    | none => .error (.sink (.serialization 0 .sessionState .unreadable))
    | some updatedAt =>
      .ok (some ⟨key.senderCompId, key.targetCompId, key.year, key.week, ofColumn r.nextSenderSeq,
        ofColumn r.nextTargetSeq, updatedAt⟩)

end Blotter.Database.Tables
