import Blotter.Database.Store
import Blotter.JournalFile.Reading
import Blotter.Replay

/-!
# Recovery

What a trading desk asks for when it starts: open orders, positions, fills of a day and session states, answered from
the records of the journal file or from the tables of the database.
-/

namespace Blotter

/-- Answers to the questions of a recovery. -/
structure RecoveryReader where
  openOrders : AccountId → Except JournalError (List Order)
  openPositions : AccountId → Except JournalError (List Position)
  fillsOn : AccountId → Date → Except JournalError (List Fill)
  session? : SessionKey → Except JournalError (Option SessionState)

namespace RecoveryReader

/-- Answers from replayed records. -/
def ofReplay (s : Replay) : RecoveryReader where
  openOrders account := .ok (s.openOrders account)
  openPositions account := .ok (s.openPositions account)
  fillsOn account date := .ok (s.fillsOn account date)
  session? key := .ok (s.session? key)

/-- Answers from the tables of a database. -/
def ofTables (t : Database.Tables) : RecoveryReader where
  openOrders := t.openOrders
  openPositions := t.openPositions
  fillsOn := t.fillsOn
  session? := t.session?

end RecoveryReader

/-- The state that the journal at a path adds up to. -/
def Replay.load (d : Disk) (path : String) : Except (Failure JournalError) Replay :=
  match JournalFile.records d path with
  | .error e => .error (.reported (.sink e))
  | .ok rs => Failure.ofOverflow (Replay.ofRecords rs)

end Blotter
