import Blotter.Database.Reading

/-!
# Open databases

A database lies in memory, where it belongs to whoever opened it, or in a file on the disk.
-/

namespace Blotter.Database

/-- An open database. -/
inductive Store where
  | memory (tables : Tables)
  /-- The file with the given number. -/
  | file (id : Nat)
deriving DecidableEq

namespace Store

/-- The path that stands for a database in memory. -/
def memoryPath : String := ":memory:"

/-- Opens the database at a target; one in a file is made, with the directories above it, if there is none. -/
def openAt (d : Disk) : DatabaseTarget → Except SinkError Store × Disk
  | .memory => (.ok (.memory .empty), d)
  | .file path =>
    if path == memoryPath then (.ok (.memory .empty), d)
    else match d.makeParents path with
    | (.error e, d) => (.error (.io e), d)
    | (.ok (), d) =>
      match d.openDatabase path with
      | none => (.error (.database (.cannotOpen path)), d)
      | some (none, d) => (.error (.database .notADatabase), d)
      | some (some id, d) => (.ok (.file id), d)

/-- The tables of an open database. -/
def tables (d : Disk) : Store → Tables
  | .memory t => t
  | .file id => d.tables id

/-- The database and the disk after the tables changed. -/
def setTables (d : Disk) (t : Tables) : Store → Store × Disk
  | .memory _ => (.memory t, d)
  | .file id => (.file id, d.setTables id t)

/-- Stores the records of a batch; if that fails nothing is changed. -/
def writeBatch (now : Instant) (rs : List Record) (s : Store) (d : Disk) :
    Except (Failure SinkError) Unit × Store × Disk :=
  match (s.tables d).writeBatch now rs with
  | .error e => (.error e, s, d)
  | .ok t => (.ok (), s.setTables d t)

end Store

end Blotter.Database
