import Blotter.Disk.Medium
import Blotter.JournalFile.Reading
import Blotter.Settings.Basic

/-!
# Journal files

An open journal file takes records at its end, one line each. If the last line was torn, by a crash or by a write that
failed, the next record starts on a line of its own. A rotation makes the file the backup and starts a new one.
-/

namespace Blotter

/-- A journal file that is open for appending. -/
structure JournalFile where
  path : String
  handle : Disk.Handle
  policy : SyncPolicy
  /-- Whether the last line may lack its end. -/
  torn : Bool
deriving DecidableEq, Repr

namespace JournalFile

/-- Whether the bytes end in the middle of a line. -/
def isTorn (data : List UInt8) : Bool := (data.getLast?.map (· != lineBreak)).getD false

/-- The outcome of an operation on the disk with the disk after it. Effects of an operation that fails stay. -/
abbrev Outcome (α : Type) := Except IoError α × Disk

/-- Opens the file at a path, a new one in new directories if there is none. -/
def openAt (d : Disk) (path : String) (policy : SyncPolicy) : Outcome JournalFile :=
  match d.makeParents path with
  | (.error e, d) => (.error e, d)
  | (.ok (), d) =>
    match d.openAppend path with
    | .error e => (.error e, d)
    | .ok (handle, d) =>
      match d.read path with
      | .error e => (.error e, d)
      | .ok data => (.ok ⟨path, handle, policy, isTorn data⟩, d)

/-- The line of a record with its end. -/
def lineBytes (r : Record) : List UInt8 := r.line.toUTF8.toList ++ [lineBreak]

/-- The bytes that records are written as, cut into the pieces that are written at once. -/
def pieces (policy : SyncPolicy) (rs : List Record) : List (List UInt8) :=
  match policy with
  | .record => rs.map lineBytes
  | .batch | .never => [rs.flatMap lineBytes]

/-- Writes pieces one after the other and, if `sync` is set, brings each one to stable storage. -/
def writePieces (m : Disk.Medium) (h : Disk.Handle) (sync : Bool) : List (List UInt8) → Disk → Outcome Unit
  | [], d => (.ok (), d)
  | piece :: rest, d =>
    match m.append d h piece with
    | (.error e, d) => (.error e, d)
    | (.ok (), d) =>
      if sync then
        match m.sync d h with
        | .error e => (.error e, d)
        | .ok () => writePieces m h sync rest d
      else writePieces m h sync rest d

/-- Ends a torn line. -/
def mend (f : JournalFile) (m : Disk.Medium) (d : Disk) : Outcome Unit :=
  if f.torn then writePieces m f.handle false [[lineBreak]] d else (.ok (), d)

/-- Appends records on a medium. After a failure the last line counts as torn. -/
def appendOn (f : JournalFile) (m : Disk.Medium) (rs : List Record) (d : Disk) :
    Except IoError Unit × JournalFile × Disk :=
  match f.mend m d with
  | (.error e, d) => (.error e, { f with torn := true }, d)
  | (.ok (), d) =>
    match writePieces m f.handle (f.policy != .never) (pieces f.policy rs) d with
    | (.error e, d) => (.error e, { f with torn := true }, d)
    | (.ok (), d) => (.ok (), { f with torn := false }, d)

/-- Appends records. -/
def append (f : JournalFile) (rs : List Record) (d : Disk) : Except IoError Unit × JournalFile × Disk :=
  f.appendOn .sound rs d

/-- Brings the file to stable storage. -/
def sync (f : JournalFile) : Except IoError Unit := Disk.sync f.handle

/-- Starts over: the file becomes the backup and a new one is opened, or without backup it is emptied. -/
def rotate (f : JournalFile) (backup : Bool) (d : Disk) : Except IoError Unit × JournalFile × Disk :=
  match f.sync with
  | .error e => (.error e, f, d)
  | .ok () =>
    if backup then
      match d.rename f.path (Path.backup f.path) with
      | .error e => (.error e, f, d)
      | .ok d =>
        match d.openAppend f.path with
        | .error e => (.error e, f, d)
        | .ok (handle, d) => (.ok (), { f with handle, torn := false }, d)
    else
      match d.truncate f.handle with
      | .error e => (.error e, f, d)
      | .ok d => (.ok (), { f with torn := false }, d)

/-- The records of the journal that the file belongs to. -/
def rewind (f : JournalFile) (d : Disk) : Except SinkError (List Record) := records d f.path

/-- The most records that are written at once. -/
def batchLimit : Nat := 4096

/-- How many of the waiting records are written next: all of them, up to the limit. -/
def plan (pending : Nat) : Nat := Nat.min pending batchLimit

/-- How many milliseconds the file waits for records. -/
def pollMs : Nat := 100

end JournalFile

end Blotter
