import Blotter.Record.Codec
import Blotter.Sink.Error

/-!
# Reading a journal file

A journal file has one record on each line. A line that is no record (blank, torn by a crash, written by someone else)
says nothing, and it takes nothing from the other lines. The records of the backup come before those of the current
file; sorted by their numbers, each number counts once.
-/

namespace Blotter.JournalFile

/-- The byte that ends a line. -/
def lineBreak : UInt8 := 10

/-- The record on a line, if there is one. -/
def recordOfLine? (line : List UInt8) : Option Record := String.fromUTF8? ⟨line.toArray⟩ >>= Record.ofLine?

/-- The records of a file in the order of their lines. -/
def recordsOfBytes (data : List UInt8) : List Record := (data.splitOnP (· == lineBreak)).filterMap recordOfLine?

/-- The records without those that have the number of the record in front. -/
def dropRepeated : List Record → List Record
  | [] => []
  | [r] => [r]
  | r :: s :: rest => if r.seq == s.seq then dropRepeated (r :: rest) else r :: dropRepeated (s :: rest)

/-- The records in the order of their numbers, the first one of each number. -/
def inOrder (rs : List Record) : List Record := dropRepeated (rs.mergeSort fun r s => r.seq ≤ s.seq)

/-- The records of a backup and a current file. -/
def recordsOfContents (backup current : List UInt8) : List Record :=
  inOrder (recordsOfBytes backup ++ recordsOfBytes current)

/-- The bytes of a file, none if there is no file. -/
def contents (d : Disk) (path : String) : Except IoError (List UInt8) :=
  match d.read path with
  | .error .notFound => .ok []
  | result => result

/-- The records of the journal at a path. -/
def records (d : Disk) (path : String) : Except SinkError (List Record) :=
  match contents d (Path.backup path) with
  | .error e => .error (.io e)
  | .ok backup =>
    match contents d path with
    | .error e => .error (.io e)
    | .ok current => .ok (recordsOfContents backup current)

/-- The highest number in a list of records that is in order, zero if it is empty. -/
def highest (rs : List Record) : Nat := (rs.getLast?.map Record.seq).getD 0

end Blotter.JournalFile
