import Blotter.Failure
import Blotter.Event
import Blotter.Sink.Error

/-!
# Scripted sinks

A sink that fails when it is told to and otherwise notes what it was given.
-/

namespace Blotter

/-- A sink under the control of its owner. -/
structure ScriptedSink where
  /-- Whether every write fails. -/
  down : Bool := false
  /-- How many more writes fail. -/
  failNext : Nat := 0
  /-- The highest number that the sink claims to hold. -/
  last : Nat := 0
  /-- Why the sink cannot tell the highest number. -/
  lastError : Option String := none
  /-- The numbers of the records of every batch that was taken. -/
  batches : List (List Nat) := []
deriving DecidableEq, Repr

namespace ScriptedSink

/-- Writes a batch. -/
def write (rs : List Record) (s : ScriptedSink) : Except (Failure SinkError) Unit × ScriptedSink :=
  if s.down then (.error (.reported (.unavailable "scripted")), s)
  else if 0 < s.failNext then
    (.error (.reported (.unavailable "scripted")), { s with failNext := s.failNext - 1 })
  else (.ok (), { s with batches := s.batches ++ [rs.map Record.seq] })

/-- The highest number that the sink claims to hold. -/
def lastSeq (s : ScriptedSink) : Except SinkError Nat :=
  match s.lastError with
  | some reason => .error (.unavailable reason)
  | none => .ok s.last

end ScriptedSink

end Blotter
