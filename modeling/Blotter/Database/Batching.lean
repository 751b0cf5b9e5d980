import Blotter.Journal.Worker

/-!
# Batches for the database

Records wait until they fill a batch. An unfilled batch is written when no more records come, when the queue is closed
or when it has been held for a number of rounds.
-/

namespace Blotter.DatabaseSettings

/-- How many records a full batch has, at least one. -/
def fullBatch (s : DatabaseSettings) : Nat := Nat.max s.batchSize 1

/-- How many rounds a batch is held at most, at least one. -/
def roundLimit (s : DatabaseSettings) : Nat := Nat.max s.maxRounds 1

/-- How many of the waiting records are written next. -/
def plan (s : DatabaseSettings) (pending : Nat) (round : Round) : Nat :=
  if s.fullBatch ≤ pending then s.fullBatch
  else if round.stopping || round.idle || s.roundLimit ≤ round.rounds + 1 then pending
  else 0

/-- How many milliseconds the database waits for records, at least one. -/
def pollMs (s : DatabaseSettings) : Nat := Nat.max s.idleFlushMs 1

end Blotter.DatabaseSettings
