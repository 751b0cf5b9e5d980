import Blotter.Journal.Basic

/-!
# Running the workers

Lets the workers of a journal go on until they rest: `settle` after each call, until nothing waits any more, and `stop`
at the end, until they have ended. The number of steps is bounded by what waits and by how often a write may fail.
-/

namespace Blotter

/-- How many steps a worker takes at most for what waits in its queue, if every batch fails at most `failures` times:
it plans at most twice and takes three steps to peek, commit and announce a batch, and two for every attempt. -/
def Station.patience {ι : Type} (s : Station ι) (failures : Nat) : Nat :=
  (s.queue.items.length + 2) * (16 + 2 * failures)

namespace Journal

/-- Lets the worker of the journal file go on until its station is as wanted. -/
def runFile (wanted : Station Handle → Bool) : Nat → Journal → World → Journal × World
  | 0, j, w => (j, w)
  | fuel + 1, j, w =>
    if j.runtime.all fun r => wanted r.station then (j, w)
    else
      let (j, w) := j.stepFile w
      runFile wanted fuel j w

/-- Lets the worker of the database go on until its station is as wanted. -/
def runDatabase (wanted : Station Handle → Bool) : Nat → Journal → World → Journal × World
  | 0, j, w => (j, w)
  | fuel + 1, j, w =>
    if j.runtime.all fun r => r.database.all fun line => wanted line.station then (j, w)
    else
      let (j, w) := j.stepDatabase w
      runDatabase wanted fuel j w

/-- How many steps the file worker needs at most. -/
def filePatience (j : Journal) (failures : Nat) : Nat := (j.runtime.map fun r => r.station.patience failures).getD 0

/-- How many steps the database worker needs at most. -/
def databasePatience (j : Journal) (failures : Nat) : Nat :=
  ((j.runtime.bind (·.database)).map fun line => line.station.patience failures).getD 0

/-- Whether the database is a sink that fails all the time. -/
def databaseIsDown (j : Journal) (w : World) : Bool :=
  w.scripted.down && (j.runtime.bind (·.database)).any fun line => line.sink == .scripted

/-- Lets the workers of a started journal go on until nothing waits. A database that fails all the time is left
alone. -/
def settle (j : Journal) (w : World) : Journal × World :=
  if j.state != .started then (j, w)
  else
    let (j, w) := j.runFile Station.isQuiet (j.filePatience 0) w
    if j.databaseIsDown w then (j, w) else j.runDatabase Station.isQuiet (j.databasePatience w.scripted.failNext) w

/-- Stops a journal: both workers write what waits and end. -/
def stop (j : Journal) (w : World) : Journal × World :=
  let j := j.beginStop
  let attempts := (j.runtime.map (·.retry.finalAttempts)).getD 0
  let (j, w) := j.runFile Station.isDone (j.filePatience attempts) w
  let (j, w) := j.runDatabase Station.isDone (j.databasePatience attempts) w
  (j.endStop, w)

end Journal

end Blotter
