import Blotter.Failure
import Blotter.Journal.Queue
import Blotter.Settings.Basic
import Blotter.Sink.Error

/-!
# Workers

A worker moves the items of a queue into a sink. It waits until there are more items than it knows of, lets the sink
decide how many to write, writes that many, takes them off the queue and announces them. While a write fails it tries
the same items again; once the queue is closed a batch gets a limited number of attempts. Then the worker ends, and so
it does when it finds a closed queue empty.

`Station.step` is one indivisible step of a worker. The owner of the queue may push items or close it between any two
steps.
-/

namespace Blotter

/-- What a sink is told when it decides how many of the waiting items to write. -/
structure Round where
  /-- For how many rounds the items have been held back while more came. -/
  rounds : Nat
  /-- Whether no items came while the worker waited. -/
  idle : Bool
  /-- Whether the queue is closed. -/
  stopping : Bool
deriving DecidableEq, Repr

/-- Where a worker writes items of type `ι`, with an effect on a world `ω`. -/
structure Sink (ω ι : Type) where
  /-- How many of the waiting items are written next; zero holds them back. -/
  plan : Nat → Round → Nat
  /-- Writes items. -/
  write : List ι → ω → Except (Failure SinkError) Unit × ω

/-- What a worker does next. -/
inductive Phase (ι : Type) where
  /-- It was never started. -/
  | asleep
  /-- It waits for more than `held` items, which it has held back for some rounds. -/
  | waiting (held rounds : Nat)
  /-- It looks whether the queue is closed; `grew` says whether items came while it waited. -/
  | woken (grew : Bool) (rounds : Nat)
  /-- It looks how many items wait, and plans. -/
  | planning (grew stopping : Bool) (rounds : Nat)
  /-- It takes a look at the first items. -/
  | peeking (count : Nat)
  /-- It looks whether the queue is closed, and then tries to write. -/
  | trying (batch : List ι) (failures finalAttempts : Nat)
  /-- It writes. -/
  | writing (batch : List ι) (failures finalAttempts : Nat)
  /-- It takes written items off the queue. -/
  | committing (batch : List ι)
  /-- It announces written items. -/
  | announcing (batch : List ι)
  /-- It has ended. -/
  | ended
  /-- A decimal operation without result took it down. -/
  | broken (cause : Overflow)
deriving DecidableEq

/-- What others notice of a step. -/
inductive WorkerEvent (ι : Type) where
  /-- An attempt failed; `alert` says whether it is time to raise an alert. -/
  | failed (alert : Bool)
  /-- The sink took a batch. -/
  | wrote (batch : List ι)
  /-- A batch was taken off the queue and is announced. -/
  | announced (batch : List ι)
deriving DecidableEq

/-- A queue and the worker at its other end. -/
structure Station (ι : Type) where
  queue : Queue ι
  phase : Phase ι
deriving DecidableEq

namespace Station

variable {ω ι : Type}

/-- A queue whose worker is not started. -/
def new (maxDepth : Nat) : Station ι := ⟨.new maxDepth, .asleep⟩

/-- Whether an alert is due after so many failures in a row. -/
def alertIsDue (retry : RetrySettings) (failures : Nat) : Bool :=
  0 < retry.alertAfter && failures % retry.alertAfter == 0

/-- The phase after an attempt failed: the batch is tried again unless it has had its last attempt. -/
def afterFailure (retry : RetrySettings) (batch : List ι) (failures finalAttempts : Nat) : Phase ι :=
  if retry.finalAttempts ≤ finalAttempts then .ended else .trying batch failures finalAttempts

/-- One step of the worker. -/
def step (sink : Sink ω ι) (retry : RetrySettings) (s : Station ι) (w : ω) : Station ι × ω × Option (WorkerEvent ι) :=
  let q := s.queue
  match s.phase with
  | .asleep | .ended | .broken _ => (s, w, none)
  | .waiting held rounds => (⟨q, .woken (held < q.items.length) rounds⟩, w, none)
  | .woken grew rounds => (⟨q, .planning grew q.closed rounds⟩, w, none)
  | .planning grew stopping rounds =>
    if q.depth == 0 then (⟨q, if stopping then .ended else .waiting 0 0⟩, w, none)
    else
      let count := sink.plan q.depth ⟨rounds, !grew, stopping⟩
      let next := if count == 0 then .waiting q.depth (if grew then rounds + 1 else rounds) else .peeking count
      (⟨q, next⟩, w, none)
  | .peeking count => (⟨q, .trying (q.peek count) 0 0⟩, w, none)
  | .trying batch failures finalAttempts =>
    (⟨q, .writing batch failures (if q.closed then finalAttempts + 1 else finalAttempts)⟩, w, none)
  | .writing batch failures finalAttempts =>
    match sink.write batch w with
    | (.ok (), w) => (⟨q, .committing batch⟩, w, some (.wrote batch))
    | (.error (.reported _), w) =>
      (⟨q, afterFailure retry batch (failures + 1) finalAttempts⟩, w, some (.failed (alertIsDue retry (failures + 1))))
    | (.error (.overflow cause), w) => (⟨q, .broken cause⟩, w, none)
  | .committing batch => (⟨q.commit batch.length, .announcing batch⟩, w, none)
  | .announcing batch => (⟨q, .waiting 0 0⟩, w, some (.announced batch))

/-- The station after its worker was started. -/
def start (s : Station ι) : Station ι := { s with phase := .waiting 0 0 }

/-- The station after its queue was closed. -/
def close (s : Station ι) : Station ι := { s with queue := s.queue.close }

/-- Whether the worker will do nothing more. -/
def isDone (s : Station ι) : Bool :=
  match s.phase with
  | .asleep | .ended | .broken _ => true
  | _ => false

/-- Whether the worker waits and no item does. -/
def isQuiet (s : Station ι) : Bool :=
  s.isDone || match s.phase with
    | .waiting _ _ => s.queue.items.isEmpty
    | _ => false

end Station

end Blotter
