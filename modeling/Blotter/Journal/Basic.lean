import Blotter.Database.Batching
import Blotter.Journal.Pool
import Blotter.JournalFile.Basic
import Blotter.Observability.Metrics
import Blotter.Recovery
import Blotter.Sink.Scripted

/-!
# Journals

A journal gives every event a number and hands it to two workers, one for the journal file and one for the database.
`persist` never waits for a sink. The workers run on their own: `Journal.stepFile` and `Journal.stepDatabase` are their
single steps, and any of them may come between two calls of the owner.

A worker can always be started: a system that has no thread for it is left out.
-/

namespace Blotter

/-- The news that an observer gets of a record in the journal file. -/
structure Notice where
  observer : String
  seq : Nat
  kind : EventKind
deriving DecidableEq, Repr

/-- What lies around a journal. -/
structure World where
  disk : Disk
  /-- The sink that takes the place of a database where it is asked for. -/
  scripted : ScriptedSink
  metrics : Metrics
  /-- The news in the order in which they were sent. -/
  notices : List Notice
  now : Instant
deriving DecidableEq

namespace World

/-- An empty disk at the given time. -/
def new (now : Instant) : World := ⟨.empty, {}, .empty, [], now⟩

/-- Raises a counter. -/
def count (w : World) (c : Counter) (n : Nat) : World := { w with metrics := w.metrics.add c n }

end World

/-- Where database records go. -/
inductive DatabaseSink where
  | store (s : Database.Store)
  | scripted
deriving DecidableEq

/-- The database side of a journal. -/
structure DatabaseLine where
  station : Station Handle
  sink : DatabaseSink
  settings : DatabaseSettings
deriving DecidableEq

/-- What an initialized journal works with. -/
structure Runtime where
  pool : ItemPool
  sequence : Sequence
  station : Station Handle
  file : JournalFile
  database : Option DatabaseLine
  retry : RetrySettings
deriving DecidableEq

/-- A journal. -/
structure Journal where
  state : JournalState
  /-- Who hears of the records that go to the bus. -/
  observers : List String
  runtime : Option Runtime
deriving DecidableEq

/-- What the gates and the queues of a journal show. -/
structure Admission where
  canPersist : Bool
  canPersistToDatabase : Bool
  databaseEnabled : Bool
  fileDepth : Nat
  databaseDepth : Nat
deriving DecidableEq, Repr

/-! ## Sinks -/

/-- The journal file on a medium as a sink. -/
def JournalFile.sinkOn (m : Disk.Medium) : Sink (JournalFile × Disk) Handle where
  plan pending _ := JournalFile.plan pending
  write batch w :=
    match w.1.appendOn m (batch.map Handle.record) w.2 with
    | (.ok (), f, d) => (.ok (), f, d)
    | (.error e, f, d) => (.error (.reported (.io e)), f, d)

/-- What becomes of a batch for the database. -/
inductive DatabaseFate where
  /-- It is stored, and its writer is told so. -/
  | sound
  /-- It is not stored. -/
  | refused (e : SinkError)
  /-- It is stored, but its writer is told that it failed. -/
  | unconfirmed (e : SinkError)

/-- Writes a batch to the database. -/
def DatabaseSink.write (now : Instant) (rs : List Record) :
    DatabaseSink × Disk × ScriptedSink → Except (Failure SinkError) Unit × DatabaseSink × Disk × ScriptedSink
  | (.store s, d, script) =>
    let (result, s, d) := s.writeBatch now rs d
    (result, .store s, d, script)
  | (.scripted, d, script) =>
    let (result, script) := script.write rs
    (result, .scripted, d, script)

/-- Writes a batch to the database with the given fate. -/
def DatabaseSink.writeWith (fate : DatabaseFate) (now : Instant) (rs : List Record)
    (w : DatabaseSink × Disk × ScriptedSink) :
    Except (Failure SinkError) Unit × DatabaseSink × Disk × ScriptedSink :=
  match fate with
  | .sound => write now rs w
  | .refused e => (.error (.reported e), w)
  | .unconfirmed e =>
    match write now rs w with
    | (.ok (), w) => (.error (.reported e), w)
    | failed => failed

/-- The database as a sink whose next batch has the given fate. -/
def DatabaseSettings.sinkWith (s : DatabaseSettings) (fate : DatabaseFate) (now : Instant) :
    Sink (DatabaseSink × Disk × ScriptedSink) Handle where
  plan := s.plan
  write batch w := DatabaseSink.writeWith fate now (batch.map Handle.record) w

/-- The highest number of a record in the database. -/
def DatabaseSink.lastSeq (w : World) : DatabaseSink → Except SinkError Nat
  | .store s => .ok (s.tables w.disk).lastSeq
  | .scripted => w.scripted.lastSeq

/-! ## Steps of the workers -/

namespace World

/-- The world after something happened at a sink. -/
def record (w : World) (sink : SinkName) (observers : List String) : Option (WorkerEvent Handle) → World
  | none => w
  | some (.failed alert) =>
    let w := w.count (.failures sink) 1
    if alert then w.count (.alerts sink) 1 else w
  | some (.wrote batch) => w.count (.written sink) batch.length
  | some (.announced batch) =>
    let news := (batch.filter (·.record.toBus)).flatMap fun h =>
      observers.map fun observer => ⟨observer, h.record.seq, h.record.kind⟩
    { w with notices := w.notices ++ news }

end World

namespace ItemPool

/-- The pool after something happened at a sink: the handles of announced items come back. -/
def record (p : ItemPool) : Option (WorkerEvent Handle) → ItemPool
  | some (.announced batch) => batch.foldl release p
  | _ => p

end ItemPool

namespace Runtime

/-- One step of the worker of the journal file, which writes on the given medium. -/
def stepFileOn (r : Runtime) (m : Disk.Medium) (observers : List String) (w : World) : Runtime × World :=
  let (station, (file, disk), event) := r.station.step (JournalFile.sinkOn m) r.retry (r.file, w.disk)
  ({ r with station, file, pool := r.pool.record event }, { w with disk }.record .file observers event)

/-- One step of the worker of the database, where a batch has the given fate. It has no observers. -/
def stepDatabaseWith (r : Runtime) (fate : DatabaseFate) (w : World) : Runtime × World :=
  match r.database with
  | none => (r, w)
  | some line =>
    let (station, (sink, disk, scripted), event) :=
      line.station.step (line.settings.sinkWith fate w.now) r.retry (line.sink, w.disk, w.scripted)
    ({ r with database := some { line with station, sink }, pool := r.pool.record event },
      { w with disk, scripted }.record .database [] event)

end Runtime

namespace Journal

/-- A new journal. -/
def new : Journal := ⟨.uninitialized, [], none⟩

/-- One step of the worker of the journal file, which writes on the given medium. -/
def stepFileOn (j : Journal) (m : Disk.Medium) (w : World) : Journal × World :=
  match j.runtime with
  | none => (j, w)
  | some r =>
    let (r, w) := r.stepFileOn m j.observers w
    ({ j with runtime := some r }, w)

/-- One step of the worker of the journal file. -/
def stepFile (j : Journal) (w : World) : Journal × World := j.stepFileOn .sound w

/-- One step of the worker of the database, where a batch has the given fate. -/
def stepDatabaseWith (j : Journal) (fate : DatabaseFate) (w : World) : Journal × World :=
  match j.runtime with
  | none => (j, w)
  | some r =>
    let (r, w) := r.stepDatabaseWith fate w
    ({ j with runtime := some r }, w)

/-- One step of the worker of the database. -/
def stepDatabase (j : Journal) (w : World) : Journal × World := j.stepDatabaseWith .sound w

/-! ## Life cycle -/

/-- The result of a call with the journal and the world after it. -/
abbrev Outcome (α : Type) := Except JournalError α × Journal × World

/-- Opens the database that the settings ask for, or takes the scripted sink in its place. -/
def openDatabase (s : DatabaseSettings) (custom : Bool) (d : Disk) :
    Except JournalError (Option DatabaseSink) × Disk :=
  if custom then (.ok (some .scripted), d)
  else if s.enabled then
    match DatabaseTarget.parse s.connection with
    | .error e => (.error (.config e), d)
    | .ok target =>
      match Database.Store.openAt d target with
      | (.error e, d) => (.error (.sink e), d)
      | (.ok store, d) => (.ok (some (.store store)), d)
  else (.ok none, d)

/-- Opens the sinks of a journal. What was made on the disk stays when a later sink cannot be opened. -/
def openRuntime (s : JournalSettings) (custom : Bool) (w : World) : Except JournalError Runtime × World :=
  match s.validate w.disk with
  | .error e => (.error (.config e), w)
  | .ok () =>
    match JournalFile.openAt w.disk s.file.path s.file.sync with
    | (.error e, disk) => (.error (.sink (.io e)), { w with disk })
    | (.ok file, disk) =>
      match file.rewind disk with
      | .error e => (.error (.sink e), { w with disk })
      | .ok rs =>
        match openDatabase s.database custom disk with
        | (.error e, disk) => (.error e, { w with disk })
        | (.ok sink, disk) =>
          let w := { w with disk }
          match sink.mapM (DatabaseSink.lastSeq w) with
          | .error e => (.error (.sink e), w)
          | .ok last =>
            let database := sink.map fun sink => ⟨.new s.database.maxQueueDepth, sink, s.database⟩
            (.ok {
              pool := .new s.pool.initialCapacity s.pool.allowGrowth
              sequence := .startingAfter (Nat.max (JournalFile.highest rs) (last.getD 0))
              station := .new s.file.maxQueueDepth
              file, database, retry := s.retry }, w)

/-- Initializes a new journal. `custom` puts the scripted sink in the place of the database. -/
def init (j : Journal) (s : JournalSettings) (custom : Bool) (w : World) : Outcome Unit :=
  if j.state != .uninitialized then (.error (.invalidState .uninitialized j.state), j, w)
  else
    let s := if custom then { s with database := { s.database with enabled := true } } else s
    match openRuntime s custom w with
    | (.error e, w) => (.error e, j, w)
    | (.ok r, w) => (.ok (), { j with state := .initialized, runtime := some r }, w)

/-- Starts the workers of a runtime. -/
def startWorkers (r : Runtime) : Runtime :=
  { r with
    station := r.station.start
    database := r.database.map fun line => { line with station := line.station.start } }

/-- Closes the queues of a runtime. -/
def closeQueues (r : Runtime) : Runtime :=
  { r with
    station := r.station.close
    database := r.database.map fun line => { line with station := line.station.close } }

/-- Starts an initialized journal. A worker for which there is no thread would stop the journal at once, and the start
would fail with an I/O error; that is left out. -/
def start (j : Journal) : Except JournalError Unit × Journal :=
  if j.state != .initialized then (.error (.invalidState .initialized j.state), j)
  else (.ok (), { j with state := .started, runtime := j.runtime.map startWorkers })

/-- The first half of a stop: no more records are accepted. A journal that was never started starts its workers just to
write what waits. A worker for which there is no thread would leave that unwritten; that is left out. -/
def beginStop (j : Journal) : Journal :=
  match j.state with
  | .uninitialized => { j with state := .stopped }
  | .stopping | .stopped => j
  | .initialized => { j with state := .stopping, runtime := j.runtime.map (closeQueues ∘ startWorkers) }
  | .started => { j with state := .stopping, runtime := j.runtime.map closeQueues }

/-- The second half of a stop, when both workers have ended. -/
def endStop (j : Journal) : Journal := if j.state == .stopping then { j with state := .stopped } else j

/-- Registers an observer, which is possible until the journal is started. -/
def observe (j : Journal) (observer : String) : Except JournalError Unit × Journal :=
  match j.state with
  | .uninitialized | .initialized => (.ok (), { j with observers := j.observers ++ [observer] })
  | found => (.error (.invalidState .initialized found), j)

/-- Rotates the journal file, which is possible while its worker is not running. -/
def rotate (j : Journal) (backup : Bool) (w : World) : Outcome Unit :=
  match j.state, j.runtime with
  | .initialized, some r | .stopped, some r =>
    match r.file.rotate backup w.disk with
    | (.error e, file, disk) => (.error (.sink (.io e)), { j with runtime := some { r with file } }, { w with disk })
    | (.ok (), file, disk) => (.ok (), { j with runtime := some { r with file } }, { w with disk })
  | found, _ => (.error (.invalidState .initialized found), j, w)

/-! ## Records -/

/-- Hands an event to the sinks under the next number: to the database, if it stores such events, and to the file. -/
def Runtime.persist (r : Runtime) (event : Event) (toBus : Bool) (w : World) :
    Except JournalError Nat × Runtime × World :=
  let seq := r.sequence.next
  match r.pool.obtain? ⟨seq, w.now, toBus, event⟩ with
  | none => (.error (.poolExhausted r.pool.capacity), r, w)
  | some (h, pool) =>
    let pushTo (s : Station Handle) : Station Handle := { s with queue := s.queue.push h }
    let w := w.count (.enqueued .file) 1
    match r.database, event.kind.isStored with
    | some line, true =>
      (.ok seq,
        { r with
          pool := pool.share h, sequence := r.sequence.advance, station := pushTo r.station
          database := some { line with station := pushTo line.station } },
        w.count (.enqueued .database) 1)
    | _, _ => (.ok seq, { r with pool, sequence := r.sequence.advance, station := pushTo r.station }, w)

/-- Journals an event: its number, unless the journal is not open or its pool is exhausted. -/
def persist (j : Journal) (event : Event) (toBus : Bool) (w : World) : Outcome Nat :=
  match j.state, j.runtime with
  | .initialized, some r | .started, some r =>
    match Runtime.persist r event toBus w with
    | (result, r, w) => (result, { j with runtime := some r }, w)
  | .stopping, _ | .stopped, _ => (.error .stopped, j, w)
  | _, _ => (.error .notInitialized, j, w)

/-- Whether observers hear of events of a kind unless the caller says otherwise. -/
def goesToBus : EventKind → Bool
  | .order | .orderReject | .fill | .fillCopy | .pnlSnapshot => true
  | .command | .sessionState | .sessionMessage | .messagingStats => false

/-! ## Inspection -/

/-- Whether the file queue admits new orders. -/
def canPersist (j : Journal) : Bool := j.runtime.any fun r => r.station.queue.admits

/-- Whether the database queue admits new orders; it does if there is none. -/
def canPersistToDatabase (j : Journal) : Bool :=
  j.runtime.any fun r => r.database.all fun line => line.station.queue.admits

/-- The number issued last, zero if there is none. -/
def lastSeq (j : Journal) : Nat := (j.runtime.map (·.sequence.last)).getD 0

/-- What the gates and the queues of a journal show. -/
def admission? (j : Journal) : Option Admission :=
  j.runtime.map fun r => {
    canPersist := j.canPersist
    canPersistToDatabase := j.canPersistToDatabase
    databaseEnabled := r.database.isSome
    fileDepth := r.station.queue.depth
    databaseDepth := (r.database.map (·.station.queue.depth)).getD 0 }

/-- How many slots of the pool are free and how many there are. -/
def poolStats (j : Journal) : Nat × Nat := (j.runtime.map fun r => (r.pool.available, r.pool.allocated)).getD (0, 0)

/-- The answers to the questions of a recovery, from one of the sinks. -/
def recover (j : Journal) (source : RecoverySource) (w : World) : Except (Failure JournalError) RecoveryReader :=
  match j.runtime, source with
  | none, _ => .error (.reported .notInitialized)
  | some r, .file => (Replay.load w.disk r.file.path).map .ofReplay
  | some r, .database =>
    match r.database with
    | some ⟨_, .store s, _⟩ => .ok (.ofTables (s.tables w.disk))
    | _ => .error (.reported (.recovery "database sink is not enabled"))

end Journal

end Blotter
