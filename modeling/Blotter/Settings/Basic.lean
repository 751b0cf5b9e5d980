import Blotter.Decimal.Basic

/-!
# Settings

What an operator can set: where the journal and the database lie, how deep the queues are, how batches are formed, how
failed writes are retried, what is recovered at the start, and how orders are checked. Every setting has a default.
-/

namespace Blotter

/-- When the journal file is brought to stable storage. -/
inductive SyncPolicy where
  | never
  /-- After every batch of records. -/
  | batch
  /-- After every record. -/
  | record
deriving DecidableEq, Repr

namespace SyncPolicy

/-- All policies. -/
def all : List SyncPolicy := [.never, .batch, .record]

/-- The name of a policy. -/
def name : SyncPolicy → String
  | .never => "never"
  | .batch => "batch"
  | .record => "record"

/-- The policy with the given name. -/
def ofName? (s : String) : Option SyncPolicy := all.find? (·.name == s)

end SyncPolicy

/-- Settings of the journal file. -/
structure FileSettings where
  path : String := "./data/journal.jsonl"
  sync : SyncPolicy := .batch
  maxQueueDepth : Nat := 10000
deriving DecidableEq, Repr

/-- Settings of the item pool. -/
structure PoolSettings where
  initialCapacity : Nat := 4096
  allowGrowth : Bool := true
deriving DecidableEq, Repr

/-- Settings of the database and of the batches written to it. -/
structure DatabaseSettings where
  enabled : Bool := true
  connection : String := "sqlite://./data/journal.db"
  maxQueueDepth : Nat := 50000
  batchSize : Nat := 200
  /-- After how many rounds a batch that keeps growing is written although it is not full. -/
  maxRounds : Nat := 4
  idleFlushMs : Nat := 50
deriving DecidableEq, Repr

/-- Settings for failed writes. -/
structure RetrySettings where
  initialBackoffMs : Nat := 10
  maxBackoffMs : Nat := 1000
  /-- An alert is raised whenever this many more attempts failed in a row; zero raises none. -/
  alertAfter : Nat := 5
  /-- How many attempts a batch gets once the journal is closed. -/
  finalAttempts : Nat := 3
deriving DecidableEq, Repr

/-- Settings of a journal. -/
structure JournalSettings where
  file : FileSettings := {}
  pool : PoolSettings := {}
  database : DatabaseSettings := {}
  retry : RetrySettings := {}
deriving DecidableEq, Repr

/-- A journal in a file, without a database. -/
def JournalSettings.fileOnly (path : String) : JournalSettings :=
  { file := { path }, database := { enabled := false } }

/-- Where the state is recovered from. -/
inductive RecoverySource where
  | file
  | database
deriving DecidableEq, Repr

namespace RecoverySource

/-- All sources. -/
def all : List RecoverySource := [.file, .database]

/-- The name of a source. -/
def name : RecoverySource → String
  | .file => "file"
  | .database => "database"

/-- The source with the given name. -/
def ofName? (s : String) : Option RecoverySource := all.find? (·.name == s)

end RecoverySource

/-- Settings of the recovery. -/
structure RecoverySettings where
  account : String := "default"
  source : RecoverySource := .file
deriving DecidableEq, Repr

/-- Whether a strategy hears of an event before or after the event is journaled. -/
inductive PersistOrdering where
  | callbackFirst
  | persistFirst
deriving DecidableEq, Repr

namespace PersistOrdering

/-- All orderings. -/
def all : List PersistOrdering := [.callbackFirst, .persistFirst]

/-- The name of an ordering. -/
def name : PersistOrdering → String
  | .callbackFirst => "callback_first"
  | .persistFirst => "persist_first"

/-- The ordering with the given name. -/
def ofName? (s : String) : Option PersistOrdering := all.find? (·.name == s)

end PersistOrdering

/-- The largest quantity of an order, unless another one is set. -/
def DeskSettings.defaultMaxOrderQuantity : Decimal :=
  { Decimal.zero with coefficient := 100000, coefficient_lt := by decide }

/-- Settings of a trading desk. -/
structure DeskSettings where
  orderFlowEnabled : Bool := true
  /-- How many rounds of cancels a desk issues at most when it stops. -/
  drainIterations : Nat := 10
  drainSleepMs : Nat := 500
  persistOrdering : PersistOrdering := .callbackFirst
  maxOrderQuantity : Decimal := DeskSettings.defaultMaxOrderQuantity
  /-- How many orders are sent in a second at most; zero sets no limit. -/
  maxOrdersPerSecond : Nat := 50
deriving DecidableEq

/-- Settings of logs, traces and metrics. -/
structure ObservabilitySettings where
  logFilter : String := "info"
  otelEnabled : Bool := false
  otlpEndpoint : String := "http://localhost:4317"
  serviceName : String := "order-journal"
  metricsAddr : Option String := none
deriving DecidableEq, Repr

/-- All settings. -/
structure Config where
  journal : FileSettings := {}
  pool : PoolSettings := {}
  database : DatabaseSettings := {}
  retry : RetrySettings := {}
  recovery : RecoverySettings := {}
  desk : DeskSettings := {}
  observability : ObservabilitySettings := {}
deriving DecidableEq

/-- The settings of the journal among all settings. -/
def Config.journalSettings (c : Config) : JournalSettings := ⟨c.journal, c.pool, c.database, c.retry⟩

/-! ## Database targets -/

/-- Where a database lies. -/
inductive DatabaseTarget where
  | memory
  | file (path : String)
deriving DecidableEq, Repr

end Blotter
