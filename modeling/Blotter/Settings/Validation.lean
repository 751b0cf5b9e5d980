import Blotter.Disk
import Blotter.Settings.Basic
import Blotter.Text.Blank

/-!
# Valid settings

A journal can run with its settings if its path leads to a writable file or to a place where one can be made, the
database is one that can be opened, and no number is out of its range. The checks are made in a fixed order and the
first one that fails is the answer.
-/

namespace Blotter

/-- What is wrong with settings. -/
inductive SettingsFault where
  | emptyPath
  | notRegular (path : String)
  | readOnly (path : String)
  | parentNotDirectory (path parent : String)
  | noBatchSize
  | noRounds
  | backoffOrder
  | noFinalAttempts
  | emptyAccount
  | recoveryWithoutDatabase
  | noDrainIterations
deriving DecidableEq, Repr

/-- The sentence that says what is wrong with settings. -/
def SettingsFault.message : SettingsFault → String
  | .emptyPath => "journal.file_path must not be empty"
  | .notRegular path => s!"journal.file_path '{path}' is not a regular file"
  | .readOnly path => s!"journal.file_path '{path}' is read-only"
  | .parentNotDirectory path parent => s!"journal.file_path '{path}' has non-directory parent '{parent}'"
  | .noBatchSize => "database.batch_size must be positive"
  | .noRounds => "database.max_batch_before_flush must be positive"
  | .backoffOrder => "retry.initial_backoff_ms must not exceed retry.max_backoff_ms"
  | .noFinalAttempts => "retry.final_flush_attempts must be positive"
  | .emptyAccount => "recovery.account must not be empty"
  | .recoveryWithoutDatabase => "recovery.source = database requires database.enabled"
  | .noDrainIterations => "container.drain_iterations must be positive"

/-- Why there are no usable settings. -/
inductive ConfigError where
  /-- The file with the settings cannot be read. -/
  | read (path : String) (cause : IoError)
  /-- The text is no document with settings. -/
  | parse
  | validation (fault : SettingsFault)
  /-- The connection text names no database that can be opened. -/
  | unsupportedDatabase (connection : String)
deriving DecidableEq, Repr

/-- The sentence that says why there are no usable settings. Where a document goes wrong is left open. -/
def ConfigError.message : ConfigError → String
  | .read path cause => s!"Failed to read config file '{path}': {cause.message}"
  | .parse => "Failed to parse config YAML: *"
  | .validation fault => s!"Config validation failed: {fault.message}"
  | .unsupportedDatabase connection => s!"Unsupported database connection string: '{connection}'"

/-- A name of the error for programs. -/
def ConfigError.code : ConfigError → String
  | .read _ _ => "Config.Read"
  | .parse => "Config.Parse"
  | .validation _ => "Config.Validation"
  | .unsupportedDatabase _ => "Config.UnsupportedDatabase"

/-- Reads where a database lies. Blanks around the text do not count. -/
def DatabaseTarget.parse (connection : String) : Except ConfigError DatabaseTarget :=
  let trimmed := Text.trim connection
  let scheme := "sqlite://"
  if trimmed == "sqlite::memory:" then .ok .memory
  else if scheme.toList.isPrefixOf trimmed.toList && scheme.length < trimmed.length then
    .ok (.file (String.ofList (trimmed.toList.drop scheme.length)))
  else .error (.unsupportedDatabase connection)

/-- Demands that a condition holds. -/
def demand (condition : Bool) (fault : SettingsFault) : Except ConfigError Unit :=
  if condition then .ok () else .error (.validation fault)

/-- The nearest thing above a path that exists. -/
def Disk.nearestAncestor? (d : Disk) (path : String) : Option String :=
  (Path.ancestors path).find? fun p => p != "" && d.hasNode p

/-- Checks that a path leads to a writable file, or to a place below a directory where nothing is yet. -/
def Disk.checkJournalPath (d : Disk) (path : String) : Except ConfigError Unit :=
  match d.node path with
  | .ok (.file _) => demand (!d.isReadOnly path) (.readOnly path)
  | .ok _ => .error (.validation (.notRegular path))
  | .error _ =>
    match d.nearestAncestor? path with
    | some parent => demand (d.isDirectory parent) (.parentNotDirectory path parent)
    | none => .ok ()

/-- Checks the settings of a database that is used. -/
def DatabaseSettings.validate (s : DatabaseSettings) : Except ConfigError Unit := do
  let _ ← DatabaseTarget.parse s.connection
  demand (s.batchSize != 0) .noBatchSize
  demand (s.maxRounds != 0) .noRounds

/-- Checks the settings of a journal against what is on the disk. Blanks around the path do not count here. -/
def JournalSettings.validate (s : JournalSettings) (d : Disk) : Except ConfigError Unit := do
  let path := Text.trim s.file.path
  demand (path != "") .emptyPath
  d.checkJournalPath path
  if s.database.enabled then s.database.validate
  demand (s.retry.initialBackoffMs ≤ s.retry.maxBackoffMs) .backoffOrder
  demand (s.retry.finalAttempts != 0) .noFinalAttempts

/-- Checks all settings. -/
def Config.validate (c : Config) (d : Disk) : Except ConfigError Unit := do
  c.journalSettings.validate d
  demand (Text.trim c.recovery.account != "") .emptyAccount
  demand (c.recovery.source != .database || c.database.enabled) .recoveryWithoutDatabase
  demand (c.desk.drainIterations != 0) .noDrainIterations

end Blotter
