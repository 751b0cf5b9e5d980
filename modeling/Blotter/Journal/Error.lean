import Blotter.Settings.Validation
import Blotter.Sink.Error

/-!
# Life cycle and errors of a journal

A journal is initialized, started and stopped, in this order; some of these may be left out but none is done twice.
-/

namespace Blotter

/-- Where a journal stands in its life. -/
inductive JournalState where
  | uninitialized
  | initialized
  | started
  | stopping
  | stopped
deriving DecidableEq, Repr

namespace JournalState

/-- All states in the order of a journal's life. -/
def all : List JournalState := [.uninitialized, .initialized, .started, .stopping, .stopped]

/-- The name of a state. -/
def name : JournalState → String
  | .uninitialized => "Uninitialized"
  | .initialized => "Initialized"
  | .started => "Started"
  | .stopping => "Stopping"
  | .stopped => "Stopped"

/-- The state with the given name. -/
def ofName? (s : String) : Option JournalState := all.find? (·.name == s)

/-- Whether records are accepted. -/
def isOpen : JournalState → Bool
  | .initialized | .started => true
  | .uninitialized | .stopping | .stopped => false

end JournalState

/-- Why a journal refuses a call. -/
inductive JournalError where
  | config (cause : ConfigError)
  | notInitialized
  | invalidState (expected found : JournalState)
  | stopped
  /-- All items of a pool that may not grow are in use. -/
  | poolExhausted (capacity : Nat)
  | sink (cause : SinkError)
  | recovery (reason : String)
deriving DecidableEq, Repr

namespace JournalError

/-- The sentence that says why a journal refuses a call. -/
def message : JournalError → String
  | .config cause => s!"Configuration error: {cause.message}"
  | .notInitialized => "Journal is not initialized"
  | .invalidState expected found => s!"Invalid journal state: expected {expected.name}, found {found.name}"
  | .stopped => "Journal is stopped"
  | .poolExhausted capacity => s!"Item pool exhausted ({capacity} items in flight, growth disabled)"
  | .sink cause => s!"Sink error: {cause.message}"
  | .recovery reason => s!"Recovery error: {reason}"

/-- A name of the error for programs. -/
def code : JournalError → String
  | .config cause => cause.code
  | .notInitialized => "NotInitialized"
  | .invalidState _ _ => "InvalidState"
  | .stopped => "Stopped"
  | .poolExhausted _ => "PoolExhausted"
  | .sink cause => cause.code
  | .recovery _ => "Recovery"

/-- Whether the caller used the journal in the wrong state. -/
def isMisuse : JournalError → Bool
  | .notInitialized | .invalidState _ _ | .stopped => true
  | .config _ | .poolExhausted _ | .sink _ | .recovery _ => false

end JournalError

end Blotter
