import Blotter.Decimal.Text
import Blotter.Disk
import Blotter.Event

/-!
# Errors of sinks

Why a sink cannot write records or give them back.
-/

namespace Blotter

/-- What is wrong with a stored text. -/
inductive ContentFault where
  /-- The text is not one of the kind that belongs there. -/
  | unreadable
  /-- The quantity of a stored position is no decimal. -/
  | quantity (text : String) (cause : DecimalError)
  /-- The average price of a stored position is no decimal. -/
  | avgPrice (text : String) (cause : DecimalError)
deriving DecidableEq, Repr

/-- The words that say what is wrong with a stored text. -/
def ContentFault.message : ContentFault → String
  | .unreadable => "*"
  | .quantity text cause => s!"quantity '{text}': {cause.message}"
  | .avgPrice text cause => s!"avg_price '{text}': {cause.message}"

/-- Why a database cannot be used. -/
inductive DatabaseFault where
  | cannotOpen (path : String)
  | notADatabase
deriving DecidableEq, Repr

/-- The words that say why a database cannot be used. -/
def DatabaseFault.message : DatabaseFault → String
  | .cannotOpen path => s!"unable to open database file: {path}"
  | .notADatabase => "file is not a database"

/-- Why a sink fails. -/
inductive SinkError where
  | io (cause : IoError)
  /-- The content of a record, or what is stored for it, cannot be read or written. -/
  | serialization (seq : Nat) (kind : EventKind) (fault : ContentFault)
  | database (fault : DatabaseFault)
  | unavailable (reason : String)
deriving DecidableEq, Repr

/-- The sentence that says why a sink fails. -/
def SinkError.message : SinkError → String
  | .io cause => s!"I/O error: {cause.message}"
  | .serialization seq kind fault => s!"Serialization error for {kind.name} record {seq}: {fault.message}"
  | .database fault => s!"Database error: {fault.message}"
  | .unavailable reason => s!"Sink unavailable: {reason}"

/-- A name of the error for programs. -/
def SinkError.code : SinkError → String
  | .io _ => "Sink.Io"
  | .serialization _ _ _ => "Sink.Serialization"
  | .database _ => "Sink.Database"
  | .unavailable _ => "Sink.Unavailable"

end Blotter
