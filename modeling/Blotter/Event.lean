import Blotter.Audit
import Blotter.Command
import Blotter.Fill
import Blotter.Reject
import Blotter.Session

/-!
# Events and records

An event is what the journal keeps, of one of nine kinds. A record is an event with its sequence number, the time at
which it was recorded, and the mark that says whether observers are told about it.
-/

namespace Blotter

/-- The kinds of events. -/
inductive EventKind where
  | command
  | order
  | orderReject
  | fill
  | sessionState
  | sessionMessage
  | fillCopy
  | pnlSnapshot
  | messagingStats
deriving DecidableEq, Repr

namespace EventKind

/-- All kinds. -/
def all : List EventKind :=
  [.command, .order, .orderReject, .fill, .sessionState, .sessionMessage, .fillCopy, .pnlSnapshot, .messagingStats]

/-- The name of a kind. -/
def name : EventKind → String
  | .command => "command"
  | .order => "order"
  | .orderReject => "order_reject"
  | .fill => "fill"
  | .sessionState => "fix_session_state"
  | .sessionMessage => "fix_session_msg"
  | .fillCopy => "fill_drop_copy"
  | .pnlSnapshot => "pnl_audit_trail_info"
  | .messagingStats => "messaging_stats"

/-- The kind with the given name. -/
def ofName? (s : String) : Option EventKind := all.find? (·.name == s)

/-- Whether the database stores events of the kind: all but raw session messages. -/
def isStored : EventKind → Bool
  | .sessionMessage => false
  | _ => true

end EventKind

/-- Something that happened and has to be kept. -/
inductive Event where
  | command (c : Command)
  | order (o : Order)
  | orderReject (o : Order) (r : Reject)
  | fill (f : Fill)
  | sessionState (s : SessionState)
  | sessionMessage (m : SessionMessage)
  | fillCopy (c : FillCopy)
  | pnlSnapshot (p : PnlSnapshot)
  | messagingStats (s : MessagingStats)
deriving DecidableEq

/-- The kind of an event. -/
def Event.kind : Event → EventKind
  | .command _ => .command
  | .order _ => .order
  | .orderReject _ _ => .orderReject
  | .fill _ => .fill
  | .sessionState _ => .sessionState
  | .sessionMessage _ => .sessionMessage
  | .fillCopy _ => .fillCopy
  | .pnlSnapshot _ => .pnlSnapshot
  | .messagingStats _ => .messagingStats

/-- An event in the journal. -/
structure Record where
  seq : Nat
  recordedAt : Instant
  /-- Whether observers are told about the event. -/
  toBus : Bool
  event : Event
deriving DecidableEq

/-- The kind of a record's event. -/
def Record.kind (r : Record) : EventKind := r.event.kind

/-- The source of sequence numbers, which have 64 bits. -/
structure Sequence where
  /-- The number issued last, zero if there is none. -/
  last : Nat
deriving DecidableEq, Repr

namespace Sequence

/-- How many sequence numbers there are. -/
def modulus : Nat := 18446744073709551616

/-- The source whose first number follows `last`. -/
def startingAfter (last : Nat) : Sequence := ⟨last⟩

/-- The next number. -/
def next (s : Sequence) : Nat := (s.last + 1) % modulus

/-- The source after the next number was issued. -/
def advance (s : Sequence) : Sequence := ⟨s.next⟩

/-- The source whose next number is larger than `seq`. -/
def advancePast (s : Sequence) (seq : Nat) : Sequence := ⟨Nat.max s.last seq⟩

end Sequence

end Blotter
