/-!
# Metrics

Counters of what a journal and a trading desk have done. A counter that was never raised is absent.
-/

namespace Blotter

/-- The two sinks of a journal. -/
inductive SinkName where
  | file
  | database
deriving DecidableEq, Repr

/-- The label of a sink. -/
def SinkName.label : SinkName → String
  | .file => "file"
  | .database => "db"

/-- Why an order is not admitted. -/
inductive AdmissionRefusal where
  | fileBackpressure
  | databaseBackpressure
  | stageVeto
deriving DecidableEq, Repr

/-- The label of a refusal. -/
def AdmissionRefusal.label : AdmissionRefusal → String
  | .fileBackpressure => "file_backpressure"
  | .databaseBackpressure => "db_backpressure"
  | .stageVeto => "stage_veto"

/-- What is counted. -/
inductive Counter where
  | enqueued (sink : SinkName)
  | written (sink : SinkName)
  | failures (sink : SinkName)
  | alerts (sink : SinkName)
  | refused (reason : AdmissionRefusal)
  /-- Orders whose way to the exchange was timed. -/
  | sendLatency
deriving DecidableEq, Repr

/-- The name of a counter with its label. -/
def Counter.name : Counter → String
  | .enqueued sink => "order_journal_enqueued_total\x7bsink=" ++ sink.label ++ "\x7d"
  | .written sink => "order_journal_records_written_total\x7bsink=" ++ sink.label ++ "\x7d"
  | .failures sink => "order_journal_sink_failures_total\x7bsink=" ++ sink.label ++ "\x7d"
  | .alerts sink => "order_journal_sink_alerts_total\x7bsink=" ++ sink.label ++ "\x7d"
  | .refused reason => "order_journal_admission_refused_total\x7breason=" ++ reason.label ++ "\x7d"
  | .sendLatency => "order_journal_send_latency_seconds"

/-- Counters with their values, each counter once. -/
structure Metrics where
  entries : List (Counter × Nat)
deriving DecidableEq, Repr

namespace Metrics

/-- No counter was raised. -/
def empty : Metrics := ⟨[]⟩

/-- The value of a counter. -/
def count (m : Metrics) (c : Counter) : Nat := (m.entries.lookup c).getD 0

/-- Raises a counter in a list of counters. -/
def addTo (c : Counter) (n : Nat) : List (Counter × Nat) → List (Counter × Nat)
  | [] => [(c, n)]
  | (c', m) :: rest => if c' == c then (c', m + n) :: rest else (c', m) :: addTo c n rest

/-- Raises a counter. -/
def add (m : Metrics) (c : Counter) (n : Nat) : Metrics := ⟨addTo c n m.entries⟩

/-- The counters of both sides. -/
def merge (m n : Metrics) : Metrics := n.entries.foldl (fun m (c, k) => m.add c k) m

end Metrics

end Blotter
