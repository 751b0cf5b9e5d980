import Mathlib
import Blotter.Proofs.Journal.Lifecycle

/-!
# Workers at their stations

What holds of the stations of a journal in every course, also where workers fail and the file is rotated.

- In every state of the journal the gates of a station are as they should be (`Station.Gated`), and its items are those
  that were pushed and not yet taken off.
- That holds from the beginning (`Course.manned_begin`), and every move keeps it (`Course.Manned.step`). So does a
  course, with the items that were taken off the queue of the file by then (`Course.Manned.follow`).
-/

namespace Blotter

namespace Station

variable {ω ι : Type}

/-- Whether the gates of a station are as they should be in a state of its journal. -/
def Gated (state : JournalState) (s : Station ι) : Prop :=
  match state with
  | .uninitialized => False
  | .initialized => s.phase = .asleep ∧ s.queue.closed = false
  | .started => s.phase ≠ .asleep ∧ s.queue.closed = false
  | .stopping => s.phase ≠ .asleep ∧ s.queue.closed = true
  | .stopped => s.isDone = true ∧ s.queue.closed = true

/-- What holds of a station in a state of its journal, with the items that were pushed and those that were taken off. -/
structure Manned (state : JournalState) (s : Station ι) (pushed done : List ι) : Prop where
  keeps : s.Keeps pushed done
  gated : s.Gated state

variable {state : JournalState} {s : Station ι} {pushed done : List ι}

theorem manned_new (maxDepth : Nat) : (new maxDepth : Station ι).Manned .initialized [] [] :=
  ⟨keeps_new maxDepth, rfl, rfl⟩

theorem Manned.push (h : s.Manned state pushed done) (x : ι) :
    ({ s with queue := s.queue.push x } : Station ι).Manned state (pushed ++ [x]) done :=
  ⟨h.keeps.push x, h.gated⟩

theorem Manned.start (h : s.Manned .initialized pushed done) : s.start.Manned .started pushed done :=
  ⟨h.keeps.start, fun asleep => (nomatch asleep), h.gated.2⟩

theorem Manned.close (h : s.Manned .started pushed done) : s.close.Manned .stopping pushed done :=
  ⟨h.keeps.close, h.gated.1, rfl⟩

theorem Manned.closed (h : s.Manned state pushed done) (closing : state = .stopping ∨ state = .stopped) :
    s.queue.closed = true := by
  rcases closing with rfl | rfl
  · exact h.gated.2
  · exact h.gated.2

theorem Manned.endStop (h : s.Manned .stopping pushed done) (isDone : s.isDone = true) :
    s.Manned .stopped pushed done :=
  ⟨h.keeps, isDone, h.gated.2⟩

theorem Manned.step (h : s.Manned state pushed done) {sink : Sink ω ι} {retry : RetrySettings} {w : ω}
    (patient : retry.finalAttempts ≠ 0) :
    (s.step sink retry w).1.Manned state pushed (s.doneAfter done) := by
  refine ⟨h.keeps.step patient, ?_⟩
  obtain ⟨closed, asleep, -⟩ := s.step_gates sink retry w
  have gated := h.gated
  cases state with
  | uninitialized => exact gated
  | initialized => exact ⟨asleep.mpr gated.1, closed.trans gated.2⟩
  | started => exact ⟨fun sleeps => gated.1 (asleep.mp sleeps), closed.trans gated.2⟩
  | stopping => exact ⟨fun sleeps => gated.1 (asleep.mp sleeps), closed.trans gated.2⟩
  | stopped =>
    rw [step_of_isDone gated.1]
    exact gated

end Station

/-! ## Runtimes -/

/-- What holds of a runtime in a state of its journal, with the records that were persisted and the items that were
taken off the queue of the file. -/
structure Runtime.Manned (state : JournalState) (r : Runtime) (issued : List Record) (done : List Handle) : Prop where
  patient : r.retry.finalAttempts ≠ 0
  file : ∃ pushed, pushed.map Handle.record = issued ∧ r.station.Manned state pushed done
  database : ∀ line, r.database = some line → ∃ pushed done, line.station.Manned state pushed done

namespace Runtime

variable {state : JournalState} {r : Runtime} {issued : List Record} {done : List Handle} {w : World}

theorem Manned.begun (h : r.Manned state issued done) : state ≠ .uninitialized := by
  rintro rfl
  obtain ⟨_, _, manned⟩ := h.file
  exact manned.gated

/-- The database side moves on. -/
theorem Manned.database_map (h : r.Manned state issued done) {next : JournalState}
    (change : DatabaseLine → DatabaseLine)
    (changed : ∀ line pushed done, line.station.Manned state pushed done →
      ∃ pushed done, (change line).station.Manned next pushed done) :
    ∀ line, r.database.map change = some line → ∃ pushed done, line.station.Manned next pushed done := by
  intro line hline
  obtain ⟨line, hline', rfl⟩ := Option.map_eq_some_iff.mp hline
  obtain ⟨pushed, done, manned⟩ := h.database line hline'
  exact changed line pushed done manned

theorem Manned.start (h : r.Manned .initialized issued done) :
    (Journal.startWorkers r).Manned .started issued done where
  patient := h.patient
  file := by
    obtain ⟨pushed, records, manned⟩ := h.file
    exact ⟨pushed, records, manned.start⟩
  database := h.database_map _ fun _ pushed done manned => ⟨pushed, done, manned.start⟩

theorem Manned.close (h : r.Manned .started issued done) : (Journal.closeQueues r).Manned .stopping issued done where
  patient := h.patient
  file := by
    obtain ⟨pushed, records, manned⟩ := h.file
    exact ⟨pushed, records, manned.close⟩
  database := h.database_map _ fun _ pushed done manned => ⟨pushed, done, manned.close⟩

theorem Manned.endStop (h : r.Manned .stopping issued done) (isDone : r.workersAreDone = true) :
    r.Manned .stopped issued done where
  patient := h.patient
  file := by
    obtain ⟨pushed, records, manned⟩ := h.file
    exact ⟨pushed, records, manned.endStop (isDone_of_workersAreDone isDone).1⟩
  database line hline := by
    obtain ⟨pushed, done, manned⟩ := h.database line hline
    exact ⟨pushed, done, manned.endStop ((isDone_of_workersAreDone isDone).2 line hline)⟩

/-- Another record comes to the stations. -/
theorem Manned.persist (h : r.Manned state issued done) {event : Event} {toBus : Bool} {r' : Runtime} {w' : World}
    {seq : Nat} (persisted : Journal.Runtime.persist r event toBus w = (.ok seq, r', w')) :
    r'.Manned state (issued ++ [⟨seq, w.now, toBus, event⟩]) done := by
  obtain ⟨-, x, record, station, -, -, retry, database, -⟩ := Journal.Runtime.of_persist persisted
  refine ⟨retry ▸ h.patient, ?_, ?_⟩
  · obtain ⟨before, records, manned⟩ := h.file
    rw [station]
    exact ⟨before ++ [x], by rw [List.map_append, records, List.map_singleton, record], manned.push x⟩
  · intro line hline
    rw [database] at hline
    split at hline
    · exact h.database_map (DatabaseLine.push · x)
        (fun _ pushed done manned => ⟨pushed ++ [x], done, manned.push x⟩) line hline
    · exact h.database line hline

/-- The worker of the journal file makes a step. -/
theorem Manned.stepFileOn (h : r.Manned state issued done) (m : Disk.Medium) (observers : List String) :
    (r.stepFileOn m observers w).1.Manned state issued (r.station.doneAfter done) where
  patient := h.patient
  file := by
    obtain ⟨pushed, records, manned⟩ := h.file
    exact ⟨pushed, records, manned.step h.patient⟩
  database := h.database

/-- The worker of the database makes a step. -/
theorem Manned.stepDatabaseWith (h : r.Manned state issued done) (fate : DatabaseFate) :
    (r.stepDatabaseWith fate w).1.Manned state issued done := by
  cases database : r.database with
  | none =>
    rw [Runtime.stepDatabaseWith, database]
    exact h
  | some line =>
    obtain ⟨pushed, done', manned⟩ := h.database line database
    obtain ⟨x, pool, w', hx, stepped, -, -⟩ := stepDatabaseWith_eq database fate w
    rw [stepped]
    refine ⟨h.patient, h.file, fun line' hline' => ?_⟩
    obtain rfl := Option.some.inj hline'
    rw [← hx]
    exact ⟨pushed, line.station.doneAfter done', manned.step h.patient⟩

end Runtime

/-- The stations of a journal that was just initialized. -/
theorem Journal.manned_openRuntime {s : JournalSettings} {custom : Bool} {w w' : World} {r : Runtime}
    (opened : openRuntime s custom w = (.ok r, w')) : r.Manned .initialized [] [] := by
  obtain ⟨d₁, d₂, f, rs, sink, last, valid, -, -, -, -, -, rfl⟩ := openRuntime_eq_ok_iff.mp opened
  refine ⟨JournalSettings.finalAttempts_of_validate valid, ⟨[], rfl, Station.manned_new _⟩, fun line hline => ?_⟩
  obtain ⟨sink, -, rfl⟩ := Option.map_eq_some_iff.mp hline
  exact ⟨[], [], Station.manned_new _⟩

/-! ## Courses -/

namespace Journal

/-- Whether a move is a step of the worker of the journal file. -/
def Move.isFileStep : Move → Bool
  | .stepFile _ => true
  | _ => false

/-- Whether a move is a step of the worker of the database. -/
def Move.isDatabaseStep : Move → Bool
  | .stepDatabase _ => true
  | _ => false

namespace Course

/-- What holds of a course from the beginning, with the items that were taken off the queue of the file. -/
def Manned (c : Course) (done : List Handle) : Prop :=
  match c.journal.runtime with
  | none => (c.journal.state = .uninitialized ∨ c.journal.state = .stopped) ∧ c.persisted = [] ∧ done = []
  | some r => r.Manned c.journal.state c.persisted done

/-- The items that were taken off the queue of the file after a move. -/
def doneAfter (c : Course) (done : List Handle) : Move → List Handle
  | .stepFile _ => (c.journal.runtime.map fun r => r.station.doneAfter done).getD done
  | _ => done

variable {c : Course} {done : List Handle}

theorem manned_begin (w : World) : (begin w).Manned [] := ⟨.inl rfl, rfl, rfl⟩

/-- A call keeps what holds of a course. -/
theorem Manned.call (h : c.Manned done) (k : Call) : (c.step (.call k)).Manned done := by
  obtain ⟨⟨state, observers, runtime⟩, w, issued, failed⟩ := c
  have effect := call_effect ⟨state, observers, runtime⟩ w k
  simp only [Course.step]
  generalize Journal.call ⟨state, observers, runtime⟩ w k = outcome at effect ⊢
  cases effect with
  | nothing k e =>
    rw [Call.records_error, List.append_nil]
    exact h
  | initialized s custom r w' fresh opened =>
    obtain rfl : state = .uninitialized := fresh
    cases runtime with
    | none =>
      obtain ⟨-, rfl, rfl⟩ := h
      exact manned_openRuntime opened
    | some r₀ => exact absurd rfl (Runtime.Manned.begun h)
  | notInitialized s custom e w' =>
    rw [Call.records_error, List.append_nil]
    exact h
  | started ready =>
    obtain rfl : state = .initialized := ready
    simp only [Call.records, List.append_nil]
    cases runtime with
    | none => exact absurd h.1 (by simp)
    | some r => exact Runtime.Manned.start h
  | stopped =>
    simp only [Call.records, List.append_nil]
    cases runtime with
    | none =>
      obtain ⟨rest, rfl, rfl⟩ := h
      rcases rest with rfl | rfl
      · exact ⟨.inr rfl, rfl, rfl⟩
      · exact ⟨.inr rfl, rfl, rfl⟩
    | some r =>
      cases state with
      | uninitialized => exact absurd rfl (Runtime.Manned.begun h)
      | initialized => exact (Runtime.Manned.start h).close
      | started => exact Runtime.Manned.close h
      | _ => exact h
  | persisted event toBus r r' w' hr isOpen taken =>
    obtain rfl : runtime = some r := hr
    exact Runtime.Manned.persist h taken
  | observed observer =>
    simp only [Call.records, List.append_nil]
    exact h
  | rotated backup r f d hr =>
    obtain rfl : runtime = some r := hr
    simp only [Call.records, List.append_nil]
    exact ⟨h.patient, h.file, h.database⟩
  | notRotated backup r f d e hr =>
    obtain rfl : runtime = some r := hr
    simp only [Call.records, List.append_nil]
    exact ⟨h.patient, h.file, h.database⟩

/-- A move keeps what holds of a course. -/
theorem Manned.step (h : c.Manned done) (move : Move) : (c.step move).Manned (c.doneAfter done move) := by
  cases move with
  | clock now => exact h
  | call k => exact h.call k
  | endStop =>
    obtain ⟨⟨state, observers, runtime⟩, w, issued, failed⟩ := c
    simp only [Course.step]
    split
    · rename_i isDone
      cases runtime with
      | none =>
        obtain ⟨rest, rfl, rfl⟩ := h
        rcases rest with rfl | rfl
        · exact ⟨.inl rfl, rfl, rfl⟩
        · exact ⟨.inr rfl, rfl, rfl⟩
      | some r =>
        cases state with
        | stopping => exact Runtime.Manned.endStop h isDone
        | _ => exact h
    · exact h
  | stepFile m =>
    obtain ⟨⟨state, observers, runtime⟩, w, issued, failed⟩ := c
    cases runtime with
    | none => exact h
    | some r => exact Runtime.Manned.stepFileOn h m observers
  | stepDatabase fate =>
    obtain ⟨⟨state, observers, runtime⟩, w, issued, failed⟩ := c
    cases runtime with
    | none => exact h
    | some r => exact Runtime.Manned.stepDatabaseWith h fate

/-- So do moves. -/
theorem Manned.follow (h : c.Manned done) (moves : List Move) : ∃ done', (c.follow moves).Manned done' := by
  induction moves generalizing c done with
  | nil => exact ⟨done, h⟩
  | cons move rest ih => exact ih (h.step move)

end Course

end Journal

end Blotter
