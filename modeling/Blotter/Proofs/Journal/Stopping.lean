import Mathlib
import Blotter.Proofs.Journal.Staffing
import Blotter.Proofs.Journal.Termination

/-!
# Stopping

Whatever waits when a queue is closed and however the sinks fail from then on, its worker ends, and so does the stop of
a journal.

- Every step of a worker takes one off the steps that are left, until it is done (`Shift.stepsLeft_work`).
- After the first half of a stop a step of either worker does so for this worker, and no other move gives any worker
  more to do (`Course.IsClosing.left_follow`). So the stop can be brought to its end whenever the workers have made so
  many steps (`Course.IsClosing.ends`).
- A stop is a course in which the workers are run (`stop_eq_follow`), long enough for both of them to end
  (`workersAreDone_stop`). So it stops the journal, and another one changes nothing (`every_stop_ends`).
-/

namespace Blotter

/-! ## A worker -/

namespace Shift

variable {ω : Type} {name : SinkName} {observers : List String} {retry : RetrySettings}
variable {c : Shift ω} {pushed done : List Handle} {closed : Bool}

/-- A station whose worker was started, and whose queue may be closed. -/
def Staffed (closed : Bool) (c : Shift ω) : Prop :=
  ∃ pushed done, c.station.Manned (if closed then .stopping else .started) pushed done

theorem staffed_begin (maxDepth : Nat) (state : ω) (now : Instant) : (begin maxDepth state now).Staffed false :=
  ⟨[], [], (Station.manned_new maxDepth).start⟩

theorem Staffed.step (h : c.Staffed closed) (patient : retry.finalAttempts ≠ 0) (move : Move ω) :
    (c.step name observers retry move).Staffed (closed || move.closes) := by
  obtain ⟨pushed, done, manned⟩ := h
  cases move with
  | push x => exact ⟨_, _, (Bool.or_false closed).symm ▸ manned.push x⟩
  | close =>
    rw [show (Move.close : Move ω).closes = true from rfl, Bool.or_true]
    cases closed with
    | false => exact ⟨_, _, manned.close⟩
    | true => exact ⟨_, _, manned.keeps.close, manned.gated.1, rfl⟩
  | work sink => exact ⟨_, _, (Bool.or_false closed).symm ▸ manned.step patient⟩

theorem Staffed.run (h : c.Staffed closed) (patient : retry.finalAttempts ≠ 0) (moves : List (Move ω)) :
    (c.run name observers retry moves).Staffed (closed || moves.any Move.closes) := by
  induction moves generalizing c closed with
  | nil => exact (Bool.or_false closed).symm ▸ h
  | cons move rest ih =>
    rw [List.any_cons, ← Bool.or_assoc]
    exact ih (h.step patient move)

/-- Steps of the worker of a closed queue take as many off those that are left. -/
theorem stepsLeft_work (h : c.Staffed true) (patient : retry.finalAttempts ≠ 0) {sinks : List (Sink ω Handle)}
    (flushes : ∀ sink ∈ sinks, sink.Flushes) :
    (c.run name observers retry (sinks.map .work)).station.stepsLeft retry ≤
      c.station.stepsLeft retry - sinks.length := by
  induction sinks generalizing c with
  | nil => exact Nat.le_refl _
  | cons sink rest ih =>
    have next : (c.step name observers retry (.work sink)).Staffed true := h.step patient (.work sink)
    obtain ⟨pushed, done, manned⟩ := h
    have first : (c.station.step sink retry c.state).1.stepsLeft retry ≤ c.station.stepsLeft retry - 1 :=
      manned.keeps.stepsLeft_le manned.gated.2 (flushes sink List.mem_cons_self)
    have later := ih next fun sink among => flushes sink (List.mem_cons_of_mem _ among)
    rw [List.length_cons]
    refine later.trans ?_
    simp only [Shift.step]
    omega

/-- So the worker ends after these steps, or it has broken down. -/
theorem ends_of_work (h : c.Staffed true) (patient : retry.finalAttempts ≠ 0) {sinks : List (Sink ω Handle)}
    (flushes : ∀ sink ∈ sinks, sink.Flushes) (enough : c.station.stepsLeft retry ≤ sinks.length) :
    let s := (c.run name observers retry (sinks.map .work)).station
    s.phase = .ended ∨ ∃ cause, s.phase = .broken cause := by
  intro s
  have left : s.stepsLeft retry ≤ c.station.stepsLeft retry - sinks.length := stepsLeft_work h patient flushes
  rw [Nat.sub_eq_zero_of_le enough, Nat.le_zero] at left
  obtain ⟨pushed, done, manned⟩ : (c.run name observers retry (sinks.map .work)).Staffed _ := h.run patient _
  exact Station.phase_of_isDone (Station.isDone_of_stepsLeft left) manned.gated.1

end Shift

/-! ## A journal -/

namespace Journal

/-- How many final attempts a batch gets. -/
def attempts (j : Journal) : Nat := (j.runtime.map (·.retry.finalAttempts)).getD 0

/-- How many steps the worker of the journal file still makes at most. -/
def fileLeft (j : Journal) : Nat := (j.runtime.map fun r => r.station.stepsLeft r.retry).getD 0

/-- How many steps the worker of the database still makes at most. -/
def databaseLeft (j : Journal) : Nat :=
  (j.runtime.bind fun r => r.database.map fun line => line.station.stepsLeft r.retry).getD 0

theorem fileLeft_le_patience (j : Journal) : j.fileLeft ≤ j.filePatience j.attempts := by
  obtain ⟨state, observers, runtime⟩ := j
  cases runtime with
  | none => exact Nat.le_refl _
  | some r => exact r.station.stepsLeft_le_patience r.retry

theorem databaseLeft_le_patience (j : Journal) : j.databaseLeft ≤ j.databasePatience j.attempts := by
  obtain ⟨state, observers, runtime⟩ := j
  cases runtime with
  | none => exact Nat.le_refl _
  | some r =>
    cases database : r.database with
    | none => simp [databaseLeft, database]
    | some line =>
      simp only [databaseLeft, databasePatience, attempts, database, Option.bind_some, Option.map_some,
        Option.getD_some]
      exact line.station.stepsLeft_le_patience r.retry

/-- Whether the worker of the file is done. -/
def fileIsDone (j : Journal) : Bool := j.runtime.all fun r => r.station.isDone

/-- Whether the worker of the database is done, if there is one. -/
def databaseIsDone (j : Journal) : Bool := j.runtime.all fun r => r.database.all fun line => line.station.isDone

theorem workersAreDone_eq (j : Journal) : j.workersAreDone = (j.fileIsDone && j.databaseIsDone) := by
  obtain ⟨state, observers, runtime⟩ := j
  cases runtime <;> rfl

theorem fileLeft_eq_zero_iff (j : Journal) : j.fileLeft = 0 ↔ j.fileIsDone = true := by
  obtain ⟨state, observers, runtime⟩ := j
  cases runtime with
  | none => exact iff_of_true rfl rfl
  | some r => exact Station.stepsLeft_eq_zero_iff

theorem databaseLeft_eq_zero_iff (j : Journal) : j.databaseLeft = 0 ↔ j.databaseIsDone = true := by
  obtain ⟨state, observers, runtime⟩ := j
  cases runtime with
  | none => exact iff_of_true rfl rfl
  | some r =>
    simp only [databaseLeft, databaseIsDone, Option.bind_some, Option.all_some]
    cases r.database with
    | none => exact iff_of_true rfl rfl
    | some line => exact Station.stepsLeft_eq_zero_iff

/-- Workers that have no steps left are done. -/
theorem workersAreDone_of_left {j : Journal} (file : j.fileLeft = 0) (database : j.databaseLeft = 0) :
    j.workersAreDone = true := by
  rw [workersAreDone_eq, j.fileLeft_eq_zero_iff.mp file, j.databaseLeft_eq_zero_iff.mp database, Bool.and_true]

namespace Course

variable {c : Course} {done : List Handle}

/-- Whether the first half of a stop was called. -/
def IsClosing (c : Course) : Prop := JournalState.stopping.rank ≤ c.journal.state.rank

theorem IsClosing.step (h : c.IsClosing) (move : Move) : (c.step move).IsClosing := h.trans (c.rank_step move)

theorem IsClosing.follow (h : c.IsClosing) (moves : List Move) : (c.follow moves).IsClosing := by
  induction moves generalizing c with
  | nil => exact h
  | cons move rest ih => exact ih (h.step move)

theorem IsClosing.cases (h : c.IsClosing) : c.journal.state = .stopping ∨ c.journal.state = .stopped := by
  rw [IsClosing] at h
  revert h
  cases c.journal.state <;> simp [JournalState.rank]

/-- A call to stop is the beginning of the end. -/
theorem isClosing_stop (c : Course) : (c.step (.call .stop)).IsClosing := by
  obtain ⟨⟨state, observers, runtime⟩, w, persisted, failed⟩ := c
  cases state <;> simp [IsClosing, Course.step, Journal.call, beginStop, JournalState.rank]

/-- Another call to stop changes nothing. -/
theorem IsClosing.stop (h : c.IsClosing) : c.step (.call .stop) = c := by
  obtain ⟨⟨state, observers, runtime⟩, w, persisted, failed⟩ := c
  rcases h.cases with rfl | rfl
  · simp [Course.step, Journal.call, beginStop, Call.records]
  · simp [Course.step, Journal.call, beginStop, Call.records]

/-- A call gives no worker more to do when the journal is closing. -/
theorem IsClosing.left_call (h : c.IsClosing) (k : Call) :
    (c.step (.call k)).journal.fileLeft = c.journal.fileLeft ∧
      (c.step (.call k)).journal.databaseLeft = c.journal.databaseLeft := by
  have closing := h.cases
  obtain ⟨⟨state, observers, runtime⟩, w, persisted, failed⟩ := c
  have effect := call_effect ⟨state, observers, runtime⟩ w k
  simp only [Course.step]
  generalize Journal.call ⟨state, observers, runtime⟩ w k = outcome at effect ⊢
  cases effect with
  | initialized s custom r w' fresh => exact absurd closing (by simp [show state = .uninitialized from fresh])
  | started ready => exact absurd closing (by simp [show state = .initialized from ready])
  | stopped =>
    rcases closing with rfl | rfl
    · exact ⟨rfl, rfl⟩
    · exact ⟨rfl, rfl⟩
  | persisted event toBus r r' w' hr isOpen =>
    rcases closing with rfl | rfl
    · exact absurd isOpen (by simp [JournalState.isOpen])
    · exact absurd isOpen (by simp [JournalState.isOpen])
  | rotated backup r f d hr =>
    obtain rfl : runtime = some r := hr
    exact ⟨rfl, rfl⟩
  | notRotated backup r f d e hr =>
    obtain rfl : runtime = some r := hr
    exact ⟨rfl, rfl⟩
  | _ => exact ⟨rfl, rfl⟩

/-- A move gives no worker more to do when the journal is closing, and a step of a worker is one less. -/
theorem IsClosing.left_step (h : c.IsClosing) (manned : c.Manned done) (move : Move) :
    (c.step move).journal.fileLeft ≤ c.journal.fileLeft - move.isFileStep.toNat ∧
      (c.step move).journal.databaseLeft ≤ c.journal.databaseLeft - move.isDatabaseStep.toNat := by
  cases move with
  | clock now => exact ⟨Nat.le_refl _, Nat.le_refl _⟩
  | call k => exact ⟨(h.left_call k).1.le, (h.left_call k).2.le⟩
  | endStop =>
    simp only [Course.step]
    split
    · simp only [fileLeft, databaseLeft, c.journal.runtime_endStop.1]
      exact ⟨Nat.le_refl _, Nat.le_refl _⟩
    · exact ⟨Nat.le_refl _, Nat.le_refl _⟩
  | stepFile m =>
    have closing := h.cases
    obtain ⟨⟨state, observers, runtime⟩, w, persisted, failed⟩ := c
    cases runtime with
    | none => exact ⟨Nat.zero_le _, Nat.zero_le _⟩
    | some r =>
      obtain ⟨pushed, -, station⟩ := Runtime.Manned.file manned
      exact ⟨station.keeps.stepsLeft_le (station.closed closing) (JournalFile.flushes_sinkOn m), Nat.le_refl _⟩
  | stepDatabase fate =>
    have closing := h.cases
    obtain ⟨⟨state, observers, runtime⟩, w, persisted, failed⟩ := c
    cases runtime with
    | none => exact ⟨Nat.zero_le _, Nat.zero_le _⟩
    | some r =>
      cases database : r.database with
      | none =>
        simp [Course.step, Journal.stepDatabaseWith, Runtime.stepDatabaseWith, fileLeft, databaseLeft, database,
          Move.isFileStep]
      | some line =>
        obtain ⟨pushed, done', station⟩ := Runtime.Manned.database manned line database
        obtain ⟨x, pool, w', hx, stepped, -, -⟩ := Runtime.stepDatabaseWith_eq database fate w
        have fewer : (line.station.step (line.settings.sinkWith fate w.now) r.retry
            (line.sink, w.disk, w.scripted)).1.stepsLeft r.retry ≤ line.station.stepsLeft r.retry - 1 :=
          station.keeps.stepsLeft_le (station.closed closing) (line.settings.flushes_sinkWith fate w.now)
        rw [hx] at fewer
        simp only [Course.step, Journal.stepDatabaseWith, stepped, fileLeft, databaseLeft, Option.bind_some,
          Option.map_some, Option.getD_some, database]
        exact ⟨Nat.le_refl _, fewer⟩

theorem IsClosing.left_follow (h : c.IsClosing) (manned : c.Manned done) (moves : List Move) :
    (c.follow moves).journal.fileLeft ≤ c.journal.fileLeft - moves.countP Move.isFileStep ∧
      (c.follow moves).journal.databaseLeft ≤ c.journal.databaseLeft - moves.countP Move.isDatabaseStep := by
  induction moves generalizing c done with
  | nil => exact ⟨Nat.le_refl _, Nat.le_refl _⟩
  | cons move rest ih =>
    obtain ⟨file, database⟩ := h.left_step manned move
    obtain ⟨file', database'⟩ := ih (h.step move) (manned.step move)
    have counted (p : Move → Bool) : (move :: rest).countP p = rest.countP p + (p move).toNat := by
      rw [List.countP_cons]
      cases p move <;> rfl
    rw [counted, counted]
    constructor
    · refine file'.trans ?_
      omega
    · refine database'.trans ?_
      omega

theorem IsClosing.state_endStop (h : c.IsClosing) : c.journal.endStop.state = .stopped := by
  rcases h.cases with stopping | stopped
  · simp [Journal.endStop, stopping]
  · simp [Journal.endStop, stopped]

/-- When the workers have made the steps that were left, the stop comes to its end. -/
theorem IsClosing.ends (h : c.IsClosing) (manned : c.Manned done) {moves : List Move}
    (file : c.journal.fileLeft ≤ moves.countP Move.isFileStep)
    (database : c.journal.databaseLeft ≤ moves.countP Move.isDatabaseStep) :
    (c.follow moves).journal.workersAreDone = true ∧ ((c.follow moves).step .endStop).journal.state = .stopped := by
  obtain ⟨fileLeft, databaseLeft⟩ := h.left_follow manned moves
  have isDone : (c.follow moves).journal.workersAreDone = true :=
    workersAreDone_of_left (by omega) (by omega)
  refine ⟨isDone, ?_⟩
  simp only [Course.step, if_pos isDone]
  exact (h.follow moves).state_endStop

end Course

/-! ## Running the workers -/

variable {c : Course} {done : List Handle}

/-- What lets one worker go on until it rests is a course of its steps, as many as were asked for unless it comes to
rest before. -/
theorem run_eq_follow (move : Move) (rests : Journal → Bool) (run : Nat → Course → Journal × World)
    (zero : ∀ c, run 0 c = (c.journal, c.world))
    (succ : ∀ n c, run (n + 1) c = if rests c.journal then (c.journal, c.world) else run n (c.step move)) (n : Nat)
    (c : Course) :
    ∃ k, let c' := c.follow (List.replicate k move)
      run n c = (c'.journal, c'.world) ∧ (k = n ∨ rests c'.journal = true) := by
  induction n generalizing c with
  | zero => exact ⟨0, zero c, .inl rfl⟩
  | succ n ih =>
    by_cases now : rests c.journal = true
    · exact ⟨0, by rw [succ, if_pos now]; rfl, .inr now⟩
    · obtain ⟨k, ran, reached⟩ := ih (c.step move)
      exact ⟨k + 1, by rw [succ, if_neg now]; exact ran, reached.imp_left (congrArg (· + 1))⟩

/-- Steps of the worker of the file do not change how many final attempts there are. -/
theorem attempts_follow (c : Course) (m : Disk.Medium) (k : Nat) :
    (c.follow (List.replicate k (.stepFile m))).journal.attempts = c.journal.attempts := by
  induction k generalizing c with
  | zero => rfl
  | succ k ih =>
    refine (ih (c.step (.stepFile m))).trans ?_
    obtain ⟨⟨state, observers, runtime⟩, w, persisted, failed⟩ := c
    cases runtime <;> rfl

theorem stop_eq (j : Journal) (w : World) :
    let ran := j.beginStop.runFile Station.isDone (j.beginStop.filePatience j.beginStop.attempts) w
    let ran' := ran.1.runDatabase Station.isDone (ran.1.databasePatience j.beginStop.attempts) ran.2
    j.stop w = (ran'.1.endStop, ran'.2) := rfl

/-- A stop is a course in which one worker is run and then the other, each of them for so many steps unless none are left
before. -/
theorem stop_eq_follow (c : Course) :
    ∃ k l, let c₁ := c.step (.call .stop)
      let c₂ := c₁.follow (List.replicate k (.stepFile .sound))
      let c₃ := c₂.follow (List.replicate l (.stepDatabase .sound))
      c.journal.stop c.world = (c₃.journal.endStop, c₃.world) ∧
        (k = c₁.journal.filePatience c₁.journal.attempts ∨ c₂.journal.fileLeft = 0) ∧
        (l = c₂.journal.databasePatience c₂.journal.attempts ∨ c₃.journal.databaseLeft = 0) := by
  let c₁ := c.step (.call .stop)
  obtain ⟨k, ran, reached⟩ := run_eq_follow (.stepFile .sound) fileIsDone
    (fun n c => c.journal.runFile Station.isDone n c.world) (fun _ => rfl) (fun _ _ => rfl)
    (c₁.journal.filePatience c₁.journal.attempts) c₁
  let c₂ := c₁.follow (List.replicate k (.stepFile .sound))
  obtain ⟨l, ran', reached'⟩ := run_eq_follow (.stepDatabase .sound) databaseIsDone
    (fun n c => c.journal.runDatabase Station.isDone n c.world) (fun _ => rfl) (fun _ _ => rfl)
    (c₂.journal.databasePatience c₂.journal.attempts) c₂
  refine ⟨k, l, ?_, reached.imp_right (fileLeft_eq_zero_iff _).mpr, reached'.imp_right (databaseLeft_eq_zero_iff _).mpr⟩
  have file : c.journal.beginStop.runFile Station.isDone
      (c.journal.beginStop.filePatience c.journal.beginStop.attempts) c.world = (c₂.journal, c₂.world) := ran
  have database : c₂.journal.runDatabase Station.isDone (c₂.journal.databasePatience c.journal.beginStop.attempts)
      c₂.world = _ := attempts_follow c₁ .sound k ▸ ran'
  simp only [stop_eq, file, database]
  rfl

/-- After a stop a journal is stopped. -/
theorem state_stop (j : Journal) (w : World) : (j.stop w).1.state = .stopped := by
  obtain ⟨k, l, stopped, -, -⟩ := stop_eq_follow ⟨j, w, [], false⟩
  have closing := (((⟨j, w, [], false⟩ : Course).isClosing_stop).follow (List.replicate k (.stepFile .sound))).follow
    (List.replicate l (.stepDatabase .sound))
  rw [stopped]
  exact closing.state_endStop

/-- After a stop both workers of a journal are done. -/
theorem workersAreDone_stop (manned : c.Manned done) : (c.journal.stop c.world).1.workersAreDone = true := by
  obtain ⟨k, l, stopped, file, database⟩ := stop_eq_follow c
  have closing := c.isClosing_stop
  have manned₁ := manned.call .stop
  generalize c.step (.call .stop) = c₁ at stopped file database closing manned₁
  obtain ⟨done₂, manned₂⟩ := manned₁.follow (List.replicate k (.stepFile .sound))
  have closing₂ := closing.follow (List.replicate k (.stepFile .sound))
  have file' : (c₁.follow (List.replicate k (.stepFile .sound))).journal.fileLeft = 0 := by
    have left := (closing.left_follow manned₁ (List.replicate k (.stepFile .sound))).1
    have enough := c₁.journal.fileLeft_le_patience
    rw [List.countP_replicate, Move.isFileStep, if_pos rfl] at left
    omega
  generalize c₁.follow (List.replicate k (.stepFile .sound)) = c₂ at stopped database manned₂ closing₂ file'
  obtain ⟨file₃, database₃⟩ := closing₂.left_follow manned₂ (List.replicate l (.stepDatabase .sound))
  have database' : (c₂.follow (List.replicate l (.stepDatabase .sound))).journal.databaseLeft = 0 := by
    have enough := c₂.journal.databaseLeft_le_patience
    rw [List.countP_replicate, Move.isDatabaseStep, if_pos rfl] at database₃
    omega
  rw [stopped, workersAreDone, (runtime_endStop _).1]
  exact workersAreDone_of_left (by omega) database'

/-- A journal that is stopped is not changed by another stop. -/
theorem stop_of_stopped {j : Journal} (stopped : j.state = .stopped) (isDone : j.workersAreDone = true) (w : World) :
    j.stop w = (j, w) := by
  rw [workersAreDone_eq, Bool.and_eq_true] at isDone
  have begun : j.beginStop = j := by simp [beginStop, stopped]
  have ended : j.endStop = j := by simp [endStop, stopped]
  have file (n : Nat) : j.runFile Station.isDone n w = (j, w) := by
    cases n with
    | zero => rfl
    | succ n => exact if_pos isDone.1
  have database (n : Nat) : j.runDatabase Station.isDone n w = (j, w) := by
    cases n with
    | zero => rfl
    | succ n => exact if_pos isDone.2
  simp only [stop_eq, begun, file, database, ended]

/-! ## Every stop ends -/

/-- Whatever waits when a queue is closed and whatever the sinks do, before and after: every attempt of a worker belongs
to a round in which one batch is tried, with no more late attempts than there are final ones, and the worker of a closed
queue ends (or breaks down) when it is run with the patience of its station, for the file and for the database.

So does the stop of a journal in every course. It can be brought to its end as soon as both workers were run with this
patience, whatever else happens meanwhile, and it ends when they are run until they are done; another call to stop
changes nothing then and at any time before. -/
theorem every_stop_ends {s : JournalSettings} {d : Disk} (valid : s.validate d = .ok ()) {ω : Type} (name : SinkName)
    (observers : List String) (maxDepth : Nat) (state : ω) (now : Instant) (moves : List (Shift.Move ω)) (w : World)
    (calls : List Move) :
    (let c := (Shift.begin maxDepth state now).run name observers s.retry moves
      let log := Shift.rounds name observers s.retry (Shift.begin maxDepth state now) [] moves
      c.attempts = log.reverse.flatMap (·.attempts) ∧
      (∀ t ∈ log, (∃ batch, ∀ a ∈ t.attempts, a.batch = batch) ∧
        t.attempts.countP (·.late) ≤ s.retry.finalAttempts) ∧
      (moves.any Shift.Move.closes = true → ∀ sinks : List (Sink ω Handle),
        (∀ sink ∈ sinks, (∀ pending round, sink.plan pending round = JournalFile.plan pending) ∨
          ∃ s : DatabaseSettings, sink.plan = s.plan) →
        c.station.patience s.retry.finalAttempts ≤ sinks.length →
        let s' := (c.run name observers s.retry (sinks.map .work)).station
        s'.phase = .ended ∨ ∃ cause, s'.phase = .broken cause)) ∧
    (let c := (Course.begin w).follow calls
      let c₁ := c.step (.call .stop)
      (∀ later, c₁.journal.filePatience c₁.journal.attempts ≤ later.countP Move.isFileStep →
        c₁.journal.databasePatience c₁.journal.attempts ≤ later.countP Move.isDatabaseStep →
        (c₁.follow later).journal.workersAreDone = true ∧
          ((c₁.follow later).step .endStop).journal.state = .stopped) ∧
      (∀ later, (c₁.follow later).step (.call .stop) = c₁.follow later) ∧
      let after := c.journal.stop c.world
      after.1.state = .stopped ∧ after.1.workersAreDone = true ∧ after.1.stop after.2 = after) := by
  have patient := JournalSettings.finalAttempts_of_validate valid
  constructor
  · intro c log
    have settles : c.Settles s.retry log := (Shift.settles_begin maxDepth state now).run moves
    refine ⟨settles.attempts_eq, fun t among => ⟨?_, ?_⟩, fun closed sinks plans enough => ?_⟩
    · rcases (settles.sound t among).tries with untried | ⟨batch, tries⟩
      · exact ⟨[], by rw [untried]; exact fun a ha => absurd ha (by simp)⟩
      · exact ⟨batch, tries.batch_eq⟩
    · have := (settles.sound t among).late_le
      rw [Shift.Turn.late] at this
      omega
    · have staffed : c.Staffed _ := (Shift.staffed_begin maxDepth state now).run patient moves
      rw [closed, Bool.or_true] at staffed
      exact Shift.ends_of_work staffed patient (fun sink among => Sink.flushes (plans sink among))
        ((c.station.stepsLeft_le_patience s.retry).trans enough)
  · intro c c₁
    obtain ⟨done, manned⟩ : ∃ done, c.Manned done := (Course.manned_begin w).follow calls
    have closing : c₁.IsClosing := c.isClosing_stop
    refine ⟨fun later file database => ?_, fun later => (closing.follow later).stop, ?_⟩
    · exact closing.ends (manned.call .stop) (c₁.journal.fileLeft_le_patience.trans file)
        (c₁.journal.databaseLeft_le_patience.trans database)
    · have stopped := state_stop c.journal c.world
      have isDone := workersAreDone_stop manned
      exact ⟨stopped, isDone, stop_of_stopped stopped isDone _⟩

/-- A record is stored, two more come, and the queue is closed while the first of them was refused once. -/
def exampleClosing : List (Shift.Move (DatabaseSink × Disk × ScriptedSink)) :=
  let item (n : Nat) : Shift.Move _ := .push ⟨n, ⟨n + 1, .epoch, false, Course.exampleEvent⟩⟩
  let work (n : Nat) (fate : DatabaseFate) : List (Shift.Move _) :=
    List.replicate n (.work (DatabaseSettings.sinkWith {} fate .epoch))
  [item 0] ++ work 12 .sound ++ [item 1] ++ work 5 (.refused (.unavailable "x")) ++ [item 2, .close]

/-- A journal is initialized and started. -/
def exampleOpening : List Move := [.call (.init (.fileOnly "j") false), .call .start]

/-- The database refuses whatever comes from then on, and the journal is stopped. -/
theorem every_stop_ends_exampleClosing :
    let c := (Shift.begin 10 (.scripted, .empty, {}) .epoch).run .database [] (JournalSettings.fileOnly "j").retry
      exampleClosing
    let sinks := List.replicate 100 (DatabaseSettings.sinkWith {} (.refused (.unavailable "x")) .epoch)
    let s' := (c.run .database [] (JournalSettings.fileOnly "j").retry (sinks.map .work)).station
    let j := (Course.begin (World.new .epoch)).follow exampleOpening
    c.station.queue.depth = 2 ∧ c.attempts.length = 2 ∧ (s'.phase = .ended ∨ ∃ cause, s'.phase = .broken cause) ∧
      (j.journal.stop j.world).1.state = .stopped := by
  have stops := every_stop_ends (s := .fileOnly "j") (d := .empty) (by decide +kernel) .database [] 10
    (.scripted, .empty, {}) .epoch exampleClosing (World.new .epoch) exampleOpening
  refine ⟨by decide +kernel, by decide +kernel, ?_, stops.2.2.2.1⟩
  refine stops.1.2.2 (by decide +kernel) _ (fun sink among => .inr ⟨{}, ?_⟩) (by decide +kernel)
  rw [List.eq_of_mem_replicate among]
  rfl

end Journal

end Blotter
