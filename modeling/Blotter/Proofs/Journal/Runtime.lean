import Mathlib
import Blotter.Proofs.Journal.Sinks

/-!
# Runtimes

- Pushed items and steps of the workers that do not fail keep what the two stations deliver: the records that were
  persisted, in the order of their numbers (`Runtime.Delivers`).
- That and the gates of the stations (`Station.Fits`) make up what holds of a runtime all along (`Runtime.InOrder`).
-/

namespace Blotter

/-! ## Gates -/

namespace Station

variable {ω ι : Type}

/-- Whether a station is as it should be in a state of its journal. -/
def Fits (state : JournalState) (s : Station ι) : Prop :=
  (∀ cause, s.phase ≠ .broken cause) ∧
    match state with
    | .uninitialized => False
    | .initialized => s.phase = .asleep ∧ s.queue.closed = false
    | .started => s.phase ≠ .asleep ∧ s.queue.closed = false
    | .stopping => s.phase ≠ .asleep
    | .stopped => s.phase = .ended

variable {state : JournalState} {s : Station ι} {sink : Sink ω ι} {retry : RetrySettings} {w : ω}

theorem Fits.closed_eq (h : s.Fits state) (isOpen : state.isOpen = true) : s.queue.closed = false := by
  cases state with
  | initialized => exact h.2.2
  | started => exact h.2.2
  | _ => exact absurd isOpen (by simp [JournalState.isOpen])

theorem Fits.push (h : s.Fits state) (x : ι) : ({ s with queue := s.queue.push x } : Station ι).Fits state := h

theorem Fits.start (h : s.Fits .initialized) : s.start.Fits .started :=
  ⟨fun _ broken => (nomatch broken), fun asleep => (nomatch asleep), h.2.2⟩

theorem Fits.close (h : s.Fits .started) : s.close.Fits .stopping := ⟨h.1, h.2.1⟩

/-- A station whose worker is done has ended, if it was started. -/
theorem Fits.endStop (h : s.Fits .stopping) (done : s.isDone = true) : s.Fits .stopped := by
  refine ⟨h.1, ?_⟩
  obtain ⟨queue, phase⟩ := s
  cases phase with
  | asleep => exact absurd rfl h.2
  | ended => rfl
  | broken cause => exact absurd rfl (h.1 cause)
  | _ => exact absurd done (by simp [isDone])

theorem Fits.step (h : s.Fits state) (survives : s.fails (s.step sink retry w).1 = false) :
    (s.step sink retry w).1.Fits state := by
  obtain ⟨closed, asleep, ended⟩ := s.step_gates sink retry w
  refine ⟨fun cause broken => ?_, ?_⟩
  · rw [fails, broken] at survives
    split at survives <;> simp_all
  · cases state with
    | uninitialized => exact h.2
    | initialized => exact ⟨asleep.mpr h.2.1, closed.trans h.2.2⟩
    | started => exact ⟨fun sleeps => h.2.1 (asleep.mp sleeps), closed.trans h.2.2⟩
    | stopping => exact fun sleeps => h.2 (asleep.mp sleeps)
    | stopped => exact ended h.2

end Station

/-! ## Persisting -/

theorem ItemPool.record_of_obtain? {p p' : ItemPool} {q : Record} {h : Handle} (ho : p.obtain? q = some (h, p')) :
    h.record = q := by
  obtain ⟨x, -, hx⟩ := Option.map_eq_some_iff.mp ho
  rw [← (Prod.mk.inj hx).1]

/-- The database side after an item was pushed. -/
def DatabaseLine.push (line : DatabaseLine) (h : Handle) : DatabaseLine :=
  { line with station := { line.station with queue := line.station.queue.push h } }

namespace Journal

/-- What persisting an event amounts to: nothing, or its record comes under the next number to both stations, to the one
of the database only if it is stored there. -/
theorem Runtime.persist_cases (r : Runtime) (event : Event) (toBus : Bool) (w : World) :
    (∃ e, Runtime.persist r event toBus w = (.error e, r, w)) ∨
      ∃ h r' w', Runtime.persist r event toBus w = (.ok r.sequence.next, r', w') ∧
        h.record = ⟨r.sequence.next, w.now, toBus, event⟩ ∧
        r'.station = { r.station with queue := r.station.queue.push h } ∧ r'.sequence = r.sequence.advance ∧
        r'.file = r.file ∧ r'.retry = r.retry ∧
        r'.database = (if event.kind.isStored then r.database.map (DatabaseLine.push · h) else r.database) ∧
        w'.disk = w.disk ∧ w'.scripted = w.scripted := by
  rw [Runtime.persist]
  cases ho : r.pool.obtain? ⟨r.sequence.next, w.now, toBus, event⟩ with
  | none => exact .inl ⟨_, rfl⟩
  | some x =>
    obtain ⟨h, pool⟩ := x
    have record := ItemPool.record_of_obtain? ho
    refine .inr ?_
    cases database : r.database with
    | none => exact ⟨h, _, _, rfl, record, rfl, rfl, rfl, rfl, by simp, rfl, rfl⟩
    | some line =>
      cases stored : event.kind.isStored with
      | true => exact ⟨h, _, _, rfl, record, rfl, rfl, rfl, rfl, rfl, rfl, rfl⟩
      | false => exact ⟨h, _, _, rfl, record, rfl, rfl, rfl, rfl, by simp, rfl, rfl⟩

/-- So much is known of the runtime and the world after an event was persisted. -/
theorem Runtime.of_persist {r r' : Runtime} {event : Event} {toBus : Bool} {w w' : World} {seq : Nat}
    (taken : Runtime.persist r event toBus w = (.ok seq, r', w')) :
    seq = r.sequence.next ∧ ∃ h : Handle, h.record = ⟨seq, w.now, toBus, event⟩ ∧
      r'.station = { r.station with queue := r.station.queue.push h } ∧ r'.sequence = r.sequence.advance ∧
      r'.file = r.file ∧ r'.retry = r.retry ∧
      r'.database = (if event.kind.isStored then r.database.map (DatabaseLine.push · h) else r.database) ∧
      w'.disk = w.disk ∧ w'.scripted = w.scripted := by
  rcases Runtime.persist_cases r event toBus w with ⟨e, refused⟩ | ⟨h, r₁, w₁, done, record, effects⟩
  · rw [taken] at refused
    cases refused
  · rw [taken] at done
    cases done
    exact ⟨rfl, h, record, effects⟩

end Journal

/-! ## What was persisted is on its way -/

/-- What a journal finds when it is initialized: the path of its file, the records on the lines of the backup and on
those of the file, the rows of the database, where that is, and the number that was issued last. -/
structure Origin where
  path : String
  kept : List Record
  own : List Record
  rows : List (Int × Database.EventRow)
  home : Option (Option Nat)
  last : Nat

/-- Whether the rows of the database are in order, with numbers that were issued. -/
structure Origin.Sound (o : Origin) : Prop where
  sorted : (⟨o.rows⟩ : Table Int Database.EventRow).Sorted
  issued : ∀ e ∈ o.rows, e.1 ≤ o.last

/-- Whether the stations of a runtime deliver these records: to the file, and those that are stored to the database. -/
structure Runtime.Delivers (o : Origin) (r : Runtime) (w : World) (issued : List Record) : Prop where
  file : ∃ pushed, pushed.map Handle.record = issued ∧
    r.station.Delivers (JournalFile.intake o.path o.kept o.own) pushed (r.file, w.disk)
  database : ∀ line, r.database = some line → ∃ pushed,
    pushed.map Handle.record = issued.filter (·.kind.isStored) ∧
      line.station.Delivers (DatabaseSink.intake o.rows) pushed (line.sink, w.disk, w.scripted)

/-- What is noted in the world does not touch the sinks. -/
theorem World.sinks_record (w : World) (sink : SinkName) (observers : List String)
    (event : Option (WorkerEvent Handle)) :
    (w.record sink observers event).disk = w.disk ∧ (w.record sink observers event).scripted = w.scripted := by
  cases event with
  | none => exact ⟨rfl, rfl⟩
  | some event =>
    cases event with
    | failed alert => cases alert <;> exact ⟨rfl, rfl⟩
    | wrote batch => exact ⟨rfl, rfl⟩
    | announced batch => exact ⟨rfl, rfl⟩

namespace Runtime

variable {o : Origin} {r : Runtime} {w : World} {issued : List Record}

/-- An item is pushed to the stations that take it. -/
theorem Delivers.push (h : r.Delivers o w issued) (opened : r.station.queue.closed = false)
    (databaseOpened : ∀ line, r.database = some line → line.station.queue.closed = false) (x : Handle) {r' : Runtime}
    {w' : World} (station : r'.station = { r.station with queue := r.station.queue.push x }) (file : r'.file = r.file)
    (database : r'.database = if x.record.kind.isStored then r.database.map (DatabaseLine.push · x) else r.database)
    (disk : w'.disk = w.disk) (script : w'.scripted = w.scripted) : r'.Delivers o w' (issued ++ [x.record]) := by
  constructor
  · obtain ⟨pushed, records, delivers⟩ := h.file
    rw [station, file, disk]
    exact ⟨pushed ++ [x], by rw [List.map_append, records]; rfl, delivers.push opened x⟩
  · intro line hline
    rw [database] at hline
    rw [disk, script, List.filter_append, List.filter_singleton]
    cases stored : x.record.kind.isStored with
    | true =>
      rw [stored, if_pos rfl] at hline
      obtain ⟨line, hline', rfl⟩ := Option.map_eq_some_iff.mp hline
      obtain ⟨pushed, records, delivers⟩ := h.database line hline'
      refine ⟨pushed ++ [x], ?_, delivers.push (databaseOpened line hline') x⟩
      rw [List.map_append, records]
      rfl
    | false =>
      rw [stored, if_neg (by simp)] at hline
      obtain ⟨pushed, records, delivers⟩ := h.database line hline
      refine ⟨pushed, ?_, delivers⟩
      rw [records]
      exact (List.append_nil _).symm

/-- A step of the worker of the journal file changes its station, the file and the pool. -/
theorem stepFileOn_eq (r : Runtime) (m : Disk.Medium) (observers : List String) (w : World) :
    ∃ x pool w', r.station.step (JournalFile.sinkOn m) r.retry (r.file, w.disk) = x ∧
      r.stepFileOn m observers w = ({ r with station := x.1, file := x.2.1.1, pool }, w') ∧
      w'.disk = x.2.1.2 ∧ w'.scripted = w.scripted := by
  obtain ⟨disk, script⟩ := World.sinks_record
    { w with disk := (r.station.step (JournalFile.sinkOn m) r.retry (r.file, w.disk)).2.1.2 } .file observers
    (r.station.step (JournalFile.sinkOn m) r.retry (r.file, w.disk)).2.2
  exact ⟨_, _, _, rfl, rfl, disk, script⟩

/-- The worker of the journal file makes a step. -/
theorem Delivers.stepFileOn (h : r.Delivers o w issued) (patient : r.retry.finalAttempts ≠ 0)
    (fits : ∀ q ∈ issued, q.FitsWords) (m : Disk.Medium) (observers : List String)
    (survives : r.station.fails (r.stepFileOn m observers w).1.station = false) :
    (r.stepFileOn m observers w).1.Delivers o (r.stepFileOn m observers w).2 issued := by
  obtain ⟨pushed, records, delivers⟩ := h.file
  have fits' : ∀ x ∈ pushed, x.record.FitsWords := fun x hx => fits _ (records ▸ List.mem_map_of_mem hx)
  have step := delivers.step patient (JournalFile.admits_sinkOn m fits')
  have elsewhere := JournalFile.disk_of_step r.retry m fits' delivers
  obtain ⟨x, pool, w', hx, stepped, disk, script⟩ := r.stepFileOn_eq m observers w
  rw [hx] at step elsewhere
  rw [stepped] at survives ⊢
  constructor
  · rw [disk]
    exact ⟨pushed, records, step survives⟩
  · intro line database
    obtain ⟨pushed', records', delivers'⟩ := h.database line database
    refine ⟨pushed', records', ?_⟩
    rw [disk, script]
    rcases elsewhere with same | ⟨id, data, extended⟩
    · rw [same]
      exact delivers'
    · rw [extended]
      exact delivers'.elsewhere (fun taken holds => holds.elsewhere id data) fun taken batch holds =>
        holds.imp (·.elsewhere id data) (·.elsewhere id data)

/-- A step of the worker of the database changes its station, the database and the pool. -/
theorem stepDatabaseWith_eq {line : DatabaseLine} (database : r.database = some line) (fate : DatabaseFate)
    (w : World) :
    ∃ x pool w', line.station.step (line.settings.sinkWith fate w.now) r.retry (line.sink, w.disk, w.scripted) = x ∧
      r.stepDatabaseWith fate w =
        ({ r with database := some { line with station := x.1, sink := x.2.1.1 }, pool }, w') ∧
      w'.disk = x.2.1.2.1 ∧ w'.scripted = x.2.1.2.2 := by
  rw [stepDatabaseWith, database]
  cases stepped : line.station.step (line.settings.sinkWith fate w.now) r.retry (line.sink, w.disk, w.scripted) with
  | mk station rest =>
    obtain ⟨⟨sink, disk, script⟩, event⟩ := rest
    obtain ⟨disk', script'⟩ := World.sinks_record { w with disk, scripted := script } .database [] event
    exact ⟨_, _, _, rfl, by simp only [stepped]; rfl, disk', script'⟩

/-- The worker of the database makes a step. -/
theorem Delivers.stepDatabaseWith (h : r.Delivers o w issued) (patient : r.retry.finalAttempts ≠ 0)
    (sorted : (⟨o.rows ++ Database.eventRows (issued.filter (·.kind.isStored))⟩ : Table Int Database.EventRow).Sorted)
    (fate : DatabaseFate)
    (survives : ∀ line line', r.database = some line → (r.stepDatabaseWith fate w).1.database = some line' →
      line.station.fails line'.station = false) :
    (r.stepDatabaseWith fate w).1.Delivers o (r.stepDatabaseWith fate w).2 issued := by
  cases database : r.database with
  | none =>
    rw [Runtime.stepDatabaseWith, database]
    exact h
  | some line =>
    obtain ⟨pushed, records, delivers⟩ := h.database line database
    rw [← records] at sorted
    have step := delivers.step patient (DatabaseSink.admits_sinkWith line.settings fate w.now sorted)
    have elsewhere := DatabaseSink.disk_of_step r.retry line.settings fate w.now delivers
    obtain ⟨x, pool, w', hx, stepped, disk, script⟩ := stepDatabaseWith_eq database fate w
    rw [hx] at step elsewhere
    rw [stepped] at survives ⊢
    constructor
    · obtain ⟨pushed', records', delivers'⟩ := h.file
      refine ⟨pushed', records', ?_⟩
      rw [disk]
      exact delivers'.elsewhere
        (fun taken holds => by
          obtain ⟨more, holds, same⟩ := holds
          exact ⟨more, holds.elsewhere elsewhere, same⟩)
        (fun taken batch holds => by
          obtain ⟨more, holds, same⟩ := holds
          exact ⟨more, holds.elsewhere elsewhere, same⟩)
    · intro line' database'
      obtain rfl := Option.some.inj database'
      rw [disk, script]
      exact ⟨pushed, records, step (survives line _ database rfl)⟩

end Runtime

/-! ## Numbers -/

namespace Sequence

/-- Whether records have increasing numbers above a first one, up to the last one that was issued. -/
structure Issued (first : Nat) (s : Sequence) (issued : List Record) : Prop where
  increasing : issued.Pairwise fun q q' => q.seq < q'.seq
  above : ∀ q ∈ issued, first < q.seq ∧ q.seq ≤ s.last
  first_le : first ≤ s.last
  last_lt : s.last < 9223372036854775808

variable {first : Nat} {s : Sequence} {issued : List Record}

theorem issued_startingAfter (h : first < 9223372036854775808) : (startingAfter first).Issued first [] :=
  ⟨List.Pairwise.nil, fun _ hq => absurd hq (by simp), Nat.le_refl _, h⟩

theorem Issued.next_eq (h : s.Issued first issued) : s.next = s.last + 1 := by
  have := h.last_lt
  rw [next, modulus]
  omega

/-- A record gets the next number. -/
theorem Issued.advance (h : s.Issued first issued) {q : Record} (number : q.seq = s.next)
    (small : q.seq < 9223372036854775808) : s.advance.Issued first (issued ++ [q]) := by
  have next := h.next_eq
  have first_le := h.first_le
  rw [next] at number
  refine ⟨List.pairwise_append.mpr ⟨h.increasing, List.pairwise_singleton _ _, ?_⟩, ?_, ?_, ?_⟩
  · intro q' hq' q'' hq''
    obtain rfl := List.mem_singleton.mp hq''
    have := (h.above q' hq').2
    omega
  · intro q' hq'
    rw [Sequence.advance, next]
    rcases List.mem_append.mp hq' with hq' | hq'
    · obtain ⟨above, below⟩ := h.above q' hq'
      exact ⟨above, by simp only; omega⟩
    · obtain rfl := List.mem_singleton.mp hq'
      exact ⟨by omega, by simp only; omega⟩
  · rw [Sequence.advance, next]
    simp only
    omega
  · rw [Sequence.advance, next]
    simp only
    omega

/-- The rows of records that were issued stand behind those that were there. -/
theorem Issued.sorted {o : Origin} (h : s.Issued o.last issued) (sound : o.Sound) :
    (⟨o.rows ++ Database.eventRows (issued.filter (·.kind.isStored))⟩ : Table Int Database.EventRow).Sorted := by
  have key : ∀ q ∈ issued, (Database.EventRow.ofRecord q).seq = q.seq := by
    intro q hq
    have := (h.above q hq).2
    have := h.last_lt
    exact Database.toColumn_eq (by omega)
  refine List.pairwise_append.mpr ⟨sound.sorted, List.pairwise_map.mpr ?_, ?_⟩
  · refine (h.increasing.filter _).imp_of_mem ?_
    intro q q' hq hq' below
    simp only [key q (List.mem_of_mem_filter hq), key q' (List.mem_of_mem_filter hq')]
    exact compare_lt_iff_lt.mpr (by omega)
  · intro e he e' he'
    obtain ⟨q, hq, rfl⟩ := List.mem_map.mp he'
    have hq := List.mem_of_mem_filter hq
    have old := sound.issued e he
    have new := (h.above q hq).1
    simp only [key q hq]
    exact compare_lt_iff_lt.mpr (by omega)

end Sequence

/-! ## Workers -/

namespace Runtime

/-- Whether a worker has broken down or has just given up a batch. -/
def workerFails (r r' : Runtime) : Bool :=
  r.station.fails r'.station ||
    match r.database, r'.database with
    | some line, some line' => line.station.fails line'.station
    | _, _ => false

/-- Whether both workers will do nothing more. -/
def workersAreDone (r : Runtime) : Bool := r.station.isDone && r.database.all (·.station.isDone)

theorem survives_of_workerFails {r r' : Runtime} (h : r.workerFails r' = false) :
    r.station.fails r'.station = false ∧ ∀ line line', r.database = some line → r'.database = some line' →
      line.station.fails line'.station = false := by
  obtain ⟨file, database⟩ := Bool.or_eq_false_iff.mp h
  refine ⟨file, fun line line' hline hline' => ?_⟩
  rwa [hline, hline'] at database

theorem isDone_of_workersAreDone {r : Runtime} (h : r.workersAreDone = true) :
    r.station.isDone = true ∧ ∀ line, r.database = some line → line.station.isDone = true := by
  obtain ⟨file, database⟩ := Bool.and_eq_true_iff.mp h
  refine ⟨file, fun line hline => ?_⟩
  rwa [hline] at database

end Runtime

/-! ## Runtimes in order -/

/-- What holds of a runtime all along, in a state of its journal and with the records that were persisted. -/
structure Runtime.InOrder (o : Origin) (state : JournalState) (r : Runtime) (w : World) (issued : List Record) :
    Prop where
  fits : r.station.Fits state
  databaseFits : ∀ line, r.database = some line → line.station.Fits state
  home : (r.database.bind fun line => line.sink.home) = o.home
  sequence : r.sequence.Issued o.last issued
  patient : r.retry.finalAttempts ≠ 0
  delivers : r.Delivers o w issued

namespace Runtime

variable {o : Origin} {state : JournalState} {r : Runtime} {w : World} {issued : List Record}

/-- Time passes. -/
theorem InOrder.clock (h : r.InOrder o state w issued) (now : Instant) : r.InOrder o state { w with now } issued :=
  ⟨h.fits, h.databaseFits, h.home, h.sequence, h.patient, h.delivers.file, h.delivers.database⟩

/-- Another record comes to the stations. -/
theorem InOrder.persist (h : r.InOrder o state w issued) (isOpen : state.isOpen = true) {event : Event} {toBus : Bool}
    {seq : Nat} {r' : Runtime} {w' : World} (persisted : Journal.Runtime.persist r event toBus w = (.ok seq, r', w'))
    (small : seq < 9223372036854775808) : r'.InOrder o state w' (issued ++ [⟨seq, w.now, toBus, event⟩]) := by
  obtain ⟨rfl, x, record, station, sequence, file, retry, database, disk, script⟩ := Journal.Runtime.of_persist persisted
  have stored : x.record.kind.isStored = event.kind.isStored := by rw [record]; rfl
  rw [← stored] at database
  rw [← record]
  have opened : ∀ line, r.database = some line → line.station.queue.closed = false := fun line hline =>
    (h.databaseFits line hline).closed_eq isOpen
  refine ⟨?_, ?_, ?_, ?_, ?_, h.delivers.push (h.fits.closed_eq isOpen) opened x station file database disk script⟩
  · rw [station]
    exact h.fits.push x
  · intro line hline
    rw [database] at hline
    split at hline
    · obtain ⟨line, hline', rfl⟩ := Option.map_eq_some_iff.mp hline
      exact (h.databaseFits line hline').push x
    · exact h.databaseFits line hline
  · rw [database, ← h.home]
    split
    · cases r.database <;> rfl
    · rfl
  · rw [sequence]
    exact h.sequence.advance (by rw [record]) (by rwa [record])
  · rw [retry]
    exact h.patient

/-- The workers are started. -/
theorem InOrder.start (h : r.InOrder o .initialized w issued) :
    (Journal.startWorkers r).InOrder o .started w issued where
  fits := h.fits.start
  databaseFits line hline := by
    obtain ⟨line, hline', rfl⟩ := Option.map_eq_some_iff.mp hline
    exact (h.databaseFits line hline').start
  home := by
    rw [← h.home, Journal.startWorkers]
    cases r.database <;> rfl
  sequence := h.sequence
  patient := h.patient
  delivers := by
    obtain ⟨⟨pushed, records, delivers⟩, database⟩ := h.delivers
    refine ⟨⟨pushed, records, delivers.start h.fits.2.1⟩, fun line hline => ?_⟩
    obtain ⟨line, hline', rfl⟩ := Option.map_eq_some_iff.mp hline
    obtain ⟨pushed, records, delivers⟩ := database line hline'
    exact ⟨pushed, records, delivers.start (h.databaseFits line hline').2.1⟩

/-- The queues are closed. -/
theorem InOrder.close (h : r.InOrder o .started w issued) :
    (Journal.closeQueues r).InOrder o .stopping w issued where
  fits := h.fits.close
  databaseFits line hline := by
    obtain ⟨line, hline', rfl⟩ := Option.map_eq_some_iff.mp hline
    exact (h.databaseFits line hline').close
  home := by
    rw [← h.home, Journal.closeQueues]
    cases r.database <;> rfl
  sequence := h.sequence
  patient := h.patient
  delivers := by
    obtain ⟨⟨pushed, records, delivers⟩, database⟩ := h.delivers
    refine ⟨⟨pushed, records, delivers.close⟩, fun line hline => ?_⟩
    obtain ⟨line, hline', rfl⟩ := Option.map_eq_some_iff.mp hline
    obtain ⟨pushed, records, delivers⟩ := database line hline'
    exact ⟨pushed, records, delivers.close⟩

/-- Both workers are done. -/
theorem InOrder.endStop (h : r.InOrder o .stopping w issued) (done : r.station.isDone = true)
    (databaseDone : ∀ line, r.database = some line → line.station.isDone = true) : r.InOrder o .stopped w issued :=
  ⟨h.fits.endStop done, fun line hline => (h.databaseFits line hline).endStop (databaseDone line hline), h.home,
    h.sequence, h.patient, h.delivers⟩

/-- The worker of the journal file makes a step. -/
theorem InOrder.stepFileOn (h : r.InOrder o state w issued) (fits : ∀ q ∈ issued, q.FitsWords) (m : Disk.Medium)
    (observers : List String) (survives : r.station.fails (r.stepFileOn m observers w).1.station = false) :
    (r.stepFileOn m observers w).1.InOrder o state (r.stepFileOn m observers w).2 issued where
  fits := h.fits.step survives
  databaseFits := h.databaseFits
  home := h.home
  sequence := h.sequence
  patient := h.patient
  delivers := h.delivers.stepFileOn h.patient fits m observers survives

/-- The worker of the database makes a step. -/
theorem InOrder.stepDatabaseWith (h : r.InOrder o state w issued) (sound : o.Sound) (fate : DatabaseFate)
    (survives : ∀ line line', r.database = some line → (r.stepDatabaseWith fate w).1.database = some line' →
      line.station.fails line'.station = false) :
    (r.stepDatabaseWith fate w).1.InOrder o state (r.stepDatabaseWith fate w).2 issued := by
  have delivers := h.delivers.stepDatabaseWith h.patient (h.sequence.sorted sound) fate survives
  cases database : r.database with
  | none =>
    rw [Runtime.stepDatabaseWith, database]
    exact h
  | some line =>
    have fits := h.databaseFits line database
    have home := h.home
    have moved := DatabaseSink.home_step line.station r.retry line.settings fate w.now (line.sink, w.disk, w.scripted)
    obtain ⟨x, pool, w', hx, stepped, -, -⟩ := stepDatabaseWith_eq database fate w
    rw [stepped] at survives delivers ⊢
    have survives := survives line _ database rfl
    rw [database] at home
    refine ⟨h.fits, fun line' hline' => ?_, ?_, h.sequence, h.patient, delivers⟩
    · obtain rfl := Option.some.inj hline'
      rw [← hx] at survives ⊢
      exact fits.step survives
    · rw [hx] at moved
      exact moved.trans home

end Runtime

end Blotter
