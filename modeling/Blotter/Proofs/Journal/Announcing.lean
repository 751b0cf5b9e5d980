import Mathlib
import Blotter.Proofs.Journal.Staffing

/-!
# Announcements

Observers hear of what is in the journal file, and of nothing else.

- The records that were appended to the file are those of the batches that it accepted (`Course.appends`). They are the
  first ones that were persisted, in this order.
- Those that were announced are the first ones of these, all of them unless the worker is about to announce its batch
  (`Course.Tells`). One move keeps that (`Course.Tells.step`), and so does a course (`Course.Tells.follow`).
- So every observer hears once of every appended record that goes to the bus (`Course.observers_hear`).
-/

namespace Blotter

/-! ## News -/

/-- The news about records, for every observer. -/
def news (observers : List String) (qs : List Record) : List Notice :=
  (qs.filter (·.toBus)).flatMap fun q => observers.map fun observer => ⟨observer, q.seq, q.kind⟩

theorem news_append (observers : List String) (qs qs' : List Record) :
    news observers (qs ++ qs') = news observers qs ++ news observers qs' := by
  rw [news, List.filter_append, List.flatMap_append, news, news]

/-- An observer who is registered once hears once of every record that goes to the bus. -/
theorem filter_news {observers : List String} {observer : String} (once : observers.count observer = 1)
    (qs : List Record) : (news observers qs).filter (·.observer == observer) =
      (qs.filter (·.toBus)).map fun q => ⟨observer, q.seq, q.kind⟩ := by
  rw [news, List.filter_flatMap, List.map_eq_flatMap]
  refine congrArg (List.flatMap · _) (funext fun q => ?_)
  have own : observers.filter (· == observer) = [observer] := by rw [List.filter_beq, once, List.replicate_one]
  rw [List.filter_map]
  exact congrArg (List.map _) own

/-- The records that an event announces. -/
def WorkerEvent.announced? : Option (WorkerEvent Handle) → List Record
  | some (.announced batch) => batch.map Handle.record
  | _ => []

/-- Only what is announced is news. -/
theorem World.notices_record (w : World) (sink : SinkName) (observers : List String)
    (event : Option (WorkerEvent Handle)) :
    (w.record sink observers event).notices = w.notices ++ news observers (WorkerEvent.announced? event) := by
  cases event with
  | none => exact (List.append_nil _).symm
  | some event =>
    cases event with
    | failed alert => cases alert <;> exact (List.append_nil _).symm
    | wrote batch => exact (List.append_nil _).symm
    | announced batch =>
      simp only [record, news, WorkerEvent.announced?, List.filter_map, List.flatMap_map]
      rfl

/-! ## A worker -/

namespace Station

variable {ω ι : Type}

/-- The items that the sink has accepted and the worker has not announced. -/
def unannounced (s : Station ι) : List ι :=
  match s.phase with
  | .committing batch | .announcing batch => batch
  | _ => []

/-- The items that the sink accepts in the next step. -/
def accepts (s : Station ι) (sink : Sink ω ι) (w : ω) : List ι :=
  match s.phase with
  | .writing batch _ _ => if (sink.write batch w).1.isOk then batch else []
  | _ => []

/-- The items that are announced in the next step. -/
def announces (s : Station ι) : List ι :=
  match s.phase with
  | .announcing batch => batch
  | _ => []

variable {s : Station ι} {sink : Sink ω ι} {retry : RetrySettings} {w : ω}

/-- What the sink accepts is taken off the queue in the next step. -/
theorem doneAfter_step (s : Station ι) (sink : Sink ω ι) (retry : RetrySettings) (w : ω) (done : List ι) :
    (s.step sink retry w).1.doneAfter (s.doneAfter done) = s.doneAfter done ++ s.accepts sink w := by
  have steps := s.steps sink retry w
  generalize s.step sink retry w = outcome at steps ⊢
  cases steps <;> simp_all [doneAfter, accepts, Except.isOk, Except.toBool]

/-- What the sink accepts waits to be announced. -/
theorem unannounced_step (s : Station ι) (sink : Sink ω ι) (retry : RetrySettings) (w : ω) :
    s.announces ++ (s.step sink retry w).1.unannounced = s.unannounced ++ s.accepts sink w := by
  have steps := s.steps sink retry w
  generalize s.step sink retry w = outcome at steps ⊢
  cases steps <;> simp_all [unannounced, accepts, announces, Except.isOk, Except.toBool]

theorem announced?_step (s : Station Handle) (sink : Sink ω Handle) (retry : RetrySettings) (w : ω) :
    WorkerEvent.announced? (s.step sink retry w).2.2 = s.announces.map Handle.record := by
  have steps := s.steps sink retry w
  generalize s.step sink retry w = outcome at steps ⊢
  cases steps <;> rfl

end Station

/-- A step of the worker of the file tells the observers what it announces. -/
theorem Runtime.notices_stepFileOn (r : Runtime) (m : Disk.Medium) (observers : List String) (w : World) :
    (r.stepFileOn m observers w).2.notices = w.notices ++ news observers (r.station.announces.map Handle.record) := by
  rw [← r.station.announced?_step (JournalFile.sinkOn m) r.retry (r.file, w.disk)]
  exact World.notices_record _ _ _ _

/-- A step of the worker of the database tells them nothing. -/
theorem Runtime.notices_stepDatabaseWith (r : Runtime) (fate : DatabaseFate) (w : World) :
    (r.stepDatabaseWith fate w).2.notices = w.notices := by
  rw [stepDatabaseWith]
  cases r.database with
  | none => rfl
  | some line =>
    refine (World.notices_record _ _ _ _).trans ?_
    simp [news]

namespace Journal

/-! ## Calls -/

/-- No call makes news. -/
theorem notices_openRuntime (s : JournalSettings) (custom : Bool) (w : World) :
    (openRuntime s custom w).2.notices = w.notices := by
  rw [openRuntime]
  split
  · rfl
  · split
    · rfl
    · split
      · rfl
      · split
        · rfl
        · simp only
          split <;> rfl

theorem Runtime.notices_persist (r : Runtime) (event : Event) (toBus : Bool) (w : World) :
    (Runtime.persist r event toBus w).2.2.notices = w.notices := by
  rw [Runtime.persist]
  split
  · rfl
  · simp only
    split <;> rfl

theorem notices_call (j : Journal) (w : World) (k : Call) : (j.call w k).2.2.notices = w.notices := by
  cases k with
  | init s custom =>
    simp only [call, init]
    split
    · rfl
    · have opened := notices_openRuntime (effective s custom) custom w
      rw [effective] at opened
      split <;> simp_all
  | start => rfl
  | stop => rfl
  | observe observer => rfl
  | persist event toBus =>
    simp only [call, persist]
    split
    · exact Runtime.notices_persist _ event toBus w
    · exact Runtime.notices_persist _ event toBus w
    · rfl
    · rfl
    · rfl
  | rotate backup =>
    have effect := j.call_effect w (.rotate backup)
    generalize j.call w (.rotate backup) = outcome at effect ⊢
    cases effect <;> rfl

/-- Observers are only registered before the start. -/
theorem observers_call (j : Journal) (w : World) (k : Call) (begun : JournalState.started.rank ≤ j.state.rank) :
    (j.call w k).2.1.observers = j.observers := by
  obtain ⟨state, observers, runtime⟩ := j
  have effect := call_effect ⟨state, observers, runtime⟩ w k
  have registering (observer : String) :
      (Journal.call ⟨state, observers, runtime⟩ w (.observe observer)).2.1.observers = observers := by
    cases state <;> first | rfl | simp [JournalState.rank] at begun
  generalize called : Journal.call ⟨state, observers, runtime⟩ w k = outcome at effect ⊢
  cases effect with
  | stopped => cases state <;> rfl
  | observed observer =>
    have registered := registering observer
    rwa [called] at registered
  | _ => rfl

namespace Course

/-! ## What was appended -/

variable {c : Course} {done : List Handle} {before : List Notice} {accepted told : List Record}

/-- The station of the journal file. -/
def station (c : Course) : Station Handle := (c.journal.runtime.map (·.station)).getD (.new 0)

/-- The records that a move appends to the journal file. -/
def appended (c : Course) : Move → List Record
  | .stepFile m => (c.journal.runtime.map fun r =>
      (r.station.accepts (JournalFile.sinkOn m) (r.file, c.world.disk)).map Handle.record).getD []
  | _ => []

/-- The records that moves append to the journal file. -/
def appends (c : Course) : List Move → List Record
  | [] => []
  | move :: rest => c.appended move ++ (c.step move).appends rest

/-- A worker that was not started sleeps. -/
theorem Manned.asleep (h : c.Manned done) (early : c.journal.state.rank ≤ JournalState.initialized.rank) :
    c.station.phase = .asleep := by
  obtain ⟨⟨state, observers, runtime⟩, w, persisted, failed⟩ := c
  cases runtime with
  | none => rfl
  | some r =>
    obtain ⟨pushed, -, manned⟩ := Runtime.Manned.file h
    cases state with
    | uninitialized => exact absurd rfl (Runtime.Manned.begun h)
    | initialized => exact manned.gated.1
    | _ => exact absurd early (by simp [JournalState.rank])

/-- A call may start the worker of the file. Otherwise it does next what it did before. -/
theorem Manned.phase_call (h : c.Manned done) (k : Call) :
    (c.step (.call k)).station.phase = c.station.phase ∨
      c.station.phase = .asleep ∧ (c.step (.call k)).station.phase = .waiting 0 0 := by
  have asleep := h.asleep
  obtain ⟨⟨state, observers, runtime⟩, w, persisted, failed⟩ := c
  have effect := call_effect ⟨state, observers, runtime⟩ w k
  simp only [Course.step]
  generalize Journal.call ⟨state, observers, runtime⟩ w k = outcome at effect ⊢
  cases effect with
  | initialized s custom r w' fresh opened =>
    obtain ⟨d₁, d₂, f, rs, sink, last, -, -, -, -, -, -, rfl⟩ := openRuntime_eq_ok_iff.mp opened
    obtain rfl : state = .uninitialized := fresh
    rw [asleep (Nat.zero_le _)]
    exact .inl rfl
  | started ready =>
    obtain rfl : state = .initialized := ready
    cases runtime with
    | none => exact .inl rfl
    | some r => exact .inr ⟨asleep (Nat.le_refl _), rfl⟩
  | stopped =>
    cases runtime with
    | none => cases state <;> exact .inl rfl
    | some r =>
      cases state with
      | initialized => exact .inr ⟨asleep (Nat.le_refl _), rfl⟩
      | _ => exact .inl rfl
  | persisted event toBus r r' w' hr isOpen taken =>
    obtain rfl : runtime = some r := hr
    obtain ⟨-, x, -, station, -⟩ := Runtime.of_persist taken
    exact .inl (show r'.station.phase = r.station.phase by rw [station])
  | rotated backup r f d hr =>
    obtain rfl : runtime = some r := hr
    exact .inl rfl
  | notRotated backup r f d e hr =>
    obtain rfl : runtime = some r := hr
    exact .inl rfl
  | _ => exact .inl rfl

/-- Otherwise only its own steps change what the worker of the file does next. -/
theorem Manned.phase_step (h : c.Manned done) {move : Move} (other : move.isFileStep = false) :
    (c.step move).station.phase = c.station.phase ∨
      c.station.phase = .asleep ∧ (c.step move).station.phase = .waiting 0 0 := by
  cases move with
  | clock now => exact .inl rfl
  | call k => exact h.phase_call k
  | endStop =>
    simp only [Course.step]
    split
    · exact .inl (by rw [station, c.journal.runtime_endStop.1, station])
    · exact .inl rfl
  | stepFile m => exact absurd other (by simp [Move.isFileStep])
  | stepDatabase fate =>
    obtain ⟨⟨state, observers, runtime⟩, w, persisted, failed⟩ := c
    cases runtime with
    | none => exact .inl rfl
    | some r =>
      cases database : r.database with
      | none =>
        exact .inl (by simp [Course.step, Journal.stepDatabaseWith, Runtime.stepDatabaseWith, database, station])
      | some line =>
        obtain ⟨x, pool, w', -, stepped, -, -⟩ := Runtime.stepDatabaseWith_eq database fate w
        exact .inl (by simp [Course.step, Journal.stepDatabaseWith, stepped, station])

/-! ## What was announced -/

/-- What the observers were told of what was appended, after some news from before. -/
structure Tells (before : List Notice) (c : Course) (done : List Handle) (accepted told : List Record) : Prop where
  manned : c.Manned done
  accepted_eq : accepted = (c.station.doneAfter done).map Handle.record
  told_eq : accepted = told ++ c.station.unannounced.map Handle.record
  early : c.journal.state.rank ≤ JournalState.initialized.rank → accepted = []
  notices_eq : c.world.notices = before ++ news c.journal.observers told

theorem tells_begin (w : World) : (begin w).Tells w.notices [] [] [] where
  manned := manned_begin w
  accepted_eq := rfl
  told_eq := rfl
  early _ := rfl
  notices_eq := (List.append_nil _).symm

theorem notices_step (c : Course) {move : Move} (other : move.isFileStep = false) :
    (c.step move).world.notices = c.world.notices := by
  cases move with
  | clock now => rfl
  | call k => exact c.journal.notices_call c.world k
  | endStop =>
    simp only [Course.step]
    split <;> rfl
  | stepFile m => exact absurd other (by simp [Move.isFileStep])
  | stepDatabase fate =>
    obtain ⟨⟨state, observers, runtime⟩, w, persisted, failed⟩ := c
    cases runtime with
    | none => rfl
    | some r => exact r.notices_stepDatabaseWith fate w

theorem observers_step (c : Course) (move : Move) (begun : JournalState.started.rank ≤ c.journal.state.rank) :
    (c.step move).journal.observers = c.journal.observers := by
  cases move with
  | clock now => rfl
  | call k => exact c.journal.observers_call c.world k begun
  | endStop =>
    simp only [Course.step, Journal.endStop]
    split
    · split <;> rfl
    · rfl
  | stepFile m =>
    obtain ⟨⟨state, observers, runtime⟩, w, persisted, failed⟩ := c
    cases runtime <;> rfl
  | stepDatabase fate =>
    obtain ⟨⟨state, observers, runtime⟩, w, persisted, failed⟩ := c
    cases runtime <;> rfl

/-- Nobody is told anything by other moves than the steps of the worker of the file. -/
theorem Tells.other (h : c.Tells before done accepted told) {move : Move} (other : move.isFileStep = false) :
    (c.step move).Tells before done accepted told := by
  -- A worker that is started has no batch in hand, neither before nor after.
  have phase := h.manned.phase_step other
  refine ⟨?_, ?_, ?_, fun early => h.early ((c.rank_step move).trans early), ?_⟩
  · have manned := h.manned.step move
    cases move with
    | stepFile m => exact absurd other (by simp [Move.isFileStep])
    | _ => exact manned
  · rw [h.accepted_eq, Station.doneAfter, Station.doneAfter]
    rcases phase with same | ⟨asleep, waiting⟩
    · rw [same]
    · rw [asleep, waiting]
  · rw [h.told_eq, Station.unannounced, Station.unannounced]
    rcases phase with same | ⟨asleep, waiting⟩
    · rw [same]
    · rw [asleep, waiting]
  · rw [c.notices_step other, h.notices_eq]
    -- Before the start more observers may come, but nobody was told anything yet.
    rcases Nat.lt_or_ge c.journal.state.rank JournalState.started.rank with early | begun
    · have none : told = [] := (List.append_eq_nil_iff.mp (h.told_eq.symm.trans (h.early (Nat.le_of_lt_succ early)))).1
      rw [none]
      rfl
    · rw [c.observers_step move begun]

/-- A step of the worker of the file may append a batch, or announce one that was appended. -/
theorem Tells.stepFile (h : c.Tells before done accepted told) (m : Disk.Medium) :
    (c.step (.stepFile m)).Tells before (c.doneAfter done (.stepFile m)) (accepted ++ c.appended (.stepFile m))
      (told ++ c.station.announces.map Handle.record) := by
  have manned := h.manned.step (.stepFile m)
  have asleep := h.manned.asleep
  obtain ⟨-, accepted_eq, told_eq, early, notices_eq⟩ := h
  obtain ⟨⟨state, observers, runtime⟩, w, persisted, failed⟩ := c
  cases runtime with
  | none =>
    have appended : Course.appended ⟨⟨state, observers, none⟩, w, persisted, failed⟩ (.stepFile m) = [] := rfl
    have announces : (Course.station ⟨⟨state, observers, none⟩, w, persisted, failed⟩).announces = [] := rfl
    rw [appended, announces, List.append_nil, List.map_nil, List.append_nil]
    exact ⟨manned, accepted_eq, told_eq, early, notices_eq⟩
  | some r =>
    have taken := r.station.doneAfter_step (JournalFile.sinkOn m) r.retry (r.file, w.disk) done
    have waiting := r.station.unannounced_step (JournalFile.sinkOn m) r.retry (r.file, w.disk)
    refine ⟨manned, ?_, ?_, fun first => ?_, ?_⟩
    · rw [accepted_eq]
      exact List.map_append.symm.trans (congrArg (List.map Handle.record) taken.symm)
    · rw [told_eq, List.append_assoc, List.append_assoc]
      exact congrArg (told ++ ·)
        (List.map_append.symm.trans ((congrArg (List.map Handle.record) waiting.symm).trans List.map_append))
    · have none : r.station.accepts (JournalFile.sinkOn m) (r.file, w.disk) = [] := by
        rw [Station.accepts, show r.station.phase = .asleep from asleep first]
      rw [early first, appended, Option.map_some, Option.getD_some, none]
      rfl
    · refine (r.notices_stepFileOn m observers w).trans ?_
      rw [show w.notices = before ++ news observers told from notices_eq, List.append_assoc, ← news_append]
      rfl

/-- A move tells the observers what the worker announces, and may append more. -/
theorem Tells.step (h : c.Tells before done accepted told) (move : Move) :
    ∃ done' told', (c.step move).Tells before done' (accepted ++ c.appended move) told' := by
  cases move with
  | stepFile m => exact ⟨_, _, h.stepFile m⟩
  | _ => exact ⟨done, told, (List.append_nil accepted).symm ▸ h.other rfl⟩

/-- So do moves. -/
theorem Tells.follow (h : c.Tells before done accepted told) (moves : List Move) :
    ∃ done' told', (c.follow moves).Tells before done' (accepted ++ c.appends moves) told' := by
  induction moves generalizing c done accepted told with
  | nil => exact ⟨done, told, (List.append_nil accepted).symm ▸ h⟩
  | cons move rest ih =>
    obtain ⟨done', told', next⟩ := h.step move
    obtain ⟨done'', told'', run⟩ := ih next
    exact ⟨done'', told'', by rwa [List.append_assoc] at run⟩

/-! ## Numbers -/

/-- Nothing was persisted yet, or the numbers follow one another. -/
def Dated (c : Course) : Prop :=
  c.journal.state = .uninitialized ∧ c.persisted = [] ∨ ∃ last, c.Numbered last

theorem Dated.step (h : c.Dated) (move : Move) : (c.step move).Dated := by
  rcases h with ⟨fresh, none⟩ | ⟨last, numbered⟩
  · have none' : (c.step move).persisted = [] := by
      cases move with
      | call k =>
        have effect := c.journal.call_effect c.world k
        simp only [Course.step]
        generalize c.journal.call c.world k = outcome at effect ⊢
        cases effect with
        | nothing k e => rw [none, Call.records_error, List.append_nil]
        | persisted event toBus r r' w' hr isOpen =>
          rw [fresh] at isOpen
          exact absurd isOpen (by simp [JournalState.isOpen])
        | _ => rw [none]; rfl
      | endStop =>
        simp only [Course.step]
        split <;> exact none
      | _ => exact none
    by_cases begun : (c.step move).journal.state = .uninitialized
    · exact .inl ⟨begun, none'⟩
    · refine .inr ⟨((c.step move).journal.sequence?.map (·.last)).getD 0, begun, fun s source => ?_,
        fun k q there => ?_⟩
      · rw [source, none']
        rfl
      · rw [none'] at there
        exact absurd there (by simp)
  · exact .inr ⟨last, numbered.step move⟩

theorem Dated.follow (h : c.Dated) (moves : List Move) : (c.follow moves).Dated := by
  induction moves generalizing c with
  | nil => exact h
  | cons move rest ih => exact ih (h.step move)

/-- The numbers increase as long as none of them is zero. -/
theorem Dated.increasing (h : c.Dated) (positive : ∀ q ∈ c.persisted, q.seq ≠ 0) :
    c.persisted.Pairwise fun q q' => q.seq < q'.seq := by
  rcases h with ⟨-, none⟩ | ⟨last, numbered⟩
  · rw [none]
    exact List.Pairwise.nil
  · have number (k : Nat) (h : k < c.persisted.length) : c.persisted[k].seq = (last + (k + 1)) % Sequence.modulus :=
      numbered.number k _ (List.getElem?_eq_getElem h)
    have next (k : Nat) (h : k + 1 < c.persisted.length) : c.persisted[k + 1].seq = c.persisted[k].seq + 1 := by
      have some := positive _ (List.getElem_mem h)
      rw [number] at some ⊢
      rw [number k (Nat.lt_of_succ_lt h)]
      simp only [Sequence.modulus] at some ⊢
      omega
    refine List.pairwise_map.mp (List.isChain_iff_pairwise.mp (List.isChain_iff_getElem.mpr fun k h => ?_))
    rw [List.length_map] at h
    rw [List.getElem_map, List.getElem_map, next k h]
    exact Nat.lt_succ_self _

/-! ## What observers hear -/

/-- What was appended are the first of the records that were persisted. -/
theorem Manned.prefix_persisted (h : c.Manned done) :
    (c.station.doneAfter done).map Handle.record <+: c.persisted := by
  obtain ⟨⟨state, observers, runtime⟩, w, persisted, failed⟩ := c
  cases runtime with
  | none =>
    obtain ⟨-, -, rfl⟩ := h
    exact List.nil_prefix
  | some r =>
    obtain ⟨pushed, rfl, manned⟩ := Runtime.Manned.file h
    refine List.IsPrefix.map _ ?_
    rw [manned.keeps.pushed_eq]
    have fits := manned.keeps.fits
    simp only [station, Option.map_some, Option.getD_some, Station.doneAfter]
    split
    · rename_i batch committing
      rw [committing] at fits
      exact (List.prefix_append_right_inj done).mpr fits.2
    · exact List.prefix_append _ _

/-- After a stop nothing is about to be announced. -/
theorem Manned.unannounced_of_stopped (h : c.Manned done) (stopped : c.journal.state = .stopped) :
    c.station.unannounced = [] := by
  obtain ⟨⟨state, observers, runtime⟩, w, persisted, failed⟩ := c
  obtain rfl : state = .stopped := stopped
  cases runtime with
  | none => rfl
  | some r =>
    obtain ⟨pushed, -, manned⟩ := Runtime.Manned.file h
    have isDone := manned.gated.1
    simp only [station, Option.map_some, Option.getD_some, Station.unannounced]
    revert isDone
    rw [Station.isDone]
    cases r.station.phase <;> simp

/-- At any time, whatever was called and however the attempts to write ended: what was appended to the journal file are
the first of the records that were persisted, and what was announced are the first of these, all of them unless the
worker is about to take its batch off the queue or to announce it, and all of them after a stop. Every observer has
heard of those of them that go to the bus, in this order, once for each time it was registered, and of nothing else;
their numbers increase as long as none is zero, that is, as long as they have not run out. -/
theorem observers_hear (w : World) (moves : List Move) :
    let c := (begin w).follow moves
    let appended := (begin w).appends moves
    ∃ told unannounced left, appended = told ++ unannounced ∧ c.persisted = appended ++ left ∧
      c.world.notices = w.notices ++ news c.journal.observers told ∧
      (∀ observer, c.journal.observers.count observer = 1 →
        (news c.journal.observers told).filter (·.observer == observer) =
          (told.filter (·.toBus)).map fun q => ⟨observer, q.seq, q.kind⟩) ∧
      (unannounced ≠ [] → ∃ batch, unannounced = batch.map Handle.record ∧
        (c.station.phase = .committing batch ∨ c.station.phase = .announcing batch)) ∧
      (c.journal.state = .stopped → unannounced = []) ∧
      ((∀ q ∈ c.persisted, q.seq ≠ 0) → (told.filter (·.toBus)).Pairwise fun q q' => q.seq < q'.seq) := by
  intro c appended
  obtain ⟨done, told, tells⟩ : ∃ done told, c.Tells w.notices done appended told := (tells_begin w).follow moves
  have dated : c.Dated := Dated.follow (.inl ⟨rfl, rfl⟩) moves
  have first : appended <+: c.persisted := tells.accepted_eq ▸ tells.manned.prefix_persisted
  obtain ⟨left, persisted⟩ := first
  refine ⟨told, c.station.unannounced.map Handle.record, left, tells.told_eq, persisted.symm, tells.notices_eq,
    fun observer once => filter_news once told, fun some => ?_, fun stopped => ?_, fun positive => ?_⟩
  · refine ⟨c.station.unannounced, rfl, ?_⟩
    revert some
    rw [Station.unannounced]
    cases c.station.phase <;> simp
  · rw [tells.manned.unannounced_of_stopped stopped]
    rfl
  · refine (dated.increasing positive).sublist (List.filter_sublist.trans ?_)
    rw [← persisted, tells.told_eq, List.append_assoc]
    exact List.sublist_append_left _ _

end Course

end Journal

end Blotter
