import Mathlib
import Blotter.Proofs.Journal.Course

/-!
# The life of a journal

Whatever calls are made on a new journal, in whatever order, and however its workers run (`Course.lifecycle`):

- its state only moves forward (`Course.rank_step`);
- it persists events exactly while it is open and its pool can supply an item (`persist_eq`);
- a call that it refuses changes nothing (`call_refused`);
- the numbers follow the highest one that was found when it was initialized, without a gap (`Course.Numbered`).
-/

namespace Blotter

/-- The place of a state in the life of a journal. -/
def JournalState.rank : JournalState → Nat
  | .uninitialized => 0
  | .initialized => 1
  | .started => 2
  | .stopping => 3
  | .stopped => 4

namespace ItemPool

/-- Whether there is a free slot or a new one may be made. -/
def canSupply (p : ItemPool) : Bool := p.available != 0 || p.allowGrowth

/-- An item is supplied whenever that is possible. -/
theorem isSome_obtain? (p : ItemPool) (q : Record) : (p.obtain? q).isSome = p.canSupply := by
  obtain ⟨capacity, allowGrowth, slots, freed, spare⟩ := p
  rw [obtain?, Option.isSome_map, takeSlot?, canSupply, available]
  cases freed with
  | cons i rest => simp
  | nil => cases allowGrowth <;> by_cases none : spare = 0 <;> simp [none]

end ItemPool

namespace Journal

variable {j : Journal} {w : World}

/-! ## Persisting -/

/-- Whether the pool of a journal can supply an item. -/
def canSupply (j : Journal) : Bool := j.runtime.any (·.pool.canSupply)

/-- A runtime takes an event exactly if its pool can supply an item. -/
theorem Runtime.persist_eq (r : Runtime) (event : Event) (toBus : Bool) (w : World) :
    (Runtime.persist r event toBus w).1 =
      if r.pool.canSupply then .ok r.sequence.next else .error (.poolExhausted r.pool.capacity) := by
  have supplied := r.pool.isSome_obtain? ⟨r.sequence.next, w.now, toBus, event⟩
  rw [Runtime.persist]
  cases ho : r.pool.obtain? ⟨r.sequence.next, w.now, toBus, event⟩ with
  | none =>
    rw [ho] at supplied
    rw [← supplied]
    rfl
  | some x =>
    rw [ho] at supplied
    rw [← supplied]
    simp only
    split <;> rfl

/-- The answer of a journal to an event. One that is open has a runtime. -/
theorem persist_eq (whole : j.state.isOpen = true → j.runtime.isSome = true) (event : Event) (toBus : Bool)
    (w : World) : (j.persist event toBus w).1 = match j.state with
      | .uninitialized => .error .notInitialized
      | .initialized | .started =>
        if j.canSupply then .ok ((j.runtime.map (·.sequence.next)).getD 0)
        else .error (.poolExhausted ((j.runtime.map (·.pool.capacity)).getD 0))
      | .stopping | .stopped => .error .stopped := by
  obtain ⟨state, observers, runtime⟩ := j
  cases runtime with
  | none =>
    cases state with
    | initialized => exact absurd (whole rfl) (by simp)
    | started => exact absurd (whole rfl) (by simp)
    | _ => rfl
  | some r =>
    have answer := Runtime.persist_eq r event toBus w
    cases state with
    | initialized => exact answer
    | started => exact answer
    | _ => rfl

/-! ## Refusals -/

/-- A call that is refused changes neither the journal nor the world. -/
theorem call_refused {k : Call} {e : JournalError} (h : (j.call w k).1 = .error e) (refusal : e.isRefusal = true) :
    (j.call w k).2 = (j, w) := by
  have effect := j.call_effect w k
  generalize j.call w k = outcome at effect h ⊢
  cases effect with
  | nothing k e => rfl
  | notInitialized s custom e' w' fresh honest =>
    obtain rfl := Except.error.inj h
    exact absurd refusal (by simp [honest])
  | notRotated backup r f d e' runtime honest =>
    obtain rfl := Except.error.inj h
    exact absurd refusal (by simp [honest])
  | _ => exact absurd h (by simp)

/-! ## The state -/

/-- A call takes a journal no step back. -/
theorem rank_call (j : Journal) (w : World) (k : Call) : j.state.rank ≤ (j.call w k).2.1.state.rank := by
  have effect := j.call_effect w k
  generalize j.call w k = outcome at effect ⊢
  cases effect with
  | initialized s custom r w' fresh =>
    rw [fresh]
    exact Nat.zero_le _
  | started ready =>
    rw [ready]
    exact Nat.le_succ 1
  | stopped =>
    obtain ⟨state, observers, runtime⟩ := j
    cases state <;> simp [beginStop, JournalState.rank]
  | _ => exact Nat.le_refl _

/-! ## The numbers -/

/-- The numbers that the database of a journal has, or claims to have. -/
def databaseNumbers (j : Journal) (w : World) : List Nat :=
  ((j.runtime.bind (·.database)).map fun line => line.sink.numbers w).getD []

/-- The source of the numbers of a journal. -/
def sequence? (j : Journal) : Option Sequence := j.runtime.map (·.sequence)

/-- A call to a journal that was initialized leaves the source of its numbers as it is, or it journals an event under
the next number. -/
theorem sequence_call (begun : j.state ≠ .uninitialized) (w : World) (k : Call) :
    ((j.call w k).2.1.sequence? = j.sequence? ∧ k.records w.now (j.call w k).1 = []) ∨
      ∃ s q, j.sequence? = some s ∧ (j.call w k).2.1.sequence? = some s.advance ∧
        k.records w.now (j.call w k).1 = [q] ∧ q.seq = s.next := by
  have effect := j.call_effect w k
  generalize j.call w k = outcome at effect ⊢
  cases effect with
  | nothing k e => exact .inl ⟨rfl, k.records_error w.now e⟩
  | initialized s custom r w' fresh => exact absurd fresh begun
  | notInitialized s custom e w' fresh => exact absurd fresh begun
  | started ready =>
    refine .inl ⟨?_, rfl⟩
    simp only [sequence?, Option.map_map]
    rfl
  | stopped =>
    refine .inl ⟨?_, rfl⟩
    obtain ⟨state, observers, runtime⟩ := j
    cases runtime <;> cases state <;> rfl
  | persisted event toBus r r' w' runtime isOpen taken =>
    obtain ⟨-, x, -, -, advanced, -⟩ := Runtime.of_persist taken
    refine .inr ⟨r.sequence, ⟨r.sequence.next, w.now, toBus, event⟩, ?_, ?_, rfl, rfl⟩
    · rw [sequence?, runtime, Option.map_some]
    · rw [sequence?, Option.map_some, advanced]
  | observed observer => exact .inl ⟨rfl, rfl⟩
  | rotated backup r f d runtime =>
    refine .inl ⟨?_, rfl⟩
    rw [sequence?, sequence?, runtime, Option.map_some, Option.map_some]
  | notRotated backup r f d e runtime =>
    refine .inl ⟨?_, rfl⟩
    rw [sequence?, sequence?, runtime, Option.map_some, Option.map_some]

/-- The end of a stop leaves the runtime as it is. -/
theorem runtime_endStop (j : Journal) : j.endStop.runtime = j.runtime ∧ j.state.rank ≤ j.endStop.state.rank := by
  obtain ⟨state, observers, runtime⟩ := j
  cases state with
  | stopping => exact ⟨rfl, Nat.le_succ 3⟩
  | _ => exact ⟨rfl, Nat.le_refl _⟩

theorem sequence_stepFileOn (j : Journal) (m : Disk.Medium) (w : World) :
    (j.stepFileOn m w).1.sequence? = j.sequence? ∧ (j.stepFileOn m w).1.state = j.state := by
  obtain ⟨state, observers, runtime⟩ := j
  cases runtime <;> exact ⟨rfl, rfl⟩

theorem sequence_stepDatabaseWith (j : Journal) (fate : DatabaseFate) (w : World) :
    (j.stepDatabaseWith fate w).1.sequence? = j.sequence? ∧ (j.stepDatabaseWith fate w).1.state = j.state := by
  obtain ⟨state, observers, runtime⟩ := j
  cases runtime with
  | none => exact ⟨rfl, rfl⟩
  | some r =>
    refine ⟨?_, rfl⟩
    simp only [stepDatabaseWith, sequence?, Option.map_some, Runtime.stepDatabaseWith]
    split <;> rfl

namespace Course

variable {c : Course}

/-! ## Moves -/

/-- No move takes a journal a step back. -/
theorem rank_step (c : Course) (move : Move) : c.journal.state.rank ≤ (c.step move).journal.state.rank := by
  cases move with
  | clock now => exact Nat.le_refl _
  | call k => exact c.journal.rank_call c.world k
  | endStop =>
    simp only [step]
    split
    · exact c.journal.runtime_endStop.2
    · exact Nat.le_refl _
  | stepFile m => exact (congrArg JournalState.rank (c.journal.sequence_stepFileOn m c.world).2).ge
  | stepDatabase fate => exact (congrArg JournalState.rank (c.journal.sequence_stepDatabaseWith fate c.world).2).ge

theorem begun_step (begun : c.journal.state ≠ .uninitialized) (move : Move) :
    (c.step move).journal.state ≠ .uninitialized := by
  intro fresh
  have rank := c.rank_step move
  rw [fresh] at rank
  refine begun ?_
  revert rank
  cases c.journal.state <;> simp [JournalState.rank]

/-- A move leaves the source of the numbers as it is, or an event is journaled under the next number. -/
theorem sequence_step (begun : c.journal.state ≠ .uninitialized) (move : Move) :
    ((c.step move).journal.sequence? = c.journal.sequence? ∧ (c.step move).persisted = c.persisted) ∨
      ∃ s q, c.journal.sequence? = some s ∧ (c.step move).journal.sequence? = some s.advance ∧
        (c.step move).persisted = c.persisted ++ [q] ∧ q.seq = s.next := by
  cases move with
  | clock now => exact .inl ⟨rfl, rfl⟩
  | call k =>
    rcases sequence_call begun c.world k with ⟨same, none⟩ | ⟨s, q, source, advanced, one, number⟩
    · exact .inl ⟨same, by simp only [step, none, List.append_nil]⟩
    · exact .inr ⟨s, q, source, advanced, by simp only [step, one], number⟩
  | endStop =>
    refine .inl ?_
    simp only [step]
    split
    · exact ⟨congrArg (Option.map _) c.journal.runtime_endStop.1, rfl⟩
    · exact ⟨rfl, rfl⟩
  | stepFile m => exact .inl ⟨(c.journal.sequence_stepFileOn m c.world).1, rfl⟩
  | stepDatabase fate => exact .inl ⟨(c.journal.sequence_stepDatabaseWith fate c.world).1, rfl⟩

/-! ## Numbers without gaps -/

/-- Whether the numbers of what was persisted follow `last` without a gap, up to the size of a number. -/
structure Numbered (last : Nat) (c : Course) : Prop where
  begun : c.journal.state ≠ .uninitialized
  source : ∀ s, c.journal.sequence? = some s →
    s.last % Sequence.modulus = (last + c.persisted.length) % Sequence.modulus
  number : ∀ k q, c.persisted[k]? = some q → q.seq = (last + (k + 1)) % Sequence.modulus

theorem Numbered.step {last : Nat} (h : c.Numbered last) (move : Move) : (c.step move).Numbered last := by
  have begun := begun_step h.begun move
  rcases sequence_step h.begun move with ⟨same, none⟩ | ⟨s, q, source, advanced, one, number⟩
  · exact ⟨begun, by rw [same, none]; exact h.source, by rw [none]; exact h.number⟩
  · have next : s.next = (last + (c.persisted.length + 1)) % Sequence.modulus := by
      rw [Sequence.next, Nat.add_mod, h.source s source, ← Nat.add_mod, Nat.add_assoc]
    refine ⟨begun, fun s' hs' => ?_, fun k q' hk => ?_⟩
    · rw [advanced] at hs'
      obtain rfl := Option.some.inj hs'
      rw [one, Sequence.advance, next, List.length_append, List.length_singleton, Nat.mod_mod]
    · rw [one] at hk
      rcases Nat.lt_trichotomy k c.persisted.length with before | rfl | behind
      · rw [List.getElem?_append_left before] at hk
        exact h.number k q' hk
      · rw [List.getElem?_concat_length] at hk
        obtain rfl := Option.some.inj hk
        rw [number, next]
      · rw [List.getElem?_eq_none (by rw [List.length_append, List.length_singleton]; omega)] at hk
        exact absurd hk (by simp)

theorem Numbered.follow {last : Nat} (h : c.Numbered last) (moves : List Move) : (c.follow moves).Numbered last := by
  induction moves generalizing c with
  | nil => exact h
  | cons move rest ih => exact ih (h.step move)

/-! ## The whole life -/

/-- What holds of a course from the beginning: there is no runtime and nothing was persisted, or the journal was
initialized and has a runtime. -/
inductive Sane (c : Course) : Prop where
  | blank (runtime : c.journal.runtime = none) (closed : c.journal.state.isOpen = false) (none : c.persisted = [])
    (ordered : c.world.disk.RowsInOrder)
  | begun (state : c.journal.state ≠ .uninitialized) (runtime : c.journal.runtime.isSome = true)

theorem Sane.whole (h : c.Sane) (isOpen : c.journal.state.isOpen = true) : c.journal.runtime.isSome = true := by
  cases h with
  | blank runtime closed none ordered =>
    rw [closed] at isOpen
    exact absurd isOpen (by simp)
  | begun state runtime => exact runtime

theorem isSome_step (begun : c.journal.state ≠ .uninitialized) (runtime : c.journal.runtime.isSome = true)
    (move : Move) : (c.step move).journal.runtime.isSome = true := by
  have numbered : c.journal.sequence?.isSome = true := by rwa [sequence?, Option.isSome_map]
  have source : (c.step move).journal.sequence?.isSome = true := by
    rcases sequence_step begun move with ⟨same, -⟩ | ⟨s, q, -, advanced, -⟩
    · rwa [same]
    · rw [advanced]
      rfl
  rwa [sequence?, Option.isSome_map] at source

/-- A call to a journal without runtime may initialize it. Otherwise it stays without. -/
theorem Sane.call (runtime : c.journal.runtime = none) (closed : c.journal.state.isOpen = false)
    (none : c.persisted = []) (ordered : c.world.disk.RowsInOrder) (k : Call) : (c.step (.call k)).Sane := by
  obtain ⟨⟨state, observers, runtime⟩, w, persisted, failed⟩ := c
  subst runtime none
  have effect := call_effect ⟨state, observers, .none⟩ w k
  simp only [Course.step]
  generalize Journal.call ⟨state, observers, .none⟩ w k = outcome at effect ⊢
  cases effect with
  | nothing k e => exact .blank rfl closed (k.records_error w.now e) ordered
  | initialized s custom r w' => exact .begun (by simp) rfl
  | notInitialized s custom e w' fresh honest grows => exact .blank rfl closed rfl (grows.rowsInOrder ordered)
  | started ready =>
    obtain rfl : state = .initialized := ready
    exact absurd closed (by simp [JournalState.isOpen])
  | stopped =>
    cases state with
    | initialized => exact absurd closed (by simp [JournalState.isOpen])
    | started => exact absurd closed (by simp [JournalState.isOpen])
    | _ => exact .blank rfl rfl rfl ordered
  | observed observer => exact .blank rfl closed rfl ordered
  | persisted event toBus r r' w' runtime => exact absurd runtime (by simp)
  | rotated backup r f d runtime => exact absurd runtime (by simp)
  | notRotated backup r f d e runtime => exact absurd runtime (by simp)

theorem Sane.step (h : c.Sane) (move : Move) : (c.step move).Sane := by
  cases h with
  | begun state runtime => exact .begun (begun_step state move) (isSome_step state runtime move)
  | blank runtime closed none ordered =>
    cases move with
    | call k => exact .call runtime closed none ordered k
    | clock now => exact .blank runtime closed none ordered
    | endStop =>
      obtain ⟨⟨state, observers, runtime⟩, w, persisted, failed⟩ := c
      subst runtime
      cases state <;> exact .blank rfl closed none ordered
    | stepFile m =>
      obtain ⟨⟨state, observers, runtime⟩, w, persisted, failed⟩ := c
      subst runtime
      exact .blank rfl closed none ordered
    | stepDatabase fate =>
      obtain ⟨⟨state, observers, runtime⟩, w, persisted, failed⟩ := c
      subst runtime
      exact .blank rfl closed none ordered

theorem Sane.follow (h : c.Sane) (moves : List Move) : (c.follow moves).Sane := by
  induction moves generalizing c with
  | nil => exact h
  | cons move rest ih => exact ih (h.step move)

/-- A journal that is initialized in a course issues the numbers above those that are found. -/
theorem Sane.numbered (h : c.Sane) {s : JournalSettings} {custom : Bool} {j : Journal} {w : World}
    (called : c.journal.init s custom c.world = (.ok (), j, w)) :
    ∃ f d rs, JournalFile.openAt c.world.disk s.file.path s.file.sync = (.ok f, d) ∧
      JournalFile.records d s.file.path = .ok rs ∧
      (c.step (.call (.init s custom))).Numbered (highestOf (rs.map Record.seq ++ j.databaseNumbers w)) := by
  have stepped : c.step (.call (.init s custom)) = ⟨j, w, c.persisted, c.failed⟩ := by
    simp only [Course.step, Journal.call, called, Call.records, List.append_nil]
  obtain ⟨fresh, r, opened, rfl⟩ := init_eq_ok_iff.mp called
  cases h with
  | begun state => exact absurd fresh state
  | blank runtime closed none ordered =>
    obtain ⟨d₁, d₂, f, rs, sink, last, -, fileOpened, rewound, databaseOpened, rfl, numbered, rfl⟩ :=
      openRuntime_eq_ok_iff.mp opened
    rw [file_effective] at fileOpened
    have ordered₁ := (JournalFile.grows_openAt c.world.disk s.file.path s.file.sync).rowsInOrder ordered
    rw [fileOpened] at ordered₁
    obtain ⟨_, _, _, -, -, -, rfl⟩ := JournalFile.openAt_ok fileOpened
    have records : JournalFile.records d₁ s.file.path = .ok rs := rewound
    have highest := highest_lastSeq numbered fun store there => sorted_of_openDatabase ordered₁ databaseOpened there
    refine ⟨_, d₁, rs, fileOpened, records, ?_⟩
    rw [stepped, none]
    refine ⟨by simp, fun source hsource => ?_, fun k q hk => absurd hk (by simp)⟩
    obtain rfl := Option.some.inj hsource
    refine congrArg (· % Sequence.modulus) ?_
    rw [List.length_nil, Nat.add_zero, highestOf_append,
      ← JournalFile.highest_eq (JournalFile.pairwise_of_records records)]
    cases sink with
    | none => exact congrArg (Nat.max (JournalFile.highest rs)) highest
    | some sink => exact congrArg (Nat.max (JournalFile.highest rs)) highest

/-- Whatever calls are made on a new journal and however its workers run: the state only moves forward; events are
persisted exactly while the journal is open and its pool can supply an item; a refused call changes nothing; and once
the journal was initialized its numbers follow the highest one that was found in its file and its database. -/
theorem lifecycle {w : World} (ordered : w.disk.RowsInOrder) (moves : List Move) :
    let c := (begin w).follow moves
    (∀ move, c.journal.state.rank ≤ (c.step move).journal.state.rank) ∧
    (∀ event toBus,
      ((∃ seq, (c.journal.persist event toBus c.world).1 = .ok seq) ↔
        c.journal.state.isOpen = true ∧ c.journal.canSupply = true) ∧
      ((c.journal.persist event toBus c.world).1 = .error .notInitialized ↔ c.journal.state = .uninitialized) ∧
      ((c.journal.persist event toBus c.world).1 = .error .stopped ↔
        c.journal.state = .stopping ∨ c.journal.state = .stopped)) ∧
    (∀ k e, (c.journal.call c.world k).1 = .error e → e.isRefusal = true →
      (c.journal.call c.world k).2 = (c.journal, c.world)) ∧
    ∀ before s custom after j w', moves = before ++ .call (.init s custom) :: after →
      let c₀ := (begin w).follow before
      c₀.journal.init s custom c₀.world = (.ok (), j, w') →
      ∃ f d rs, JournalFile.openAt c₀.world.disk s.file.path s.file.sync = (.ok f, d) ∧
        JournalFile.records d s.file.path = .ok rs ∧
        let last := highestOf (rs.map Record.seq ++ j.databaseNumbers w')
        ∀ k q, c.persisted[k]? = some q → last + (k + 1) < Sequence.modulus → q.seq = last + (k + 1) := by
  intro c
  have sane : c.Sane := (Sane.blank rfl rfl rfl ordered : (begin w).Sane).follow moves
  refine ⟨c.rank_step, fun event toBus => ?_, fun k e => call_refused, ?_⟩
  · have answer := persist_eq sane.whole event toBus c.world
    rw [answer]
    cases c.journal.state with
    | initialized => cases c.journal.canSupply <;> simp [JournalState.isOpen]
    | started => cases c.journal.canSupply <;> simp [JournalState.isOpen]
    | _ => simp [JournalState.isOpen]
  · rintro before s custom after j w' rfl c₀ called
    have sane₀ : c₀.Sane := (Sane.blank rfl rfl rfl ordered : (begin w).Sane).follow before
    obtain ⟨f, d, rs, opened, records, numbered⟩ := sane₀.numbered called
    refine ⟨f, d, rs, opened, records, fun k q persisted small => ?_⟩
    have same : c = (c₀.step (.call (.init s custom))).follow after := by
      simp only [c, c₀, follow, List.foldl_append, List.foldl_cons]
    rw [same] at persisted
    rw [(numbered.follow after).number k q persisted, Nat.mod_eq_of_lt small]

/-- The statistics of a component. -/
def exampleEvent : Event := .messagingStats ⟨"c", 1, 2, 0, .epoch⟩

/-- A journal that was initialized in the file `j`. -/
def exampleStart : Course where
  journal := ofFile ⟨"j", .file 0, .never, false⟩ 0
  world := { World.new .epoch with disk := (JournalFile.openAt .empty "j" .never).2 }
  persisted := []
  failed := false

/-- What becomes of it: it persists an event, is rotated and started, persists another
one and is stopped, in vain at first since its worker has not ended. -/
def exampleLife : List Move :=
  [.call (.persist exampleEvent false), .call (.rotate true), .call .start, .call (.persist exampleEvent true),
    .call .stop, .endStop] ++ List.replicate 11 (.stepFile .sound) ++ [.endStop, .call (.persist exampleEvent false)]

theorem lifecycle_exampleLife :
    let c := (begin (World.new .epoch)).follow
      ([.call (.persist exampleEvent false)] ++ .call (.init (fileOnly "j") false) :: exampleLife)
    c.journal.state = .stopped ∧ c.persisted.length = 2 ∧
      (∀ k q, c.persisted[k]? = some q → 0 + (k + 1) < Sequence.modulus → q.seq = 0 + (k + 1)) ∧
      ∀ event toBus, (c.journal.persist event toBus c.world).1 = .error .stopped := by
  intro c
  have opened : JournalFile.openAt .empty "j" .never =
      (.ok ⟨"j", .file 0, .never, false⟩, (JournalFile.openAt .empty "j" .never).2) := by decide +kernel
  have records : JournalFile.records (JournalFile.openAt .empty "j" .never).2 "j" = .ok [] :=
    records_eq_nil (by decide +kernel) (by decide +kernel)
  have called : Journal.new.init (fileOnly "j") false (World.new .epoch) =
      (.ok (), exampleStart.journal, exampleStart.world) :=
    init_fileOnly (by decide +kernel) opened records
  have first : (begin (World.new .epoch)).step (.call (.persist exampleEvent false)) = begin (World.new .epoch) := rfl
  have second : (begin (World.new .epoch)).step (.call (.init (fileOnly "j") false)) = exampleStart := by
    simp only [step, Journal.call, begin, called, Call.records, List.append_nil]
    rfl
  have same : c = exampleStart.follow exampleLife := by
    simp only [c, follow, List.foldl_append, List.foldl_cons, List.foldl_nil, first, second]
  have stopped : c.journal.state = .stopped := by
    rw [same]
    decide +kernel
  obtain ⟨-, persisting, -, numbered⟩ := lifecycle (w := World.new .epoch) Disk.rowsInOrder_empty
    ([.call (.persist exampleEvent false)] ++ .call (.init (fileOnly "j") false) :: exampleLife)
  obtain ⟨f, d, rs, opened', records', numbered⟩ := numbered _ _ _ _ _ _ rfl called
  have sameDisk : d = (JournalFile.openAt .empty "j" .never).2 := (Prod.mk.inj (opened'.symm.trans opened)).2
  subst sameDisk
  obtain rfl := Except.ok.inj (records'.symm.trans records)
  refine ⟨stopped, ?_, numbered, fun event toBus => ((persisting event toBus).2.2).mpr (.inr stopped)⟩
  rw [same]
  decide +kernel

end Course

end Journal

end Blotter
