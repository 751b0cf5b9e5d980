import Mathlib
import Blotter.Journal.Basic
import Blotter.Proofs.Disk.Growth
import Blotter.Proofs.Failure
import Blotter.Proofs.JournalFile.Opening
import Blotter.Proofs.JournalFile.Order
import Blotter.Proofs.Database.Events
import Blotter.Proofs.Database.Store

/-!
# Opening a journal

- What it takes to open the sinks of a journal (`openRuntime_eq_ok_iff`) and so to initialize it (`init_eq_ok_iff`). The
  database is opened beside the file and takes nothing from the disk (`openDatabase_ok`).
- The numbers that a journal issues follow the highest one that was found, in the file and its backup
  (`JournalFile.highest_eq`) or in the database (`highest_lastSeq`).
-/

namespace Blotter

/-! ## The highest number -/

/-- The highest of some numbers, zero if there are none. -/
def highestOf (ns : List Nat) : Nat := ns.foldr Nat.max 0

theorem highestOf_append (ns ms : List Nat) : highestOf (ns ++ ms) = Nat.max (highestOf ns) (highestOf ms) := by
  induction ns with
  | nil => exact (Nat.zero_max _).symm
  | cons n ns ih => exact (congrArg (Nat.max n) ih).trans (Nat.max_assoc _ _ _).symm

theorem le_highestOf {ns : List Nat} {n : Nat} (h : n ∈ ns) : n ≤ highestOf ns := by
  induction ns with
  | nil => exact absurd h (by simp)
  | cons m ns ih =>
    rcases List.mem_cons.mp h with rfl | h
    · exact Nat.le_max_left _ _
    · exact (ih h).trans (Nat.le_max_right _ _)

/-- Of numbers in increasing order the last one is the highest. -/
theorem highestOf_of_pairwise {ns : List Nat} (h : ns.Pairwise (· ≤ ·)) : highestOf ns = ns.getLast?.getD 0 := by
  induction ns with
  | nil => rfl
  | cons n ns ih =>
    obtain ⟨first, rest⟩ := List.pairwise_cons.mp h
    have tail := ih rest
    cases ns with
    | nil => exact Nat.max_zero n
    | cons m ms =>
      rw [List.getLast?_cons_cons, ← tail]
      exact Nat.max_eq_right ((first m List.mem_cons_self).trans (le_highestOf List.mem_cons_self))

/-- The highest number in a list of records that is in order is the highest of its numbers. -/
theorem JournalFile.highest_eq {rs : List Record} (h : rs.Pairwise fun r s => r.seq < s.seq) :
    highest rs = highestOf (rs.map Record.seq) := by
  have increasing : (rs.map Record.seq).Pairwise (· ≤ ·) := List.pairwise_map.mpr (h.imp Nat.le_of_lt)
  rw [highestOf_of_pairwise increasing, List.getLast?_map]
  rfl

namespace Database.Tables

/-- The numbers under which events are stored. -/
def numbers (t : Tables) : List Nat := t.events.entries.map fun e => ofColumn e.1

/-- The last number of a database is the highest one. -/
theorem lastSeq_eq {t : Tables} (sorted : t.events.Sorted) : t.lastSeq = highestOf t.numbers := by
  have increasing : t.numbers.Pairwise (· ≤ ·) :=
    List.pairwise_map.mpr (sorted.imp fun below => Int.toNat_le_toNat (compare_lt_iff_lt.mp below).le)
  rw [highestOf_of_pairwise increasing, numbers, List.getLast?_map, lastSeq]
  cases t.events.entries.getLast? <;> rfl

end Database.Tables

/-- The numbers that a sink of the database has, or claims to have. -/
def DatabaseSink.numbers (w : World) : DatabaseSink → List Nat
  | .store s => (s.tables w.disk).numbers
  | .scripted => [w.scripted.last]

/-! ## Settings -/

/-- With valid settings a batch gets a final attempt. -/
theorem JournalSettings.finalAttempts_of_validate {s : JournalSettings} {d : Disk} (h : s.validate d = .ok ()) :
    s.retry.finalAttempts ≠ 0 := by
  have last {fault : SettingsFault} (demanded : demand (s.retry.finalAttempts != 0) fault = .ok ()) :
      s.retry.finalAttempts ≠ 0 := by
    intro zero
    rw [zero] at demanded
    exact absurd demanded (by simp [demand])
  unfold JournalSettings.validate at h
  obtain ⟨_, -, h⟩ := exists_of_bind_eq_ok h
  obtain ⟨_, -, h⟩ := exists_of_bind_eq_ok h
  simp only at h
  split at h
  · obtain ⟨_, -, h⟩ := exists_of_bind_eq_ok h
    obtain ⟨_, -, h⟩ := exists_of_bind_eq_ok h
    exact last h
  · obtain ⟨_, -, h⟩ := exists_of_bind_eq_ok h
    exact last h

namespace Journal

/-! ## The sinks -/

variable {s : JournalSettings} {custom : Bool} {w w' : World} {r : Runtime} {d e : Disk}

/-- What it takes to open the sinks of a journal. -/
theorem openRuntime_eq_ok_iff : openRuntime s custom w = (.ok r, w') ↔
    ∃ d₁ d₂ f rs sink last, s.validate w.disk = .ok () ∧
      JournalFile.openAt w.disk s.file.path s.file.sync = (.ok f, d₁) ∧ f.rewind d₁ = .ok rs ∧
      openDatabase s.database custom d₁ = (.ok sink, d₂) ∧ w' = { w with disk := d₂ } ∧
      sink.mapM (DatabaseSink.lastSeq w') = .ok last ∧
      r = ⟨.new s.pool.initialCapacity s.pool.allowGrowth,
        .startingAfter (Nat.max (JournalFile.highest rs) (last.getD 0)), .new s.file.maxQueueDepth, f,
        sink.map fun sink => ⟨.new s.database.maxQueueDepth, sink, s.database⟩, s.retry⟩ := by
  constructor
  · intro h
    rw [openRuntime] at h
    split at h
    · exact absurd (Prod.mk.inj h).1 (by simp)
    · rename_i valid
      split at h
      · exact absurd (Prod.mk.inj h).1 (by simp)
      · rename_i f d₁ opened
        split at h
        · exact absurd (Prod.mk.inj h).1 (by simp)
        · rename_i rs rewound
          split at h
          · exact absurd (Prod.mk.inj h).1 (by simp)
          · rename_i sink d₂ database
            simp only at h
            split at h
            · exact absurd (Prod.mk.inj h).1 (by simp)
            · rename_i last numbered
              obtain ⟨hr, rfl⟩ := Prod.mk.inj h
              exact ⟨d₁, d₂, f, rs, sink, last, valid, opened, rewound, database, rfl, numbered,
                (Except.ok.inj hr).symm⟩
  · rintro ⟨d₁, d₂, f, rs, sink, last, valid, opened, rewound, database, rfl, numbered, rfl⟩
    simp only [openRuntime, valid, opened, rewound, database, numbered]

/-- The settings that a journal is initialized with. -/
def effective (s : JournalSettings) (custom : Bool) : JournalSettings :=
  if custom then { s with database := { s.database with enabled := true } } else s

theorem file_effective (s : JournalSettings) (custom : Bool) : (effective s custom).file = s.file := by
  cases custom <;> rfl

/-- What it takes to initialize a journal. -/
theorem init_eq_ok_iff {j₀ j : Journal} : j₀.init s custom w = (.ok (), j, w') ↔
    j₀.state = .uninitialized ∧ ∃ r, openRuntime (effective s custom) custom w = (.ok r, w') ∧
      j = { j₀ with state := .initialized, runtime := some r } := by
  by_cases fresh : j₀.state = .uninitialized
  · have begins : (j₀.state != .uninitialized) = false := by rw [fresh]; rfl
    cases opened : openRuntime (effective s custom) custom w with
    | mk result w₁ =>
      rw [effective] at opened
      rw [init, begins, if_neg Bool.false_ne_true]
      simp only [opened]
      cases result with
      | error e => simp
      | ok r => simp [fresh, and_comm, eq_comm]
  · have begins : (j₀.state != .uninitialized) = true := by simpa using fresh
    simp [init, begins, fresh]

/-- What is made while a database is opened, be it in vain, takes nothing from the disk. -/
theorem grows_openDatabase (s : DatabaseSettings) (custom : Bool) (d : Disk) :
    d.Grows (openDatabase s custom d).2 := by
  rw [openDatabase]
  split
  · exact .refl d
  · split
    · split
      · exact .refl d
      · rename_i target _
        have grows := Database.Store.grows_openAt d target
        split
        · rename_i opened
          rwa [opened] at grows
        · rename_i opened
          rwa [opened] at grows
    · exact .refl d

/-- What a database that was opened is: the scripted sink, or a store, or none. -/
theorem openDatabase_ok {s : DatabaseSettings} {sink : Option DatabaseSink}
    (h : openDatabase s custom d = (.ok sink, e)) : (d = e ∧ (sink = none ∨ sink = some .scripted)) ∨
      ∃ target store, Database.Store.openAt d target = (.ok store, e) ∧ sink = some (.store store) := by
  rw [openDatabase] at h
  split at h
  · obtain ⟨hs, rfl⟩ := Prod.mk.inj h
    exact .inl ⟨rfl, .inr (Except.ok.inj hs).symm⟩
  · split at h
    · split at h
      · exact absurd (Prod.mk.inj h).1 (by simp)
      · rename_i target _
        split at h
        · exact absurd (Prod.mk.inj h).1 (by simp)
        · rename_i store e opened
          obtain ⟨hs, rfl⟩ := Prod.mk.inj h
          exact .inr ⟨target, store, opened, (Except.ok.inj hs).symm⟩
    · obtain ⟨hs, rfl⟩ := Prod.mk.inj h
      exact .inl ⟨rfl, .inl (Except.ok.inj hs).symm⟩

/-- What is made while the sinks of a journal are opened, be it in vain, takes nothing from the disk. -/
theorem grows_openRuntime (s : JournalSettings) (custom : Bool) (w : World) :
    w.disk.Grows (openRuntime s custom w).2.disk := by
  have file := JournalFile.grows_openAt w.disk s.file.path s.file.sync
  rw [openRuntime]
  split
  · exact .refl _
  · split
    · rename_i opened
      rwa [opened] at file
    · rename_i d₁ opened
      rw [opened] at file
      split
      · exact file
      · have database := file.trans (grows_openDatabase s.database custom d₁)
        split
        · rename_i failed
          rwa [failed] at database
        · rename_i done
          rw [done] at database
          simp only
          split
          · exact database
          · exact database

/-- The event rows of a database that was opened are in order. -/
theorem sorted_of_openDatabase {s : DatabaseSettings} {sink : Option DatabaseSink} (ordered : d.RowsInOrder)
    (h : openDatabase s custom d = (.ok sink, e)) {store : Database.Store} (there : sink = some (.store store)) :
    (store.tables e).events.Sorted := by
  have grown := (grows_openDatabase s custom d).rowsInOrder ordered
  rw [h] at grown
  rcases openDatabase_ok h with ⟨-, rfl | rfl⟩ | ⟨target, store', opened, rfl⟩
  · exact absurd there (by simp)
  · exact absurd there (by simp)
  · obtain rfl := DatabaseSink.store.inj (Option.some.inj there)
    exact Database.Store.sorted_of_openAt grown opened

/-- The last number that a database tells is the highest one that it has. -/
theorem highest_lastSeq {sink : Option DatabaseSink} {last : Option Nat}
    (numbered : sink.mapM (DatabaseSink.lastSeq w) = .ok last)
    (sorted : ∀ store, sink = some (.store store) → (store.tables w.disk).events.Sorted) :
    last.getD 0 = highestOf ((sink.map (DatabaseSink.numbers w)).getD []) := by
  cases sink with
  | none =>
    obtain rfl := Except.ok.inj numbered
    rfl
  | some sink =>
    cases sink with
    | store store =>
      obtain rfl := Except.ok.inj numbered
      exact Database.Tables.lastSeq_eq (sorted store rfl)
    | scripted =>
      rw [Option.mapM_some] at numbered
      simp only [DatabaseSink.lastSeq, ScriptedSink.lastSeq] at numbered
      split at numbered
      · exact absurd numbered (by simp [Functor.map, Except.map])
      · obtain rfl := Except.ok.inj numbered
        exact (Nat.max_zero _).symm

/-! ## A journal without database -/

/-- A file with the lines of records beside an empty backup shows the records. -/
theorem records_linesOf {path : String} {rs : List Record} (fits : ∀ r ∈ rs, r.FitsWords)
    (increasing : rs.Pairwise fun r q => r.seq < q.seq) (backup : JournalFile.contents d (Path.backup path) = .ok [])
    (current : JournalFile.contents d path = .ok (JournalFile.linesOf rs)) :
    JournalFile.records d path = .ok (JournalFile.plain rs) := by
  have plain : (JournalFile.plain rs).Pairwise fun r q => r.seq < q.seq := List.pairwise_map.mpr increasing
  rw [JournalFile.records, backup, current]
  simp only [JournalFile.recordsOfContents, JournalFile.recordsOfBytes_nil, List.nil_append,
    JournalFile.recordsOfBytes_linesOf fits]
  rw [JournalFile.inOrder_of_pairwise plain]

/-- Files without bytes show no records. -/
theorem records_eq_nil {path : String} (backup : JournalFile.contents d (Path.backup path) = .ok [])
    (current : JournalFile.contents d path = .ok []) : JournalFile.records d path = .ok [] :=
  records_linesOf (List.forall_mem_nil _) List.Pairwise.nil backup current

/-- The settings of a journal without database in the file at a path. -/
def fileOnly (path : String) : JournalSettings := { file := { path, sync := .never }, database := { enabled := false } }

/-- Such a journal after its initialization. -/
def ofFile (f : JournalFile) (last : Nat) : Journal :=
  ⟨.initialized, [], some ⟨.new 4096 true, .startingAfter last, .new 10000, f, none, {}⟩⟩

theorem init_fileOnly_of {path : String} {f : JournalFile} {rs : List Record}
    (valid : (fileOnly path).validate w.disk = .ok ()) (opened : JournalFile.openAt w.disk path .never = (.ok f, e))
    (rewound : f.rewind e = .ok rs) : Journal.new.init (fileOnly path) false w =
      (.ok (), ofFile f (JournalFile.highest rs), { w with disk := e }) := by
  have last : Nat.max (JournalFile.highest rs) 0 = JournalFile.highest rs := Nat.max_zero _
  refine init_eq_ok_iff.mpr ⟨rfl, _, openRuntime_eq_ok_iff.mpr
    ⟨e, e, f, rs, none, none, valid, opened, rewound, rfl, rfl, rfl, ?_⟩, rfl⟩
  simp only [Option.getD_none, last]
  rfl

theorem init_fileOnly {path : String} {f : JournalFile} {rs : List Record}
    (valid : (fileOnly path).validate d = .ok ()) (opened : JournalFile.openAt d path .never = (.ok f, e))
    (rewound : f.rewind e = .ok rs) :
    Journal.new.init (fileOnly path) false { World.new .epoch with disk := d } =
      (.ok (), ofFile f (JournalFile.highest rs), { World.new .epoch with disk := e }) :=
  init_fileOnly_of (w := { World.new .epoch with disk := d }) valid opened rewound

end Journal

end Blotter
