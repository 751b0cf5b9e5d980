import Mathlib
import Blotter.Journal.Basic
import Blotter.Proofs.Database.Events
import Blotter.Proofs.Database.Store
import Blotter.Proofs.JournalFile.Append
import Blotter.Proofs.Journal.Station

/-!
# The two sinks of a journal

- The journal file has taken records if they are on its lines, in any number (`JournalFile.intake`). An attempt that
  fails leaves some of a batch there, on any medium (`JournalFile.admits_sinkOn`).
- The database has taken records if their event rows follow the old ones (`DatabaseSink.intake`). An attempt that
  fails leaves all rows of a batch there or none (`DatabaseSink.admits_sinkWith`), since it was written or not tried
  (`DatabaseSink.sinkWith_cases`).
- Neither sink touches what the other one has taken (`JournalFile.Holds.elsewhere`, `DatabaseSink.Holds.elsewhere`).
- A database stays where it is (`DatabaseSink.home_step`).
-/

namespace Blotter

/-! ## The journal file -/

namespace JournalFile

variable {path : String} {kept own more : List Record} {w : JournalFile × Disk} {pushed : List Handle}

/-- Whether a journal file is open with these records on its lines: those of the backup, its own and more. -/
def Holds (path : String) (kept own more : List Record) (w : JournalFile × Disk) : Prop :=
  ∃ s backup current, IsOpen s w.1 w.2 backup current ∧ w.1.path = path ∧ recordsOfBytes backup = kept ∧
    recordsOfBytes current = own ++ more

/-- What the journal file has taken: these records are on its lines, some of them perhaps more than once. -/
def intake (path : String) (kept own : List Record) : Intake (JournalFile × Disk) Handle where
  held taken w := ∃ more, Holds path kept own more w ∧ ∀ r, r ∈ more ↔ r ∈ plain (taken.map Handle.record)
  trying taken batch w := ∃ more, Holds path kept own more w ∧ (∀ r ∈ plain (taken.map Handle.record), r ∈ more) ∧
    ∀ r ∈ more, r ∈ plain ((taken ++ batch).map Handle.record)

/-- A batch leaves some of its first records, all of them if it was taken, and nothing else changes on the disk. -/
theorem Holds.write (h : Holds path kept own more w) (m : Disk.Medium) {batch : List Handle}
    (fits : ∀ x ∈ batch, x.record.FitsWords) :
    ∃ result w' k, (sinkOn m).write batch w = (result, w') ∧
      Holds path kept own (more ++ plain ((batch.map Handle.record).take k)) w' ∧
      (result = .ok () → k = (batch.map Handle.record).length) ∧ ∃ id data, w'.2 = w.2.extend id data := by
  obtain ⟨s, backup, current, isOpen, samePath, keeps, lines⟩ := h
  have fits' : ∀ r ∈ batch.map Handle.record, r.FitsWords := by
    intro r hr
    obtain ⟨x, hx, rfl⟩ := List.mem_map.mp hr
    exact fits x hx
  obtain ⟨result, torn, data, k, written, isOpen', -, read, whole⟩ := appendOn_spec m isOpen fits'
  have lines' : recordsOfBytes (current ++ data) = own ++ (more ++ plain ((batch.map Handle.record).take k)) := by
    rw [read, lines, List.append_assoc]
  cases result with
  | ok =>
    refine ⟨.ok (), ({ w.1 with torn }, w.2.extend s.id data), k, ?_, ?_, fun _ => whole rfl, s.id, data, rfl⟩
    · simp only [sinkOn, written]
    · exact ⟨s, backup, current ++ data, isOpen', samePath, keeps, lines'⟩
  | error e =>
    refine ⟨.error (.reported (.io e)), ({ w.1 with torn }, w.2.extend s.id data), k, ?_, ?_, by simp, s.id, data, rfl⟩
    · simp only [sinkOn, written]
    · exact ⟨s, backup, current ++ data, isOpen', samePath, keeps, lines'⟩

/-- On any medium the journal file takes batches, or some records of them if it fails. -/
theorem admits_sinkOn (m : Disk.Medium) (fits : ∀ x ∈ pushed, x.record.FitsWords) :
    (intake path kept own).Admits (sinkOn m) pushed where
  trying_of_held taken batch w h := by
    obtain ⟨more, holds, same⟩ := h
    refine ⟨more, holds, fun r hr => (same r).mpr hr, fun r hr => ?_⟩
    rw [List.map_append, plain, List.map_append]
    exact List.mem_append_left _ ((same r).mp hr)
  held_of_ok taken batch w w' next h written := by
    obtain ⟨more, holds, old, known⟩ := h
    obtain ⟨result, w'', k, written', holds', whole, -⟩ :=
      holds.write m fun x hx => fits x (next.subset (List.mem_append_right _ hx))
    rw [written] at written'
    obtain ⟨rfl, rfl⟩ := Prod.mk.inj written'
    rw [whole rfl, List.take_length] at holds'
    refine ⟨_, holds', fun r => ⟨fun hr => ?_, fun hr => ?_⟩⟩
    · rcases List.mem_append.mp hr with hr | hr
      · exact known r hr
      · rw [List.map_append, plain, List.map_append]
        exact List.mem_append_right _ hr
    · rw [List.map_append, plain, List.map_append] at hr
      rcases List.mem_append.mp hr with hr | hr
      · exact List.mem_append_left _ (old r hr)
      · exact List.mem_append_right _ hr
  trying_of_error taken batch w w' e next h written := by
    obtain ⟨more, holds, old, known⟩ := h
    obtain ⟨result, w'', k, written', holds', -, -⟩ :=
      holds.write m fun x hx => fits x (next.subset (List.mem_append_right _ hx))
    rw [written] at written'
    obtain ⟨rfl, rfl⟩ := Prod.mk.inj written'
    refine ⟨_, holds', fun r hr => List.mem_append_left _ (old r hr), fun r hr => ?_⟩
    rcases List.mem_append.mp hr with hr | hr
    · exact known r hr
    · rw [List.map_append, plain, List.map_append]
      obtain ⟨q, hq, rfl⟩ := List.mem_map.mp hr
      exact List.mem_append_right _ (List.mem_map_of_mem (List.mem_of_mem_take hq))

/-- A worker of the journal file does nothing to the disk but extend a file. -/
theorem disk_of_step {s : Station Handle} (retry : RetrySettings) (m : Disk.Medium)
    (fits : ∀ x ∈ pushed, x.record.FitsWords) (h : s.Delivers (intake path kept own) pushed w) :
    (s.step (sinkOn m) retry w).2.1.2 = w.2 ∨ ∃ id data, (s.step (sinkOn m) retry w).2.1.2 = w.2.extend id data := by
  rcases h.step_world with same | ⟨done, batch, next, ⟨more, holds, -⟩, written⟩
  · exact .inl (by rw [same])
  · obtain ⟨result, w', k, written', -, -, id, data, extended⟩ :=
      holds.write m fun x hx => fits x (next.subset (List.mem_append_right _ hx))
    refine .inr ⟨id, data, ?_⟩
    rw [written, written', ← extended]

/-- What is stored in a database does not touch what the journal file holds. -/
theorem Holds.elsewhere {f : JournalFile} {d e : Disk} (h : Holds path kept own more (f, d))
    (stored : e = d ∨ ∃ id t t', (d.fileAt id).content = .database t ∧ e = d.setTables id t') :
    Holds path kept own more (f, e) := by
  rcases stored with rfl | ⟨id, t, t', database, rfl⟩
  · exact h
  · obtain ⟨s, backup, current, isOpen, lines⟩ := h
    exact ⟨s, backup, current, isOpen.setTables database t', lines⟩

end JournalFile

/-! ## The database -/

namespace DatabaseSink

open Database

variable {w w' : DatabaseSink × Disk × ScriptedSink} {old : List (Int × EventRow)} {pushed : List Handle}

/-- Whether a database is open with these event rows. Of a scripted sink nothing is asked. -/
def Holds (rows : List (Int × EventRow)) (w : DatabaseSink × Disk × ScriptedSink) : Prop :=
  match w.1 with
  | .store s => s.IsOpen w.2.1 ∧ (s.tables w.2.1).events.entries = rows
  | .scripted => True

/-- What the database has taken: the rows of these records follow the old ones. -/
def intake (old : List (Int × EventRow)) : Intake (DatabaseSink × Disk × ScriptedSink) Handle where
  held taken := Holds (old ++ eventRows (taken.map Handle.record))
  trying taken batch w := Holds (old ++ eventRows (taken.map Handle.record)) w ∨
    Holds (old ++ eventRows ((taken ++ batch).map Handle.record)) w

/-- A batch that is stored leaves its rows behind the others, or it was stored before. -/
theorem held_of_write {now : Instant} {taken batch : List Handle}
    (sorted : (⟨old ++ eventRows ((taken ++ batch).map Handle.record)⟩ : Table Int EventRow).Sorted)
    (h : (intake old).trying taken batch w)
    (written : DatabaseSink.write now (batch.map Handle.record) w = (.ok (), w')) :
    (intake old).held (taken ++ batch) w' := by
  have rows : old ++ eventRows ((taken ++ batch).map Handle.record) =
      (old ++ eventRows (taken.map Handle.record)) ++ eventRows (batch.map Handle.record) := by simp [eventRows]
  obtain ⟨sink, d, script⟩ := w
  cases sink with
  | scripted =>
    rw [DatabaseSink.write] at written
    obtain ⟨-, rfl⟩ := Prod.mk.inj written
    exact trivial
  | store s =>
    rw [DatabaseSink.write, Store.writeBatch] at written
    cases stored : (s.tables d).writeBatch now (batch.map Handle.record) with
    | error e => simp [stored] at written
    | ok t =>
      simp only [stored, Prod.mk.injEq, true_and] at written
      obtain rfl := written
      rcases h with ⟨isOpen, entries⟩ | ⟨isOpen, entries⟩
      · obtain ⟨isOpen', tables⟩ := isOpen.tables_setTables t
        refine ⟨isOpen', ?_⟩
        simp only [tables]
        rw [rows, ← entries] at sorted ⊢
        exact events_writeBatch sorted stored
      · obtain ⟨isOpen', tables⟩ := isOpen.tables_setTables t
        have known : ∀ e ∈ eventRows (batch.map Handle.record), e ∈ (s.tables d).events.entries := by
          intro e he
          rw [entries, rows]
          exact List.mem_append_right _ he
        rw [← entries] at sorted
        rw [writeBatch_known sorted known] at stored
        refine ⟨isOpen', ?_⟩
        simp only [tables]
        rw [← Except.ok.inj stored]
        exact entries

/-- A batch that is not stored leaves everything as it was. -/
theorem trying_of_write {now : Instant} {taken batch : List Handle} {e : Failure SinkError}
    (h : (intake old).trying taken batch w)
    (written : DatabaseSink.write now (batch.map Handle.record) w = (.error e, w')) :
    (intake old).trying taken batch w' := by
  obtain ⟨sink, d, script⟩ := w
  cases sink with
  | scripted =>
    rw [DatabaseSink.write] at written
    obtain ⟨-, rfl⟩ := Prod.mk.inj written
    exact .inl trivial
  | store s =>
    rw [DatabaseSink.write, Store.writeBatch] at written
    cases stored : (s.tables d).writeBatch now (batch.map Handle.record) with
    | error e =>
      simp only [stored, Prod.mk.injEq] at written
      obtain ⟨-, rfl⟩ := written
      exact h
    | ok t => simp [stored] at written

theorem sorted_of_front {hs : List Handle} (front : hs <+: pushed)
    (sorted : (⟨old ++ eventRows (pushed.map Handle.record)⟩ : Table Int EventRow).Sorted) :
    (⟨old ++ eventRows (hs.map Handle.record)⟩ : Table Int EventRow).Sorted := by
  obtain ⟨rest, rfl⟩ := front
  rw [List.map_append, eventRows, List.map_append, ← List.append_assoc] at sorted
  exact (List.pairwise_append.mp sorted).1

/-- Whatever the fate of a batch, it is not tried, or it is written as ever and only the report of that may be lost. -/
theorem sinkWith_cases (s : DatabaseSettings) (fate : DatabaseFate) (now : Instant) (batch : List Handle)
    (w : DatabaseSink × Disk × ScriptedSink) :
    (∃ e, (s.sinkWith fate now).write batch w = (.error (.reported e), w)) ∨
      ∃ result result' w', DatabaseSink.write now (batch.map Handle.record) w = (result, w') ∧
        (s.sinkWith fate now).write batch w = (result', w') ∧ (result' = .ok () → result = .ok ()) := by
  cases fate with
  | sound => exact .inr ⟨_, _, _, rfl, rfl, id⟩
  | refused e => exact .inl ⟨e, rfl⟩
  | unconfirmed e =>
    refine .inr ?_
    simp only [DatabaseSettings.sinkWith, writeWith]
    cases written : DatabaseSink.write now (batch.map Handle.record) w with
    | mk result w' =>
      cases result with
      | ok => exact ⟨_, _, w', rfl, rfl, fun _ => rfl⟩
      | error e => exact ⟨_, _, w', rfl, rfl, id⟩

/-- Whatever becomes of the batches, the database takes them as a whole or not at all. -/
theorem admits_sinkWith (s : DatabaseSettings) (fate : DatabaseFate) (now : Instant)
    (sorted : (⟨old ++ eventRows (pushed.map Handle.record)⟩ : Table Int EventRow).Sorted) :
    (intake old).Admits (s.sinkWith fate now) pushed where
  trying_of_held taken batch w h := .inl h
  held_of_ok taken batch w w' next h done := by
    rcases sinkWith_cases s fate now batch w with ⟨e, refused⟩ | ⟨result, result', w'', written, told, honest⟩
    · rw [refused] at done
      exact absurd (Prod.mk.inj done).1 (by simp)
    · rw [told] at done
      obtain ⟨rfl, rfl⟩ := Prod.mk.inj done
      rw [honest rfl] at written
      exact held_of_write (sorted_of_front next sorted) h written
  trying_of_error taken batch w w' e next h failed := by
    rcases sinkWith_cases s fate now batch w with ⟨e, refused⟩ | ⟨result, result', w'', written, told, -⟩
    · rw [refused] at failed
      exact (Prod.mk.inj failed).2 ▸ h
    · rw [told] at failed
      obtain ⟨-, rfl⟩ := Prod.mk.inj failed
      cases result with
      | ok => exact .inr (held_of_write (sorted_of_front next sorted) h written)
      | error e => exact trying_of_write h written

/-- What is written to a file does not touch what the database holds. -/
theorem Holds.elsewhere {rows : List (Int × EventRow)} {sink : DatabaseSink} {d : Disk} {script : ScriptedSink}
    (h : Holds rows (sink, d, script)) (id : Nat) (data : List UInt8) :
    Holds rows (sink, d.extend id data, script) := by
  cases sink with
  | scripted => exact trivial
  | store s =>
    obtain ⟨isOpen, entries⟩ := h
    obtain ⟨isOpen', tables⟩ := isOpen.tables_extend id data
    refine ⟨isOpen', ?_⟩
    simp only [tables]
    exact entries

theorem disk_of_write (now : Instant) (rs : List Record) {rows : List (Int × EventRow)} (h : Holds rows w) :
    (DatabaseSink.write now rs w).2.2.1 = w.2.1 ∨ ∃ id t t', (w.2.1.fileAt id).content = .database t ∧
      (DatabaseSink.write now rs w).2.2.1 = w.2.1.setTables id t' := by
  obtain ⟨sink, d, script⟩ := w
  cases sink with
  | scripted => exact .inl rfl
  | store s =>
    cases stored : (s.tables d).writeBatch now rs with
    | error e =>
      rw [DatabaseSink.write, Store.writeBatch, stored]
      exact .inl rfl
    | ok t =>
      rw [DatabaseSink.write, Store.writeBatch, stored]
      cases s with
      | memory old => exact .inl rfl
      | file id =>
        obtain ⟨⟨old, database⟩, -⟩ := h
        exact .inr ⟨id, old, t, database, rfl⟩

/-- A worker of the database does nothing to the disk but store tables. -/
theorem disk_of_step {s : Station Handle} (retry : RetrySettings) (settings : DatabaseSettings) (fate : DatabaseFate)
    (now : Instant) (h : s.Delivers (intake old) pushed w) :
    (s.step (settings.sinkWith fate now) retry w).2.1.2.1 = w.2.1 ∨
      ∃ id t t', (w.2.1.fileAt id).content = .database t ∧
        (s.step (settings.sinkWith fate now) retry w).2.1.2.1 = w.2.1.setTables id t' := by
  rcases h.step_world with same | ⟨done, batch, -, trying, written⟩
  · exact .inl (by rw [same])
  · obtain ⟨rows, holds⟩ : ∃ rows, Holds rows w := by
      rcases trying with holds | holds
      · exact ⟨_, holds⟩
      · exact ⟨_, holds⟩
    have stored := disk_of_write now (batch.map Handle.record) holds
    rw [written]
    rcases sinkWith_cases settings fate now batch w with ⟨e, refused⟩ | ⟨result, result', w', written', told, -⟩
    · rw [refused]
      exact .inl rfl
    · rw [told]
      rwa [written'] at stored

/-! ## Homes -/

/-- The database behind a sink. A scripted sink has none. -/
def store? : DatabaseSink → Option Store
  | .store s => some s
  | .scripted => none

/-- Where the database behind a sink is. -/
def home (sink : DatabaseSink) : Option (Option Nat) := sink.store?.map Store.file?

theorem home_write (now : Instant) (rs : List Record) (w : DatabaseSink × Disk × ScriptedSink) :
    (DatabaseSink.write now rs w).2.1.home = w.1.home := by
  obtain ⟨sink, d, script⟩ := w
  cases sink with
  | scripted => rfl
  | store s =>
    rw [DatabaseSink.write, Store.writeBatch]
    cases (s.tables d).writeBatch now rs with
    | error e => rfl
    | ok t => cases s <;> rfl

/-- Whatever a worker writes, the database stays where it is. -/
theorem home_step (s : Station Handle) (retry : RetrySettings) (settings : DatabaseSettings) (fate : DatabaseFate)
    (now : Instant) (w : DatabaseSink × Disk × ScriptedSink) :
    (s.step (settings.sinkWith fate now) retry w).2.1.1.home = w.1.home := by
  rcases s.step_world with same | ⟨batch, -, -, -, written⟩
  · rw [same]
  · have stored := home_write now (batch.map Handle.record) w
    rw [written]
    rcases sinkWith_cases settings fate now batch w with ⟨e, refused⟩ | ⟨result, result', w', written', told, -⟩
    · rw [refused]
    · rw [told]
      rwa [written'] at stored

end DatabaseSink

end Blotter
