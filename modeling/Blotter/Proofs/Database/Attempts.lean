import Mathlib
import Blotter.Journal.Basic
import Blotter.Proofs.Database.Events
import Blotter.Proofs.Database.Store

/-!
# Attempts to store batches

A batch may be stored again, in part or as a whole, and an attempt may fail before anything is stored or be reported as
failed after everything is. The tables are as if every record had been stored once.

- A record whose number is taken changes nothing, neither now nor later (`Tables.writeTimed_skip`), so only the first
  write of every number counts (`Tables.writeTimed_firstWrites`).
- After any attempts the tables are those of the first writes among the batches that were stored, and a batch that is
  not stored leaves everything as it was (`Uptake.run_stores_once`).
-/

namespace Blotter.Database

/-! ## Records that are stored again -/

variable {t t' : Tables} {k : Nat}

namespace Tables

/-- Whether the number of a record is taken. -/
def HasSeq (t : Tables) (k : Nat) : Prop := t.events.contains (toColumn k) = true

/-- A record that is stored takes its number, and no number becomes free. -/
theorem hasSeq_of_write {now : Instant} {r : Record} (h : t.write now r = .ok t') :
    t'.HasSeq r.seq ∧ (t.HasSeq k → t'.HasSeq k) := by
  cases found : t.events.find? (toColumn r.seq) with
  | some row =>
    rw [write_known found] at h
    obtain rfl := Except.ok.inj h
    exact ⟨by rw [HasSeq, Table.contains, found]; rfl, id⟩
  | none =>
    have events := events_write found h
    have key : toColumn r.seq = (EventRow.ofRecord r).seq := rfl
    refine ⟨?_, fun taken => ?_⟩
    · rw [HasSeq, events, Table.contains, key, Table.find?_insert_self]
      rfl
    · rw [HasSeq, events, Table.contains, Table.find?_insert]
      split
      · rfl
      · exact taken

/-- Stores records one after the other, each at its time. -/
def writeTimed (t : Tables) (ws : List (Instant × Record)) : Except (Failure SinkError) Tables :=
  ws.foldlM (fun t w => t.write w.1 w.2) t

theorem writeTimed_cons (t : Tables) (w : Instant × Record) (ws : List (Instant × Record)) :
    t.writeTimed (w :: ws) = t.write w.1 w.2 >>= fun t => t.writeTimed ws := List.foldlM_cons

theorem writeTimed_append (t : Tables) (ws vs : List (Instant × Record)) :
    t.writeTimed (ws ++ vs) = t.writeTimed ws >>= fun t => t.writeTimed vs := List.foldlM_append

/-- The writes of a batch. -/
theorem writeTimed_map (t : Tables) (now : Instant) (rs : List Record) :
    t.writeTimed (rs.map (now, ·)) = t.writeBatch now rs := List.foldlM_map

/-- Once a number is taken, the records with that number may as well be left out. -/
theorem writeTimed_skip {ws : List (Instant × Record)} (taken : t.HasSeq k) :
    t.writeTimed (ws.filter fun w => w.2.seq != k) = t.writeTimed ws := by
  induction ws generalizing t with
  | nil => rfl
  | cons w ws ih =>
    rw [List.filter_cons, writeTimed_cons]
    split
    · rw [writeTimed_cons]
      cases written : t.write w.1 w.2 with
      | error e => rfl
      | ok t' => exact ih ((hasSeq_of_write written).2 taken)
    · rename_i again
      have same : w.2.seq = k := by simpa using again
      obtain ⟨row, found⟩ := Option.isSome_iff_exists.mp taken
      have skipped : t.write w.1 w.2 = .ok t := write_known (same ▸ found)
      rw [skipped]
      exact ih taken

/-- The first write of every number. -/
def firstWrites (ws : List (Instant × Record)) : List (Instant × Record) :=
  ws.eraseDupsBy fun w v => w.2.seq == v.2.seq

/-- Only the first write of every number counts. -/
theorem writeTimed_firstWrites (t : Tables) (ws : List (Instant × Record)) :
    t.writeTimed (firstWrites ws) = t.writeTimed ws := by
  induction length : ws.length using Nat.strong_induction_on generalizing t ws with
  | _ n ih =>
    cases ws with
    | nil => rfl
    | cons w ws =>
      have other : (ws.filter fun v => decide ((v.2.seq == w.2.seq) = false)) =
          ws.filter fun v => v.2.seq != w.2.seq := by
        refine List.filter_congr fun v _ => ?_
        rw [bne]
        cases v.2.seq == w.2.seq <;> rfl
      rw [firstWrites, List.eraseDupsBy_cons, other, writeTimed_cons, writeTimed_cons]
      cases written : t.write w.1 w.2 with
      | error e => rfl
      | ok t' =>
        have shorter : (ws.filter fun v => v.2.seq != w.2.seq).length < n := by
          rw [← length, List.length_cons]
          exact Nat.lt_succ_of_le (List.length_filter_le _ _)
        exact (ih _ shorter t' _ rfl).trans (writeTimed_skip (hasSeq_of_write (k := 0) written).1)

end Tables

/-! ## Attempts -/

/-- An attempt to store a batch, at some time and with some fate. -/
structure Attempt where
  now : Instant
  fate : DatabaseFate
  records : List Record

/-- The writes of a batch. -/
def Attempt.writes (a : Attempt) : List (Instant × Record) := a.records.map (a.now, ·)

/-- A database with what lies around it, and the writes of the batches that were stored so far. -/
structure Uptake where
  world : DatabaseSink × Disk × ScriptedSink
  stored : List (Instant × Record)

namespace Uptake

/-- Whether an attempt stores its batch, whatever its writer is told. -/
def stores (c : Uptake) (a : Attempt) : Bool :=
  match a.fate with
  | .refused _ => false
  | .sound | .unconfirmed _ => (DatabaseSink.write a.now a.records c.world).1.isOk

/-- What an attempt makes of it. -/
def step (c : Uptake) (a : Attempt) : Uptake where
  world := (DatabaseSink.writeWith a.fate a.now a.records c.world).2
  stored := if c.stores a then c.stored ++ a.writes else c.stored

/-- What attempts make of it, one after the other. -/
def run (c : Uptake) (attempts : List Attempt) : Uptake := attempts.foldl step c

/-- Whether a database is open that has the tables of what was stored, beginning with `t`. -/
def Holds (t : Tables) (c : Uptake) : Prop :=
  ∃ s d script, c.world = (.store s, d, script) ∧ s.IsOpen d ∧ t.writeTimed c.stored = .ok (s.tables d)

variable {c : Uptake}

/-- A batch is stored as a whole, or everything stays as it was. -/
theorem write_cases {s : Store} {d : Disk} (isOpen : s.IsOpen d) (script : ScriptedSink) (now : Instant)
    (rs : List Record) :
    (∃ s' d', DatabaseSink.write now rs (.store s, d, script) = (.ok (), .store s', d', script) ∧ s'.IsOpen d' ∧
      (s.tables d).writeBatch now rs = .ok (s'.tables d')) ∨
    ∃ e, DatabaseSink.write now rs (.store s, d, script) = (.error e, .store s, d, script) := by
  rw [DatabaseSink.write, Store.writeBatch]
  cases (s.tables d).writeBatch now rs with
  | error e => exact .inr ⟨e, rfl⟩
  | ok t =>
    obtain ⟨isOpen', tables⟩ := isOpen.tables_setTables t
    exact .inl ⟨_, _, rfl, isOpen', congrArg Except.ok tables.symm⟩

/-- A batch whose attempt is refused changes nothing. Any other one is written, whatever its writer is told. -/
theorem step_cases (c : Uptake) (a : Attempt) :
    c.step a = c ∨ c.step a = ⟨(DatabaseSink.write a.now a.records c.world).2,
      if (DatabaseSink.write a.now a.records c.world).1.isOk then c.stored ++ a.writes else c.stored⟩ := by
  obtain ⟨now, fate, records⟩ := a
  cases fate with
  | sound => exact .inr rfl
  | refused e => exact .inl rfl
  | unconfirmed e =>
    refine .inr ?_
    rw [step, stores, DatabaseSink.writeWith]
    cases DatabaseSink.write now records c.world with
    | mk result w => cases result <;> rfl

/-- Every attempt keeps what holds. -/
theorem Holds.step (h : c.Holds t) (a : Attempt) : (c.step a).Holds t := by
  rcases c.step_cases a with same | written
  · rwa [same]
  · obtain ⟨s, d, script, world, isOpen, tables⟩ := h
    rw [written, Holds, world]
    rcases write_cases isOpen script a.now a.records with ⟨s', d', done, isOpen', batch⟩ | ⟨e, failed⟩
    · have more : t.writeTimed (c.stored ++ a.writes) = .ok (s'.tables d') := by
        rw [Tables.writeTimed_append, tables]
        exact (Tables.writeTimed_map _ _ _).trans batch
      rw [done]
      exact ⟨s', d', script, rfl, isOpen', more⟩
    · rw [failed]
      exact ⟨s, d, script, rfl, isOpen, tables⟩

/-- So do attempts. -/
theorem Holds.run (h : c.Holds t) (attempts : List Attempt) : (c.run attempts).Holds t := by
  induction attempts generalizing c with
  | nil => exact h
  | cons a rest ih => exact ih (h.step a)

/-- However often batches are stored again or fail, the tables are those of the first write of every record among the
batches that were stored. A batch that cannot be written leaves everything as it was. -/
theorem run_stores_once {s : Store} {d : Disk} (isOpen : s.IsOpen d) (script : ScriptedSink)
    (attempts : List Attempt) :
    ∃ s' d' script', ((⟨(.store s, d, script), []⟩ : Uptake).run attempts).world = (.store s', d', script') ∧
      (s.tables d).writeTimed
          (Tables.firstWrites ((⟨(.store s, d, script), []⟩ : Uptake).run attempts).stored) = .ok (s'.tables d') ∧
      ∀ now rs e w, DatabaseSink.write now rs (.store s', d', script') = (.error e, w) →
        w = (.store s', d', script') := by
  have start : (⟨(.store s, d, script), []⟩ : Uptake).Holds (s.tables d) := ⟨s, d, script, rfl, isOpen, rfl⟩
  obtain ⟨s', d', script', world, isOpen', tables⟩ := start.run attempts
  refine ⟨s', d', script', world, (Tables.writeTimed_firstWrites _ _).trans tables, fun now rs e w failed => ?_⟩
  rcases write_cases isOpen' script' now rs with ⟨_, _, written, -⟩ | ⟨_, unchanged⟩
  · rw [written] at failed
    exact absurd (Prod.mk.inj failed).1 (by simp)
  · rw [unchanged] at failed
    exact (Prod.mk.inj failed).2.symm

/-- An order and a fill of it that are stored although their writer is told otherwise, stored again with a session
state, and a batch that is not stored. -/
def exampleAttempts : List Attempt :=
  let one : Decimal := ⟨false, 1, 0, Decimal.one_lt_limit, Decimal.zero_le_maxScale⟩
  let order := Order.limit ⟨"o"⟩ ⟨"A"⟩ ⟨"S"⟩ ⟨"I"⟩ .buy one one .epoch
  let placed : Record := ⟨1, .epoch, true, .order order⟩
  let filled : Record := ⟨2, .epoch, true, .fill (.ofOrder order ⟨"e"⟩ one one .epoch)⟩
  let state : Record := ⟨3, .epoch, false, .sessionState ⟨"A", "B", 1970, 1, 2, 3, .epoch⟩⟩
  [⟨.epoch, .unconfirmed (.unavailable "x"), [placed, filled]⟩, ⟨.epoch, .refused (.unavailable "x"), [placed]⟩,
    ⟨.epoch, .sound, [filled, state, placed]⟩]

theorem run_stores_once_exampleAttempts :
    let c := (⟨(.store (.memory .empty), .empty, {}), []⟩ : Uptake).run exampleAttempts
    (Tables.firstWrites c.stored).map (·.2.seq) = [1, 2, 3] ∧
      ∃ s d script, c.world = (.store s, d, script) ∧
        Tables.empty.writeTimed (Tables.firstWrites c.stored) = .ok (s.tables d) := by
  intro c
  have isOpen : (Store.memory .empty).IsOpen Disk.empty := trivial
  obtain ⟨s, d, script, world, tables, -⟩ := run_stores_once isOpen {} exampleAttempts
  exact ⟨by decide +kernel, s, d, script, world, tables⟩

end Uptake

end Blotter.Database
