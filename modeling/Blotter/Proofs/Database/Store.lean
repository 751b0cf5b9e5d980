import Mathlib
import Blotter.Database.Store
import Blotter.Proofs.Disk.Operations
import Blotter.Proofs.Failure

/-!
# Open databases

- What is stored in an open database is there afterwards (`IsOpen.tables_setTables`), and what is appended to other
  files does not touch it (`IsOpen.tables_extend`).
- A database that is opened is open (`isOpen_of_openAt`).
- Batches that are stored one after the other amount to their records (`writeAll_of_foldlM`).
-/

namespace Blotter.Database.Store

open Disk

variable {d e : Disk} {s s' : Store}

/-- The file that a database is in, none if it is in memory. -/
def file? : Store → Option Nat
  | .memory _ => none
  | .file id => some id

/-- Whether a database is open: one in a file is there. -/
def IsOpen (s : Store) (d : Disk) : Prop :=
  match s with
  | .memory _ => True
  | .file id => ∃ t, (d.fileAt id).content = .database t

/-- What is stored is there. -/
theorem IsOpen.tables_setTables (h : s.IsOpen d) (t : Tables) :
    (s.setTables d t).1.IsOpen (s.setTables d t).2 ∧ (s.setTables d t).1.tables (s.setTables d t).2 = t := by
  cases s with
  | memory old => exact ⟨trivial, rfl⟩
  | file id =>
    obtain ⟨old, content⟩ := h
    have stored := content_setTables content t
    refine ⟨⟨t, stored⟩, ?_⟩
    simp only [Store.setTables, Store.tables, Disk.tables, stored]

/-- What is appended to a file does not touch a database. -/
theorem IsOpen.tables_extend (h : s.IsOpen d) (id : Nat) (data : List UInt8) :
    s.IsOpen (d.extend id data) ∧ s.tables (d.extend id data) = s.tables d := by
  cases s with
  | memory t => exact ⟨trivial, rfl⟩
  | file id' =>
    obtain ⟨t, content⟩ := h
    have same : (d.extend id data).fileAt id' = d.fileAt id' := by
      by_cases hid : id = id'
      · rw [hid, extend, content]
      · exact fileAt_extend_ne hid data
    refine ⟨⟨t, by rw [same, content]⟩, ?_⟩
    rw [Store.tables, Store.tables, Disk.tables, Disk.tables, same]

theorem content_of_openDatabase (wf : d.WellFormed) {p : String} {id : Nat}
    (h : d.openDatabase p = some (some id, e)) : ∃ t, (e.fileAt id).content = .database t := by
  rw [openDatabase] at h
  split at h
  · rename_i id' d' opened
    split at h
    · rename_i t content
      obtain ⟨hid, rfl⟩ := Prod.mk.inj (Option.some.inj h)
      exact ⟨t, Option.some.inj hid ▸ content⟩
    · split at h
      · obtain ⟨hid, rfl⟩ := Prod.mk.inj (Option.some.inj h)
        obtain rfl := Option.some.inj hid
        have wf' := wf.openAppend opened
        obtain ⟨_, _, -, there⟩ := leaf_of_file wf' (node_of_openAppend opened)
        exact ⟨.empty, by rw [fileAt_setFile (wf'.id_lt_of_nodeAt? there)]⟩
      · exact absurd (Prod.mk.inj (Option.some.inj h)).1 (by simp)
  · exact absurd h (by simp)

theorem wellFormed_of_openAt (wf : d.WellFormed) (target : DatabaseTarget) : (openAt d target).2.WellFormed := by
  cases target with
  | memory => exact wf
  | file path =>
    have wf' := wf.makeParents path
    rw [openAt]
    split
    · exact wf
    · split
      · rename_i made
        rwa [made] at wf'
      · rename_i made
        rw [made] at wf'
        split
        · exact wf'
        · rename_i opened
          exact wf'.openDatabase opened
        · rename_i opened
          exact wf'.openDatabase opened

/-- A database that is opened is open. -/
theorem isOpen_of_openAt (wf : d.WellFormed) {target : DatabaseTarget} (h : openAt d target = (.ok s, e)) :
    s.IsOpen e := by
  cases target with
  | memory =>
    obtain ⟨hs, -⟩ := Prod.mk.inj h
    exact Except.ok.inj hs ▸ trivial
  | file path =>
    simp only [openAt] at h
    split at h
    · obtain ⟨hs, -⟩ := Prod.mk.inj h
      exact Except.ok.inj hs ▸ trivial
    · split at h
      · exact absurd (Prod.mk.inj h).1 (by simp)
      · rename_i d₁ made
        have wf₁ := wf.makeParents path
        rw [made] at wf₁
        split at h
        · exact absurd (Prod.mk.inj h).1 (by simp)
        · exact absurd (Prod.mk.inj h).1 (by simp)
        · rename_i id d₂ opened
          obtain ⟨hs, rfl⟩ := Prod.mk.inj h
          exact Except.ok.inj hs ▸ content_of_openDatabase wf₁ opened

/-! ## Batches -/

/-- Stores batches one after the other, up to the first one that fails. -/
def writeAll : List (Instant × List Record) → Store → Disk → Except (Failure SinkError) Unit × Store × Disk
  | [], s, d => (.ok (), s, d)
  | batch :: rest, s, d =>
    match s.writeBatch batch.1 batch.2 d with
    | (.ok (), s, d) => writeAll rest s d
    | failed => failed

/-- The records of batches, each with the time of its batch. -/
def timed (batches : List (Instant × List Record)) : List (Instant × Record) :=
  batches.flatMap fun batch => batch.2.map fun r => (batch.1, r)

theorem map_timed (batches : List (Instant × List Record)) : (timed batches).map (·.2) = batches.flatMap (·.2) := by
  simp [timed, List.map_flatMap, Function.comp_def]

/-- Batches amount to their records. -/
theorem writeAll_of_foldlM {batches : List (Instant × List Record)} (h : s.IsOpen d) {t : Tables}
    (stored : (timed batches).foldlM (fun t w => t.write w.1 w.2) (s.tables d) = .ok t) :
    ∃ s' e, writeAll batches s d = (.ok (), s', e) ∧ s'.tables e = t := by
  induction batches generalizing s d with
  | nil => exact ⟨s, d, rfl, Except.ok.inj stored⟩
  | cons batch rest ih =>
    rw [timed, List.flatMap_cons, List.foldlM_append, List.foldlM_map] at stored
    obtain ⟨t₁, first, later⟩ := exists_of_bind_eq_ok stored
    obtain ⟨opened, tables⟩ := h.tables_setTables t₁
    rw [← tables] at later
    have batch : (s.tables d).writeBatch batch.1 batch.2 = .ok t₁ := first
    rw [writeAll, writeBatch, batch]
    exact ih opened later

/-- Batches that are all stored leave what their records amount to. -/
theorem foldlM_of_writeAll {batches : List (Instant × List Record)} (h : s.IsOpen d)
    (written : writeAll batches s d = (.ok (), s', e)) :
    (timed batches).foldlM (fun t w => t.write w.1 w.2) (s.tables d) = .ok (s'.tables e) := by
  induction batches generalizing s d with
  | nil =>
    obtain ⟨rfl, rfl⟩ := Prod.mk.inj (Prod.mk.inj written).2
    rfl
  | cons batch rest ih =>
    rw [writeAll, writeBatch] at written
    cases first : (s.tables d).writeBatch batch.1 batch.2 with
    | error x =>
      rw [first] at written
      exact absurd (Prod.mk.inj written).1 (by simp)
    | ok t =>
      rw [first] at written
      obtain ⟨opened, tables⟩ := h.tables_setTables t
      have stored : (batch.2.map fun r => (batch.1, r)).foldlM (fun t w => t.write w.1 w.2) (s.tables d) = .ok t := by
        rw [List.foldlM_map]
        exact first
      rw [timed, List.flatMap_cons, List.foldlM_append, stored, ← tables]
      exact ih opened written

end Blotter.Database.Store
