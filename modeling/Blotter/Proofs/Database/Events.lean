import Mathlib
import Blotter.Database.Writing
import Blotter.Proofs.Failure
import Blotter.Proofs.Table

/-!
# Event rows

A record leaves its event row in the database and no other one (`events_write`). A batch of records above all rows adds
their rows at the end (`events_writeBatch`), and a batch whose rows are there changes nothing (`writeBatch_known`).
-/

namespace Blotter.Database

theorem toColumn_eq {n : Nat} (h : n ≤ 9223372036854775807) : toColumn n = n := by
  rw [toColumn, columnMax]
  omega

variable {t t' : Tables} {now : Instant}

/-! ## One record -/

theorem events_putOrder (t : Tables) (row : OrderRow) : (t.putOrder row).events = t.events := by
  rw [Tables.putOrder]
  split
  · rfl
  · split <;> rfl

theorem events_putSession (t : Tables) (row : SessionRow) : (t.putSession row).events = t.events := by
  rw [Tables.putSession]
  split
  · rfl
  · split <;> rfl

theorem events_putFill {n : Nat} {f : Fill} (h : t.putFill n f = .ok t') : t'.events = t.events := by
  rw [Tables.putFill] at h
  split at h
  · rw [Except.ok.inj h]
  · obtain ⟨old, -, h⟩ := exists_of_bind_eq_ok h
    obtain ⟨new, -, h⟩ := exists_of_bind_eq_ok h
    exact Except.ok.inj h ▸ rfl

/-- What is stored beside the event row leaves the event rows as they are. -/
theorem events_putEvent {now : Instant} {n : Nat} {e : Event} (h : t.putEvent now n e = .ok t') :
    t'.events = t.events := by
  cases e with
  | order o => exact Except.ok.inj h ▸ events_putOrder t _
  | orderReject o r => exact Except.ok.inj h ▸ events_putOrder t _
  | fill f => exact events_putFill h
  | sessionState state => exact Except.ok.inj h ▸ events_putSession t _
  | _ => rw [Except.ok.inj h]

/-- A record whose number is free gets its row. -/
theorem events_write {r : Record} (free : t.events.find? (EventRow.ofRecord r).seq = none)
    (h : t.write now r = .ok t') :
    t'.events = t.events.insert (EventRow.ofRecord r).seq (EventRow.ofRecord r) := by
  have unknown : t.events.contains (EventRow.ofRecord r).seq = false := by rw [Table.contains, free]; rfl
  rw [Tables.write, unknown, if_neg (by simp)] at h
  rw [events_putEvent h]

/-- A record whose number is taken changes nothing. -/
theorem write_known {r : Record} {row : EventRow} (taken : t.events.find? (EventRow.ofRecord r).seq = some row) :
    t.write now r = .ok t := by
  have known : t.events.contains (EventRow.ofRecord r).seq = true := by rw [Table.contains, taken]; rfl
  rw [Tables.write, known, if_pos rfl]

/-! ## Batches -/

/-- The rows of records, each under its number. -/
def eventRows (rs : List Record) : List (Int × EventRow) :=
  rs.map fun r => ((EventRow.ofRecord r).seq, EventRow.ofRecord r)

/-- Records above all rows leave their rows at the end. -/
theorem events_writeBatch {rs : List Record} (sorted : (⟨t.events.entries ++ eventRows rs⟩ : Table Int EventRow).Sorted)
    (h : t.writeBatch now rs = .ok t') : t'.events.entries = t.events.entries ++ eventRows rs := by
  induction rs generalizing t with
  | nil => rw [← Except.ok.inj h, eventRows, List.map_nil, List.append_nil]
  | cons r rs ih =>
    rw [Tables.writeBatch, List.foldlM_cons] at h
    obtain ⟨t₁, first, later⟩ := exists_of_bind_eq_ok h
    have split : t.events.entries ++ eventRows (r :: rs) =
        (t.events.entries ++ eventRows [r]) ++ eventRows rs := by simp [eventRows]
    have above : ∀ e ∈ t.events.entries, compare (EventRow.ofRecord r).seq e.1 = .gt := fun e he =>
      Std.OrientedCmp.gt_of_lt ((List.pairwise_append.mp sorted).2.2 e he _ (List.mem_map_of_mem List.mem_cons_self))
    have entries : t₁.events.entries = t.events.entries ++ eventRows [r] := by
      rw [events_write (Table.find?_of_above above) first, Table.entries_insert_of_above above]
      rfl
    rw [split] at sorted ⊢
    rw [← entries] at sorted ⊢
    exact ih sorted later

/-- A batch whose rows are all there changes nothing. -/
theorem writeBatch_known {rs : List Record} (sorted : t.events.Sorted)
    (known : ∀ e ∈ eventRows rs, e ∈ t.events.entries) : t.writeBatch now rs = .ok t := by
  induction rs with
  | nil => rfl
  | cons r rs ih =>
    have first := known _ (List.mem_map_of_mem List.mem_cons_self)
    rw [Tables.writeBatch, List.foldlM_cons, write_known (sorted.mem_iff.mp first)]
    exact ih fun e he => known e (List.mem_cons_of_mem _ he)

end Blotter.Database
