import Mathlib
import Blotter.JournalFile.Reading

/-!
# Records in order

The records that are read from a journal are in strictly increasing order (`pairwise_inOrder`), and under each number
the record is the first one of that number in the files (`find?_inOrder`, `mem_inOrder_iff`). So a record is there if it
is the only one of its number (`mem_inOrder`), and the result is determined by its members (`eq_of_pairwise`).
-/

namespace Blotter.JournalFile

theorem dropRepeated_nil : dropRepeated [] = [] := by simp [dropRepeated]

theorem dropRepeated_singleton (r : Record) : dropRepeated [r] = [r] := by simp [dropRepeated]

theorem mem_of_mem_dropRepeated {rs : List Record} {r : Record} (h : r ∈ dropRepeated rs) : r ∈ rs := by
  induction rs using dropRepeated.induct with
  | case1 => rwa [dropRepeated_nil] at h
  | case2 s => rwa [dropRepeated_singleton] at h
  | case3 s t rest same ih =>
    rw [dropRepeated, if_pos same] at h
    rcases List.mem_cons.mp (ih h) with rfl | h
    · simp
    · simp [h]
  | case4 s t rest other ih =>
    rw [dropRepeated, if_neg other] at h
    rcases List.mem_cons.mp h with rfl | h
    · simp
    · exact List.mem_cons_of_mem _ (ih h)

/-- The first record of every number stays. -/
theorem find?_dropRepeated (rs : List Record) (n : Nat) :
    (dropRepeated rs).find? (·.seq == n) = rs.find? (·.seq == n) := by
  induction rs using dropRepeated.induct with
  | case1 => rw [dropRepeated_nil]
  | case2 s => rw [dropRepeated_singleton]
  | case3 s t rest same ih =>
    rw [dropRepeated, if_pos same, ih, List.find?_cons, List.find?_cons, List.find?_cons]
    rw [beq_iff_eq] at same
    rw [same]
    cases t.seq == n <;> rfl
  | case4 s t rest other ih => rw [dropRepeated, if_neg other, List.find?_cons, List.find?_cons, ih]

/-- In a sorted list equal numbers stand next to each other, so none is left twice. -/
theorem pairwise_dropRepeated {rs : List Record} (h : rs.Pairwise fun r s => r.seq ≤ s.seq) :
    (dropRepeated rs).Pairwise fun r s => r.seq < s.seq := by
  induction rs using dropRepeated.induct with
  | case1 => simp [dropRepeated_nil]
  | case2 s => simp [dropRepeated_singleton]
  | case3 s t rest same ih =>
    rw [dropRepeated, if_pos same]
    obtain ⟨hs, ht⟩ := List.pairwise_cons.mp h
    exact ih (List.pairwise_cons.mpr ⟨fun u hu => hs u (by simp [hu]), (List.pairwise_cons.mp ht).2⟩)
  | case4 s t rest other ih =>
    rw [dropRepeated, if_neg other]
    obtain ⟨hs, ht⟩ := List.pairwise_cons.mp h
    refine List.pairwise_cons.mpr ⟨fun u hu => ?_, ih ht⟩
    have first : s.seq < t.seq := lt_of_le_of_ne (hs t (by simp)) (by simpa using other)
    rcases List.mem_cons.mp (mem_of_mem_dropRepeated hu) with rfl | hu
    · exact first
    · exact first.trans_le ((List.pairwise_cons.mp ht).1 u hu)

/-! ## Sorting -/

theorem pairwise_sorted (rs : List Record) :
    (rs.mergeSort fun r s => r.seq ≤ s.seq).Pairwise fun r s => r.seq ≤ s.seq := by
  have sorted : (rs.mergeSort fun r s => r.seq ≤ s.seq).Pairwise fun r s => decide (r.seq ≤ s.seq) = true :=
    List.pairwise_mergeSort (fun a b c hab hbc => by simp only [decide_eq_true_eq] at hab hbc ⊢; omega)
      (fun a b => by simp only [Bool.or_eq_true, decide_eq_true_eq]; omega) rs
  exact sorted.imp fun h => by simpa using h

/-- Sorting keeps the records of one number in their order. -/
theorem filter_sorted (rs : List Record) (n : Nat) :
    (rs.mergeSort fun r s => r.seq ≤ s.seq).filter (·.seq == n) = rs.filter (·.seq == n) := by
  have same : (rs.filter (·.seq == n)).Pairwise fun r s => decide (r.seq ≤ s.seq) = true := by
    refine List.pairwise_of_forall_mem_list ?_
    intro r hr s hs
    have hr := (List.mem_filter.mp hr).2
    have hs := (List.mem_filter.mp hs).2
    simp only [beq_iff_eq] at hr hs
    simp [hr, hs]
  have inside : List.Sublist (rs.filter (·.seq == n)) (rs.mergeSort fun r s => r.seq ≤ s.seq) :=
    List.sublist_mergeSort (fun a b c hab hbc => by simp only [decide_eq_true_eq] at hab hbc ⊢; omega)
      (fun a b => by simp only [Bool.or_eq_true, decide_eq_true_eq]; omega) same List.filter_sublist
  have filtered := inside.filter (·.seq == n)
  rw [List.filter_filter] at filtered
  simp only [Bool.and_self] at filtered
  exact (filtered.eq_of_length (((List.mergeSort_perm rs _).filter _).length_eq.symm)).symm

/-! ## The records of a journal -/

/-- The records are in strictly increasing order. -/
theorem pairwise_inOrder (rs : List Record) : (inOrder rs).Pairwise fun r s => r.seq < s.seq :=
  pairwise_dropRepeated (pairwise_sorted rs)

/-- So are those of a journal that can be read. -/
theorem pairwise_of_records {d : Disk} {path : String} {rs : List Record} (h : records d path = .ok rs) :
    rs.Pairwise fun r s => r.seq < s.seq := by
  rw [records] at h
  split at h
  · exact absurd h (by simp)
  · split at h
    · exact absurd h (by simp)
    · exact Except.ok.inj h ▸ pairwise_inOrder _

/-- Under every number the first record of that number is read. -/
theorem find?_inOrder (rs : List Record) (n : Nat) : (inOrder rs).find? (·.seq == n) = rs.find? (·.seq == n) := by
  rw [inOrder, find?_dropRepeated, ← List.head?_filter, filter_sorted, List.head?_filter]

/-- In strictly increasing order no two records share a number. -/
theorem eq_of_seq_eq {rs : List Record} (h : rs.Pairwise fun r s => r.seq < s.seq) {r s : Record} (hr : r ∈ rs)
    (hs : s ∈ rs) (hseq : s.seq = r.seq) : s = r := by
  by_contra hne
  have apart : rs.Pairwise fun r s => r.seq ≠ s.seq := h.imp fun hlt => hlt.ne
  have symmetric : Std.Symm fun r s : Record => r.seq ≠ s.seq := ⟨fun _ _ => Ne.symm⟩
  exact apart.forall hs hr hne hseq

theorem mem_iff_find? {rs : List Record} (h : rs.Pairwise fun r s => r.seq < s.seq) (r : Record) :
    r ∈ rs ↔ rs.find? (·.seq == r.seq) = some r := by
  refine ⟨fun hr => ?_, List.mem_of_find?_eq_some⟩
  cases hs : rs.find? (·.seq == r.seq) with
  | none => exact absurd (List.find?_eq_none.mp hs r hr) (by simp)
  | some s =>
    have hseq : s.seq = r.seq := by simpa using List.find?_some hs
    rw [eq_of_seq_eq h hr (List.mem_of_find?_eq_some hs) hseq]

/-- A record is read if and only if it is the first one of its number. -/
theorem mem_inOrder_iff {rs : List Record} {r : Record} :
    r ∈ inOrder rs ↔ rs.find? (·.seq == r.seq) = some r := by
  rw [mem_iff_find? (pairwise_inOrder rs), find?_inOrder]

theorem mem_of_mem_inOrder {rs : List Record} {r : Record} (h : r ∈ inOrder rs) : r ∈ rs :=
  List.mem_of_find?_eq_some (mem_inOrder_iff.mp h)

/-- No number is lost. -/
theorem exists_mem_inOrder {rs : List Record} {r : Record} (h : r ∈ rs) : ∃ s ∈ inOrder rs, s.seq = r.seq := by
  cases hs : rs.find? (·.seq == r.seq) with
  | none => exact absurd (List.find?_eq_none.mp hs r h) (by simp)
  | some s =>
    have hseq : s.seq = r.seq := by simpa using List.find?_some hs
    refine ⟨s, mem_inOrder_iff.mpr ?_, hseq⟩
    rwa [hseq]

/-- Records in strictly increasing order are determined by what they are. -/
theorem eq_of_pairwise {rs qs : List Record} (hr : rs.Pairwise fun r s => r.seq < s.seq)
    (hq : qs.Pairwise fun r s => r.seq < s.seq) (h : ∀ r, r ∈ rs ↔ r ∈ qs) : rs = qs := by
  have distinct {ts : List Record} (ht : ts.Pairwise fun r s => r.seq < s.seq) : ts.Nodup :=
    ht.imp fun hlt heq => absurd hlt (by rw [heq]; exact lt_irrefl _)
  refine List.Perm.eq_of_pairwise (fun a b _ _ hab hba => absurd (hab.trans hba) (lt_irrefl _)) hr hq ?_
  exact (List.perm_ext_iff_of_nodup (distinct hr) (distinct hq)).mpr h

/-- Records that are in strictly increasing order stay as they are. -/
theorem inOrder_of_pairwise {rs : List Record} (h : rs.Pairwise fun r s => r.seq < s.seq) : inOrder rs = rs :=
  eq_of_pairwise (pairwise_inOrder rs) h fun r => by rw [mem_inOrder_iff, ← mem_iff_find? h]

/-- No record in order has a number above the highest one. -/
theorem seq_le_highest {rs : List Record} (h : rs.Pairwise fun r s => r.seq < s.seq) {r : Record} (hr : r ∈ rs) :
    r.seq ≤ highest rs := by
  induction rs using List.reverseRecOn with
  | nil => simp at hr
  | append_singleton rs s _ =>
    have last : highest (rs ++ [s]) = s.seq := by simp [highest]
    rw [last]
    rcases List.mem_append.mp hr with hr | hr
    · exact ((List.pairwise_append.mp h).2.2 r hr s (by simp)).le
    · rw [List.mem_singleton.mp hr]

end Blotter.JournalFile
