import Mathlib
import Blotter.Database.Tables

/-!
# Tables and their keys

- What is found after a change: `find?_insert`, `find?_erase`. Neither needs the rows to be in order.
- The rows stay in the order of their keys (`Sorted.insert`, `Sorted.erase`). Then the rows are those that are found
  (`Sorted.mem_iff`), so tables that find the same rows are equal (`Sorted.ext`).
- Two tables whose rows belong together stay so when rows that belong together are inserted (`Related.insert`), and the
  same can be read from both (`Related.find?`, `Related.filter_map`).
- The keys of the tables are compared by linear orders, the texts by their code points.
-/

namespace Blotter

namespace Table

variable {κ ρ σ : Type}

section Rows

variable [Ord κ]

/-- Whether the rows stand in the order of their keys, one under each key. -/
def Sorted (t : Table κ ρ) : Prop := t.entries.Pairwise fun a b => compare a.1 b.1 = .lt

theorem find?_empty (k : κ) : (empty : Table κ ρ).find? k = none := rfl

theorem sorted_empty : (empty : Table κ ρ).Sorted := List.Pairwise.nil

variable {t u : Table κ ρ} {k k' : κ} {r : ρ}

theorem mem_insertIn {e : κ × ρ} {rows : List (κ × ρ)} (h : e ∈ insertIn k r rows) : e = (k, r) ∨ e ∈ rows := by
  induction rows with
  | nil => exact .inl (by simpa [insertIn] using h)
  | cons row rest ih =>
    obtain ⟨k', r'⟩ := row
    rw [insertIn] at h
    cases hc : compare k k' with
    | lt =>
      rw [hc] at h
      exact List.mem_cons.mp h
    | eq =>
      rw [hc] at h
      exact (List.mem_cons.mp h).imp_right (List.mem_cons_of_mem _)
    | gt =>
      rw [hc] at h
      rcases List.mem_cons.mp h with rfl | h
      · exact .inr List.mem_cons_self
      · exact (ih h).imp_right (List.mem_cons_of_mem _)

theorem Sorted.erase (h : t.Sorted) (k : κ) : (t.erase k).Sorted := List.Pairwise.filter _ h

/-- A row above all others is found nowhere and stands at the end. -/
theorem find?_of_above (h : ∀ e ∈ t.entries, compare k e.1 = .gt) : t.find? k = none := by
  obtain ⟨rows⟩ := t
  rw [find?]
  induction rows with
  | nil => rfl
  | cons row rest ih =>
    rw [findIn, h row (by simp), if_neg (by decide)]
    exact ih fun e he => h e (List.mem_cons_of_mem _ he)

theorem entries_insert_of_above (h : ∀ e ∈ t.entries, compare k e.1 = .gt) (r : ρ) :
    (t.insert k r).entries = t.entries ++ [(k, r)] := by
  obtain ⟨rows⟩ := t
  rw [Table.insert]
  induction rows with
  | nil => rfl
  | cons row rest ih =>
    rw [insertIn, h row (by simp)]
    exact congrArg (row :: ·) (ih fun e he => h e (List.mem_cons_of_mem _ he))

variable [Std.LawfulEqOrd κ]

theorem Sorted.nodup (h : t.Sorted) : t.entries.Nodup := by
  refine h.imp fun {a b} below same => ?_
  rw [same, Std.compare_self] at below
  exact absurd below (by decide)

theorem findIn_cons_ne (h : k ≠ k') (r : ρ) (rest : List (κ × ρ)) : findIn k ((k', r) :: rest) = findIn k rest := by
  rw [findIn, if_neg (by simpa using h)]

theorem findIn_cons_self (k : κ) (r : ρ) (rest : List (κ × ρ)) : findIn k ((k, r) :: rest) = some r := by
  rw [findIn, Std.compare_self, if_pos (by decide)]

theorem findIn_insertIn_self (k : κ) (r : ρ) (rows : List (κ × ρ)) : findIn k (insertIn k r rows) = some r := by
  induction rows with
  | nil => exact findIn_cons_self k r []
  | cons row rest ih =>
    obtain ⟨k', r'⟩ := row
    rw [insertIn]
    cases hc : compare k k' with
    | lt => exact findIn_cons_self k r _
    | eq => exact findIn_cons_self k r _
    | gt =>
      have hne : k ≠ k' := by
        rintro rfl
        rw [Std.compare_self] at hc
        exact absurd hc (by decide)
      simp only
      rw [findIn_cons_ne hne, ih]

theorem findIn_insertIn_ne (h : k' ≠ k) (r : ρ) (rows : List (κ × ρ)) :
    findIn k' (insertIn k r rows) = findIn k' rows := by
  induction rows with
  | nil => exact findIn_cons_ne h r []
  | cons row rest ih =>
    obtain ⟨k'', r''⟩ := row
    rw [insertIn]
    cases hc : compare k k'' with
    | lt => exact findIn_cons_ne h r _
    | eq =>
      obtain rfl := Std.LawfulEqCmp.eq_of_compare hc
      simp only
      rw [findIn_cons_ne h, findIn_cons_ne h]
    | gt =>
      simp only
      rw [findIn, findIn, ih]

theorem find?_insert_self (t : Table κ ρ) (k : κ) (r : ρ) : (t.insert k r).find? k = some r :=
  findIn_insertIn_self k r t.entries

theorem find?_insert_ne (h : k' ≠ k) (t : Table κ ρ) (r : ρ) : (t.insert k r).find? k' = t.find? k' :=
  findIn_insertIn_ne h r t.entries

/-- Under the key of a new row the new row is found, under any other key what was there. -/
theorem find?_insert [DecidableEq κ] (t : Table κ ρ) (k k' : κ) (r : ρ) :
    (t.insert k r).find? k' = if k' = k then some r else t.find? k' := by
  split
  · rename_i h
    rw [h, find?_insert_self]
  · rename_i h
    rw [find?_insert_ne h]

theorem findIn_filter_ne (k k' : κ) (rows : List (κ × ρ)) :
    findIn k' (rows.filter fun e => compare k e.1 != .eq) = if compare k k' = .eq then none else findIn k' rows := by
  induction rows with
  | nil => simp [findIn]
  | cons row rest ih =>
    obtain ⟨k'', r''⟩ := row
    by_cases hk : k = k''
    · subst hk
      rw [List.filter_cons_of_neg (by simp), ih]
      by_cases hk' : k = k'
      · simp [hk']
      · rw [findIn_cons_ne (Ne.symm hk')]
    · rw [List.filter_cons_of_pos (by simpa using hk)]
      by_cases hk' : k' = k''
      · subst hk'
        rw [findIn_cons_self, findIn_cons_self, if_neg (by simpa using hk)]
      · rw [findIn_cons_ne hk', findIn_cons_ne hk', ih]

/-- Under the key of an erased row nothing is found, under any other key what was there. -/
theorem find?_erase [DecidableEq κ] (t : Table κ ρ) (k k' : κ) :
    (t.erase k).find? k' = if k' = k then none else t.find? k' := by
  rw [find?, erase, findIn_filter_ne]
  by_cases h : k = k'
  · rw [if_pos (by simpa using h), if_pos h.symm]
  · rw [if_neg (by simpa using h), if_neg (Ne.symm h), find?]

theorem eq_or_of_find?_insert [DecidableEq κ] {t : Table κ ρ} {k k' : κ} {r q : ρ}
    (found : (t.insert k r).find? k' = some q) : q = r ∨ t.find? k' = some q := by
  rw [find?_insert] at found
  split at found
  · exact .inl (Option.some.inj found).symm
  · exact .inr found

theorem of_find?_erase [DecidableEq κ] {t : Table κ ρ} {k k' : κ} {q : ρ}
    (found : (t.erase k).find? k' = some q) : t.find? k' = some q := by
  rw [find?_erase] at found
  split at found
  · cases found
  · exact found

theorem isSome_find?_insert [DecidableEq κ] (t : Table κ ρ) (k k' : κ) (r : ρ) :
    ((t.insert k r).find? k').isSome ↔ k = k' ∨ (t.find? k').isSome := by
  rw [find?_insert]
  split
  · rename_i h
    simp [h]
  · rename_i h
    simp [Ne.symm h]

theorem contains_insert [DecidableEq κ] (t : Table κ ρ) (k k' : κ) (r : ρ) :
    (t.insert k r).contains k' = (t.contains k' || k == k') := by
  rw [contains, contains, Bool.eq_iff_iff, isSome_find?_insert, Bool.or_eq_true, beq_iff_eq, or_comm]

theorem isSome_find?_erase [DecidableEq κ] (t : Table κ ρ) (k k' : κ) :
    ((t.erase k).find? k').isSome ↔ (t.find? k').isSome ∧ k ≠ k' := by
  rw [find?_erase]
  split
  · rename_i h
    simp [h]
  · rename_i h
    simp [Ne.symm h]

/-- A row that is not there need not be erased. -/
theorem erase_of_find?_eq_none (h : t.find? k = none) : t.erase k = t := by
  obtain ⟨rows⟩ := t
  rw [find?] at h
  rw [erase, mk.injEq, List.filter_eq_self]
  intro e he
  induction rows with
  | nil => simp at he
  | cons row rest ih =>
    obtain ⟨k', r'⟩ := row
    by_cases hk : k = k'
    · rw [hk, findIn_cons_self] at h
      exact absurd h (by simp)
    · rw [findIn_cons_ne hk] at h
      rcases List.mem_cons.mp he with rfl | he
      · simpa using hk
      · exact ih h he

/-! ## The order of the rows -/

/-- The rows are those that are found. -/
theorem Sorted.mem_iff (h : t.Sorted) : (k, r) ∈ t.entries ↔ t.find? k = some r := by
  obtain ⟨rows⟩ := t
  rw [Sorted] at h
  simp only [find?]
  induction rows with
  | nil => simp [findIn]
  | cons row rest ih =>
    obtain ⟨k', r'⟩ := row
    obtain ⟨first, later⟩ := List.pairwise_cons.mp h
    by_cases hk : k = k'
    · subst hk
      rw [findIn_cons_self, List.mem_cons]
      refine ⟨fun hm => ?_, fun hr => .inl (by rw [Option.some.inj hr])⟩
      rcases hm with hm | hm
      · rw [(Prod.mk.inj hm).2]
      · have below := first _ hm
        rw [Std.compare_self] at below
        exact absurd below (by decide)
    · rw [findIn_cons_ne hk, ← ih later, List.mem_cons]
      simp [hk]

theorem Sorted.mem_rows_iff (h : t.Sorted) : r ∈ t.rows ↔ ∃ k, t.find? k = some r := by
  rw [rows, List.mem_map]
  constructor
  · rintro ⟨e, he, rfl⟩
    exact ⟨e.1, h.mem_iff.mp he⟩
  · rintro ⟨k, hk⟩
    exact ⟨(k, r), h.mem_iff.mpr hk, rfl⟩

/-- Rows that tell their own keys tell different ones. -/
theorem Sorted.nodup_rows (h : t.Sorted) {key : ρ → κ} (keyed : ∀ k r, t.find? k = some r → key r = k) :
    (t.rows.map key).Nodup := by
  have keys : t.rows.map key = t.entries.map (·.1) := by
    rw [rows, List.map_map]
    exact List.map_congr_left fun e he => keyed e.1 e.2 (h.mem_iff.mp he)
  rw [keys, List.Nodup, List.pairwise_map]
  refine h.imp fun {a b} below same => ?_
  rw [same, Std.compare_self] at below
  exact absurd below (by decide)

variable [Std.TransOrd κ]

theorem Sorted.insert (h : t.Sorted) (k : κ) (r : ρ) : (t.insert k r).Sorted := by
  obtain ⟨rows⟩ := t
  rw [Sorted, Table.insert]
  rw [Sorted] at h
  induction rows with
  | nil => exact List.pairwise_singleton _ _
  | cons row rest ih =>
    obtain ⟨k', r'⟩ := row
    obtain ⟨first, later⟩ := List.pairwise_cons.mp h
    rw [insertIn]
    cases hc : compare k k' with
    | lt =>
      refine List.pairwise_cons.mpr ⟨fun e he => ?_, h⟩
      rcases List.mem_cons.mp he with rfl | he
      · exact hc
      · exact Std.TransCmp.lt_trans hc (first e he)
    | eq =>
      obtain rfl := Std.LawfulEqCmp.eq_of_compare hc
      exact List.pairwise_cons.mpr ⟨first, later⟩
    | gt =>
      refine List.pairwise_cons.mpr ⟨fun e he => ?_, ih later⟩
      rcases mem_insertIn he with rfl | he
      · exact Std.OrientedCmp.lt_of_gt hc
      · exact first e he

/-- Lists of rows in the order of the keys are equal if they have the same rows. -/
theorem eq_of_mem_iff {rows rows' : List (κ × ρ)} (h : rows.Pairwise fun a b => compare a.1 b.1 = .lt)
    (h' : rows'.Pairwise fun a b => compare a.1 b.1 = .lt) (same : ∀ e, e ∈ rows ↔ e ∈ rows') : rows = rows' := by
  have perm : rows.Perm rows' :=
    (List.perm_ext_iff_of_nodup (Sorted.nodup (t := ⟨rows⟩) h) (Sorted.nodup (t := ⟨rows'⟩) h')).mpr same
  refine perm.eq_of_pairwise (fun a b _ _ hab hba => ?_) h h'
  rw [Std.OrientedCmp.gt_of_lt hab] at hba
  exact absurd hba (by decide)

/-- Tables that find the same rows are equal. -/
theorem Sorted.ext (ht : t.Sorted) (hu : u.Sorted) (same : ∀ k, t.find? k = u.find? k) : t = u := by
  obtain ⟨rows⟩ := t
  obtain ⟨rows'⟩ := u
  congr 1
  refine eq_of_mem_iff ht hu fun e => ?_
  rw [Sorted.mem_iff (k := e.1) (r := e.2) ht, Sorted.mem_iff (k := e.1) (r := e.2) hu, same]

end Rows

/-! ## Tables that belong together -/

/-- Whether two tables have rows under the same keys, and rows under one key belong together. -/
def Related (R : κ → ρ → σ → Prop) (t : Table κ ρ) (u : Table κ σ) : Prop :=
  List.Forall₂ (fun a b => a.1 = b.1 ∧ R a.1 a.2 b.2) t.entries u.entries

section Related

variable {R : κ → ρ → σ → Prop} {t : Table κ ρ} {u : Table κ σ} {k : κ} {r : ρ} {x : σ}

/-- What is read from the chosen rows is the same if it is the same for rows that belong together. -/
theorem Related.filter_map {α : Type} {p : κ × ρ → Bool} {q : σ → Bool} {f : κ × ρ → α} {g : σ → α}
    (h : Related R t u) (chosen : ∀ k r x, R k r x → p (k, r) = q x)
    (same : ∀ k r x, R k r x → p (k, r) = true → f (k, r) = g x) :
    (t.entries.filter p).map f = (u.rows.filter q).map g := by
  obtain ⟨rows⟩ := t
  obtain ⟨rows'⟩ := u
  rw [Related] at h
  rw [Table.rows]
  simp only at h ⊢
  induction h with
  | nil => rfl
  | @cons a b as bs first rest ih =>
    obtain ⟨k, r⟩ := a
    obtain ⟨_, x⟩ := b
    obtain ⟨rfl, old⟩ := first
    rw [List.map_cons, List.filter_cons, List.filter_cons, ← chosen k r x old]
    cases hp : p (k, r) with
    | true => rw [if_pos rfl, if_pos rfl, List.map_cons, List.map_cons, same k r x old hp, ih]
    | false => exact ih

variable [Ord κ]

theorem Related.insert (h : Related R t u) (new : R k r x) : Related R (t.insert k r) (u.insert k x) := by
  obtain ⟨rows⟩ := t
  obtain ⟨rows'⟩ := u
  rw [Related] at h ⊢
  rw [Table.insert, Table.insert]
  simp only at h ⊢
  induction h with
  | nil => exact .cons ⟨rfl, new⟩ .nil
  | @cons a b as bs first rest ih =>
    obtain ⟨k', r'⟩ := a
    obtain ⟨_, x'⟩ := b
    obtain ⟨rfl, old⟩ := first
    rw [insertIn, insertIn]
    cases compare k k' with
    | lt => exact .cons ⟨rfl, new⟩ (.cons ⟨rfl, old⟩ rest)
    | eq => exact .cons ⟨rfl, new⟩ rest
    | gt => exact .cons ⟨rfl, old⟩ ih

/-- Under a key either both tables have a row or none has. -/
theorem Related.find? [Std.LawfulEqOrd κ] (h : Related R t u) (k : κ) :
    (t.find? k = none ∧ u.find? k = none) ∨ ∃ r x, t.find? k = some r ∧ u.find? k = some x ∧ R k r x := by
  obtain ⟨rows⟩ := t
  obtain ⟨rows'⟩ := u
  rw [Related] at h
  rw [Table.find?, Table.find?]
  simp only at h ⊢
  induction h with
  | nil => exact .inl ⟨rfl, rfl⟩
  | @cons a b as bs first rest ih =>
    obtain ⟨k', r'⟩ := a
    obtain ⟨_, x'⟩ := b
    obtain ⟨rfl, old⟩ := first
    by_cases hk : k = k'
    · subst hk
      rw [findIn_cons_self, findIn_cons_self]
      exact .inr ⟨r', x', rfl, rfl, old⟩
    · rw [findIn_cons_ne hk, findIn_cons_ne hk]
      exact ih

end Related

end Table

/-! ## Keys -/

instance : Std.TransOrd OrderId := inferInstanceAs (Std.TransCmp (compareOn OrderId.name))
instance : Std.TransOrd AccountId := inferInstanceAs (Std.TransCmp (compareOn AccountId.name))
instance : Std.TransOrd StrategyId := inferInstanceAs (Std.TransCmp (compareOn StrategyId.name))
instance : Std.TransOrd InstrumentId := inferInstanceAs (Std.TransCmp (compareOn InstrumentId.name))
instance : Std.TransOrd ExecId := inferInstanceAs (Std.TransCmp (compareOn ExecId.name))

instance : Std.TransOrd PositionKey :=
  inferInstanceAs <| Std.TransCmp <| compareLex (compareOn PositionKey.account) <|
    compareLex (compareOn PositionKey.strategy) (compareOn PositionKey.instrument)

instance : Std.TransOrd SessionKey :=
  inferInstanceAs <| Std.TransCmp <| compareLex (compareOn SessionKey.senderCompId) <|
    compareLex (compareOn SessionKey.targetCompId) <|
    compareLex (compareOn SessionKey.year) (compareOn SessionKey.week)

instance : Std.TransOrd Database.SessionRowKey :=
  inferInstanceAs <| Std.TransCmp <| compareLex (compareOn Database.SessionRowKey.senderCompId) <|
    compareLex (compareOn Database.SessionRowKey.targetCompId) <|
    compareLex (compareOn Database.SessionRowKey.year) (compareOn Database.SessionRowKey.week)

instance : Std.LawfulEqOrd OrderId where
  eq_of_compare h := congrArg OrderId.mk (Std.LawfulEqOrd.eq_of_compare (α := String) h)

instance : Std.LawfulEqOrd AccountId where
  eq_of_compare h := congrArg AccountId.mk (Std.LawfulEqOrd.eq_of_compare (α := String) h)

instance : Std.LawfulEqOrd StrategyId where
  eq_of_compare h := congrArg StrategyId.mk (Std.LawfulEqOrd.eq_of_compare (α := String) h)

instance : Std.LawfulEqOrd InstrumentId where
  eq_of_compare h := congrArg InstrumentId.mk (Std.LawfulEqOrd.eq_of_compare (α := String) h)

instance : Std.LawfulEqOrd ExecId where
  eq_of_compare h := congrArg ExecId.mk (Std.LawfulEqOrd.eq_of_compare (α := String) h)

instance : Std.LawfulEqOrd PositionKey where
  eq_of_compare {a b} h := by
    obtain ⟨_, _, _⟩ := a
    obtain ⟨_, _, _⟩ := b
    have fields := Ordering.then_eq_eq.mp h
    rw [Ordering.then_eq_eq] at fields
    simpa using fields

instance : Std.LawfulEqOrd SessionKey where
  eq_of_compare {a b} h := by
    obtain ⟨_, _, _, _⟩ := a
    obtain ⟨_, _, _, _⟩ := b
    have fields := Ordering.then_eq_eq.mp h
    rw [Ordering.then_eq_eq, Ordering.then_eq_eq] at fields
    simpa using fields

instance : Std.LawfulEqOrd Database.SessionRowKey where
  eq_of_compare {a b} h := by
    obtain ⟨_, _, _, _⟩ := a
    obtain ⟨_, _, _, _⟩ := b
    have fields := Ordering.then_eq_eq.mp h
    rw [Ordering.then_eq_eq, Ordering.then_eq_eq] at fields
    simpa using fields

end Blotter
