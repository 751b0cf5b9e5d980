import Mathlib
import Blotter.Proofs.Repeats
import Blotter.Proofs.Replay

/-!
# Fills that are replayed

- The fills that a replay knows are the distinct ones: of several fills of one execution only the first is kept
  (`Fill.distinct`, `Fill.distinct_eq_eraseDupsBy`, `exists_fills_eq_distinct`).
- The fills of a position lead to it one after the other (`Position.ofFills`). Where they lead to is settled by the
  first of them that cannot be booked (`Position.ofFills_append_error`).
- The positions that a replay shows are those that are not flat (`mem_openPositions`).
-/

namespace Blotter

/-- The fill that an event is. -/
def Event.fill? : Event → Option Fill
  | .fill f => some f
  | .command _ | .order _ | .orderReject _ _ | .sessionState _ | .sessionMessage _ | .fillCopy _ | .pnlSnapshot _
  | .messagingStats _ => none

/-! ## Fills, each execution once -/

namespace Fill

/-- Fills with one more, unless its execution is known. -/
def keep (fills : List Fill) (f : Fill) : List Fill :=
  if fills.any (·.execId == f.execId) then fills else fills ++ [f]

/-- The fills of which the execution is not that of an earlier one. -/
def distinct (fills : List Fill) : List Fill := fills.foldl keep []

variable {fills : List Fill} {f : Fill}

theorem distinct_concat (fills : List Fill) (f : Fill) : distinct (fills ++ [f]) = keep (distinct fills) f :=
  List.foldl_concat ..

theorem nodup_execIds_keep (h : (fills.map (·.execId)).Nodup) (f : Fill) :
    ((keep fills f).map (·.execId)).Nodup := by
  unfold keep
  split
  · exact h
  · rename_i unknown
    rw [List.map_append, List.nodup_append]
    refine ⟨h, by simp, ?_⟩
    rintro e known e' new rfl
    obtain ⟨g, hg, rfl⟩ := List.mem_map.mp known
    rw [List.map_singleton, List.mem_singleton] at new
    exact unknown (List.any_eq_true.mpr ⟨g, hg, beq_iff_eq.mpr new⟩)

/-- No execution counts twice. -/
theorem nodup_execIds_distinct (fills : List Fill) : ((distinct fills).map (·.execId)).Nodup := by
  induction fills using List.reverseRecOn with
  | nil => exact List.nodup_nil
  | append_singleton fills f ih =>
    rw [distinct_concat]
    exact nodup_execIds_keep ih f

/-- Fills of distinct executions are all kept. -/
theorem distinct_of_nodup (h : (fills.map (·.execId)).Nodup) : distinct fills = fills := by
  induction fills using List.reverseRecOn with
  | nil => rfl
  | append_singleton fills f ih =>
    rw [List.map_append, List.nodup_append] at h
    obtain ⟨old, -, apart⟩ := h
    have unknown : ¬fills.any (·.execId == f.execId) = true := by
      intro known
      obtain ⟨g, hg, same⟩ := List.any_eq_true.mp known
      exact apart g.execId (List.mem_map.mpr ⟨g, hg, rfl⟩) f.execId (by simp) (beq_iff_eq.mp same)
    rw [distinct_concat, ih old, keep, if_neg unknown]

/-- They are the first fills of their executions. -/
theorem distinct_eq_eraseDupsBy (fills : List Fill) :
    distinct fills = fills.eraseDupsBy fun f g => f.execId == g.execId := by
  induction fills using List.reverseRecOn with
  | nil => rfl
  | append_singleton fills f ih =>
    rw [distinct_concat, ih, keep, any_eraseDupsBy Fill.execId, eraseDupsBy_concat Fill.execId]

/-- What is kept stays, whatever comes later. -/
theorem exists_distinct_append (fills later : List Fill) :
    ∃ more, distinct (fills ++ later) = distinct fills ++ more := by
  induction later using List.reverseRecOn with
  | nil => exact ⟨[], by rw [List.append_nil, List.append_nil]⟩
  | append_singleton later f ih =>
    obtain ⟨more, before⟩ := ih
    rw [← List.append_assoc, distinct_concat, before, keep]
    split
    · exact ⟨more, rfl⟩
    · exact ⟨more ++ [f], List.append_assoc ..⟩

end Fill

/-! ## Where fills lead to -/

namespace Position

/-- Where the fills of one position lead to, one after the other. -/
def ofFills (key : PositionKey) (fills : List Fill) : Except Overflow Position :=
  (fills.filter (·.positionKey == key)).foldlM applyFill (.flat key)

variable {key : PositionKey} {fills : List Fill} {p : Position} {o : Overflow}

/-- One more fill of the position. -/
theorem ofFills_concat_self (fills : List Fill) (f : Fill) :
    ofFills f.positionKey (fills ++ [f]) = ofFills f.positionKey fills >>= fun p => p.applyFill f := by
  unfold ofFills
  rw [List.filter_append, List.filter_cons_of_pos (by simp), List.filter_nil, foldlM_concat]

/-- A fill of another position changes nothing. -/
theorem ofFills_concat_ne {f : Fill} (other : f.positionKey ≠ key) (fills : List Fill) :
    ofFills key (fills ++ [f]) = ofFills key fills := by
  unfold ofFills
  rw [List.filter_append, List.filter_cons_of_neg (by simpa using other), List.filter_nil, List.append_nil]

/-- After a fill that cannot be booked the others do not count. -/
theorem ofFills_append_error (failed : ofFills key fills = .error o) (later : List Fill) :
    ofFills key (fills ++ later) = .error o := by
  unfold ofFills at failed ⊢
  rw [List.filter_append, List.foldlM_append, failed]
  rfl

/-- Fills of other positions lead nowhere. -/
theorem ofFills_of_forall_ne (others : ∀ f ∈ fills, f.positionKey ≠ key) : ofFills key fills = .ok (.flat key) := by
  unfold ofFills
  rw [List.filter_eq_nil_iff.mpr fun f hf => by simpa using others f hf]
  rfl

/-- A position that fills lead to stays under its key. -/
theorem key_ofFills (h : ofFills key fills = .ok p) : p.key = key := by
  induction fills using List.reverseRecOn generalizing p with
  | nil => exact Except.ok.inj h ▸ rfl
  | append_singleton fills f ih =>
    by_cases same : f.positionKey = key
    · rw [← same, ofFills_concat_self] at h
      obtain ⟨q, before, booked⟩ := exists_of_bind_eq_ok h
      exact (key_apply booked).trans (ih (same ▸ before))
    · rw [ofFills_concat_ne same] at h
      exact ih h

end Position

/-! ## Fills of a replay -/

namespace Replay

variable {rs : List Record} {s s' : Replay}

theorem fills_of_applyFill {f : Fill} (applied : s.applyFill f = .ok s') : s'.fills = Fill.keep s.fills f := by
  unfold Fill.keep
  rcases applyFill_ok applied with ⟨known, rfl⟩ | ⟨unknown, p, -, rfl⟩
  · exact (if_pos known).symm
  · exact (if_neg (ne_true_of_eq_false unknown)).symm

theorem applyEvent_fills {seq : Nat} {e : Event} (applied : s.applyEvent seq e = .ok s') :
    (∃ f, e = .fill f ∧ s.applyFill f = .ok s') ∨
      e.fill? = none ∧ s'.fills = s.fills ∧ s'.positions = s.positions := by
  cases e with
  | fill f => exact .inl ⟨f, rfl, applied⟩
  | _ =>
    obtain rfl := Except.ok.inj applied
    exact .inr ⟨rfl, rfl, rfl⟩

/-- The fills that are known are the distinct ones among those that were recorded. -/
theorem exists_fills_eq_distinct (replayed : ofRecords rs = .ok s) : ∃ fills, s.fills = Fill.distinct fills := by
  induction rs using List.reverseRecOn generalizing s with
  | nil =>
    obtain rfl := Except.ok.inj replayed
    exact ⟨[], rfl⟩
  | append_singleton rs r ih =>
    obtain ⟨t, before, applied⟩ := ofRecords_concat_ok replayed
    obtain ⟨fills, known⟩ := ih before
    rw [Replay.apply] at applied
    split at applied
    · exact ⟨fills, Except.ok.inj applied ▸ known⟩
    · rcases applyEvent_fills applied with ⟨f, -, applied⟩ | ⟨-, same, -⟩
      · have kept : s.fills = Fill.keep t.fills f := (fills_of_applyFill applied :)
        exact ⟨fills ++ [f], by rw [Fill.distinct_concat, ← known, kept]⟩
      · exact ⟨fills, same.trans known⟩

/-- The executions that are known are distinct. -/
theorem nodup_execIds (replayed : ofRecords rs = .ok s) : (s.fills.map (·.execId)).Nodup := by
  obtain ⟨fills, known⟩ := exists_fills_eq_distinct replayed
  rw [known]
  exact Fill.nodup_execIds_distinct fills

/-! ## Positions of a replay -/

/-- A fill that is booked changes its own position only. -/
theorem position_insert (s : Replay) (f : Fill) (p : Position) (key : PositionKey) :
    ({ s with fills := s.fills ++ [f], positions := s.positions.insert f.positionKey p } : Replay).position key =
      if key = f.positionKey then p else s.position key := by
  rw [position, Table.find?_insert]
  split
  · rfl
  · rfl

/-- The positions of an account that are shown are those that are not flat, if every position has its key. -/
theorem mem_openPositions (sorted : s.positions.Sorted) (keyed : ∀ key, (s.position key).key = key)
    {account : AccountId} {p : Position} :
    p ∈ s.openPositions account ↔ p.account = account ∧ p.isFlat = false ∧ s.position p.key = p := by
  rw [openPositions, List.mem_map]
  constructor
  · rintro ⟨⟨key, q⟩, chosen, rfl⟩
    obtain ⟨found, chosen⟩ := List.mem_filter.mp chosen
    rw [Bool.and_eq_true, beq_iff_eq, Bool.not_eq_true'] at chosen
    have here : s.position key = q := by rw [position, sorted.mem_iff.mp found, Option.getD_some]
    have own : q.key = key := here ▸ keyed key
    exact ⟨(congrArg PositionKey.account own).trans chosen.1, chosen.2, own ▸ here⟩
  · rintro ⟨own, held, here⟩
    have found : s.positions.find? p.key = some p := by
      rw [position] at here
      cases found : s.positions.find? p.key with
      | some q => exact congrArg some (by rw [← here, found, Option.getD_some])
      | none =>
        rw [found, Option.getD_none] at here
        rw [← here] at held
        cases held
    refine ⟨(p.key, p), List.mem_filter.mpr ⟨sorted.mem_iff.mpr found, ?_⟩, rfl⟩
    rw [Bool.and_eq_true, beq_iff_eq, Bool.not_eq_true']
    exact ⟨own, held⟩

end Replay

end Blotter
