import Mathlib
import Blotter.Proofs.Position
import Blotter.Proofs.Table
import Blotter.Replay

/-!
# What records add up to

- A record above all earlier ones does to the orders what its event says about one of them (`apply_ok`,
  `applyEvent_orders`).
- In every state that records add up to, the tables are in order, every row stands under its own key, and no number is
  above the last one (`wellFormed_of_ofRecords`). So the open orders of an account are those that are found
  (`mem_openOrders`).
-/

namespace Blotter

/-- The snapshot of an order that a record of the event stands for. -/
def Event.snapshot? : Event → Option Order
  | .order o => some o
  | .orderReject o r => some (o.withStatus .rejected r.rejectedAt)
  | .command _ | .fill _ | .sessionState _ | .sessionMessage _ | .fillCopy _ | .pnlSnapshot _
  | .messagingStats _ => none

namespace Replay

variable {s s' : Replay}

/-- The snapshots after an event. -/
def ordersAfter (t : Table OrderId Snapshot) (seq : Nat) (e : Event) : Table OrderId Snapshot :=
  match e.snapshot? with
  | none => t
  | some o => t.insert o.orderId ⟨seq, o⟩

/-- A fill changes positions, if it changes anything. -/
theorem applyFill_ok {f : Fill} (h : s.applyFill f = .ok s') :
    (s.knowsExecution f.execId = true ∧ s' = s) ∨ (s.knowsExecution f.execId = false ∧
      ∃ p, (s.position f.positionKey).applyFill f = .ok p ∧
        s' = { s with fills := s.fills ++ [f], positions := s.positions.insert f.positionKey p }) := by
  rw [applyFill] at h
  split at h
  · rename_i known
    exact .inl ⟨known, (Except.ok.inj h).symm⟩
  · rename_i unknown
    obtain ⟨p, hp, h⟩ := exists_of_bind_eq_ok h
    exact .inr ⟨by simpa using unknown, p, hp, (Except.ok.inj h).symm⟩

theorem applyEvent_orders {seq : Nat} {e : Event} (h : s.applyEvent seq e = .ok s') :
    s'.orders = ordersAfter s.orders seq e ∧ s'.lastSeq = s.lastSeq := by
  cases e with
  | fill f =>
    rcases applyFill_ok h with ⟨-, rfl⟩ | ⟨-, p, -, rfl⟩
    all_goals exact ⟨rfl, rfl⟩
  | _ =>
    obtain rfl := Except.ok.inj h
    exact ⟨rfl, rfl⟩

/-- What a record that is not covered does. -/
theorem apply_ok {r : Record} (h : s.apply r = .ok s') (new : s.covers r.seq = false) :
    s'.orders = ordersAfter s.orders r.seq r.event ∧ s'.lastSeq = r.seq := by
  rw [apply, new, if_neg (by simp)] at h
  exact applyEvent_orders h

theorem ofRecords_nil : ofRecords [] = .ok empty := rfl

/-- Records are taken one after the other. -/
theorem ofRecords_concat (rs : List Record) (r : Record) :
    ofRecords (rs ++ [r]) = ofRecords rs >>= fun s => s.apply r := foldlM_concat apply empty rs r

theorem ofRecords_concat_ok {rs : List Record} {r : Record} (h : ofRecords (rs ++ [r]) = .ok s') :
    ∃ s, ofRecords rs = .ok s ∧ s.apply r = .ok s' := foldlM_concat_ok h

/-! ## States in order -/

/-- What holds of every state that records add up to. -/
structure WellFormed (s : Replay) : Prop where
  orders_sorted : s.orders.Sorted
  orderId_eq : ∀ k x, s.orders.find? k = some x → x.order.orderId = k

theorem wellFormed_empty : empty.WellFormed :=
  ⟨Table.sorted_empty, fun _ _ h => absurd h (by simp [empty, Table.find?_empty])⟩

theorem WellFormed.ordersAfter (h : s.WellFormed) {seq : Nat} {e : Event}
    (orders : s'.orders = Replay.ordersAfter s.orders seq e) : s'.WellFormed := by
  obtain ⟨sorted, keys⟩ := h
  rw [Replay.ordersAfter] at orders
  cases snapshot : e.snapshot? with
  | none =>
    rw [snapshot] at orders
    exact ⟨orders ▸ sorted, orders ▸ keys⟩
  | some o =>
    rw [snapshot] at orders
    refine ⟨orders ▸ sorted.insert _ _, fun k x hx => ?_⟩
    rw [orders, Table.find?_insert] at hx
    split at hx
    · rename_i hk
      rw [← Option.some.inj hx, hk]
    · exact keys k x hx

theorem WellFormed.apply {r : Record} (h : s.WellFormed) (applied : s.apply r = .ok s') : s'.WellFormed := by
  rw [Replay.apply] at applied
  split at applied
  · exact Except.ok.inj applied ▸ h
  · have same : ({ s with lastSeq := r.seq } : Replay).WellFormed := ⟨h.orders_sorted, h.orderId_eq⟩
    exact same.ordersAfter (applyEvent_orders applied).1

theorem wellFormed_of_ofRecords {rs : List Record} (h : ofRecords rs = .ok s) : s.WellFormed := by
  induction rs using List.reverseRecOn generalizing s with
  | nil => exact Except.ok.inj h ▸ wellFormed_empty
  | append_singleton rs r ih =>
    obtain ⟨t, ht, applied⟩ := ofRecords_concat_ok h
    exact (ih ht).apply applied

/-- The last number is zero or the number of a record. -/
theorem lastSeq_of_ofRecords {rs : List Record} (h : ofRecords rs = .ok s) :
    s.lastSeq = 0 ∨ ∃ r ∈ rs, r.seq = s.lastSeq := by
  induction rs using List.reverseRecOn generalizing s with
  | nil => exact .inl (Except.ok.inj h ▸ rfl)
  | append_singleton rs r ih =>
    obtain ⟨t, ht, applied⟩ := ofRecords_concat_ok h
    cases new : t.covers r.seq with
    | true =>
      rw [apply, new, if_pos rfl] at applied
      obtain rfl := Except.ok.inj applied
      exact (ih ht).imp_right fun ⟨q, hq, hseq⟩ => ⟨q, List.mem_append_left _ hq, hseq⟩
    | false => exact .inr ⟨r, by simp, (apply_ok applied new).2.symm⟩

/-- A number above those of all records is not covered. -/
theorem covers_eq_false {rs : List Record} {n : Nat} (h : ofRecords rs = .ok s) (above : ∀ r ∈ rs, r.seq < n) :
    s.covers n = false := by
  rw [covers, Bool.and_eq_false_iff]
  rcases lastSeq_of_ofRecords h with none | ⟨r, hr, last⟩
  · exact .inr (by simp [none])
  · refine .inl (decide_eq_false ?_)
    have := above r hr
    omega

/-! ## Open orders -/

/-- The open orders of an account are the open ones among the latest snapshots. -/
theorem mem_openOrders (h : s.WellFormed) {account : AccountId} {o : Order} :
    o ∈ s.openOrders account ↔
      ∃ n, s.orders.find? o.orderId = some ⟨n, o⟩ ∧ o.account = account ∧ o.isOpen = true := by
  rw [openOrders]
  simp only [List.mem_map, List.mem_mergeSort, List.mem_filter, Bool.and_eq_true, beq_iff_eq, Table.rows]
  constructor
  · rintro ⟨x, ⟨⟨e, he, rfl⟩, hAccount, hOpen⟩, rfl⟩
    have found := h.orders_sorted.mem_iff.mp he
    refine ⟨e.2.seq, ?_, hAccount, hOpen⟩
    rw [h.orderId_eq e.1 e.2 found]
    exact found
  · rintro ⟨n, found, hAccount, hOpen⟩
    exact ⟨⟨n, o⟩, ⟨⟨(o.orderId, ⟨n, o⟩), h.orders_sorted.mem_iff.mpr found, rfl⟩, hAccount, hOpen⟩, rfl⟩

/-- No two open orders share a name. -/
theorem nodup_openOrders (h : s.WellFormed) (account : AccountId) :
    ((s.openOrders account).map (·.orderId)).Nodup := by
  have names : (s.orders.rows.map (·.order.orderId)).Nodup :=
    h.orders_sorted.nodup_rows h.orderId_eq
  rw [openOrders, List.map_map]
  refine ((List.mergeSort_perm _ _).map _).nodup_iff.mpr ?_
  exact names.sublist (List.filter_sublist.map _)

end Replay

end Blotter
