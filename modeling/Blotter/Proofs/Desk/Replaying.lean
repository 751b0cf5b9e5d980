import Mathlib
import Blotter.Proofs.Decimal.Value
import Blotter.Proofs.Desk.Filling
import Blotter.Proofs.Replay.Fills

/-!
# What events add to a replay

The events that a desk journals stand behind the records that were there before. What a replay of all of them knows is
what the earlier records have led to, carried on event by event (`foldl_of_adds`).

- The latest snapshot of an order is the last one that was added, if there is one (`latest?_of_adds`); and without
  fills a replay never fails (`exists_replay_of_adds`).
- The fills are those from before and the ones that were added, each execution once (`fills_of_adds`).
- The quantity of a position is the sum of what the fills come to, bought units counting positive and sold ones
  negative, if no sum is rounded (`Replay.Booked`, `booked_of_ofRecords`).
-/

namespace Blotter

/-! ## What fills come to -/

/-- What is journaled aside of a request is not a fill. -/
theorem Request.Aside.unfilled {ω ρ σ : Type} {d : Desk ω ρ σ} {q : Request} {e : Event} (h : q.Aside d e) :
    e.fill? = none := by
  rcases h with ⟨command, rfl⟩ | ⟨o, r, -, rfl⟩
  · rfl
  · rfl

namespace Fill

/-- What a fill adds to a position: bought units count positive and sold ones negative. -/
def effect (key : PositionKey) (f : Fill) : ℚ := if f.positionKey = key then f.side.sign * f.quantity.toRat else 0

/-- What fills come to in a position. -/
def net (key : PositionKey) (fills : List Fill) : ℚ := (fills.map (effect key)).sum

@[simp]
theorem net_concat (key : PositionKey) (fills : List Fill) (f : Fill) :
    net key (fills ++ [f]) = net key fills + effect key f := by
  simp [net]

end Fill

/-! ## Events one after the other -/

/-- Records of events, numbered from one. -/
def numbered (es : List Event) : List Record := es.mapIdx fun i e => ⟨i + 1, .epoch, e.kind != .command, e⟩

theorem numbered_concat (es : List Event) (e : Event) :
    numbered (es ++ [e]) = numbered es ++ [⟨es.length + 1, .epoch, e.kind != .command, e⟩] := by
  simp [numbered, List.mapIdx_append]

theorem adds_numbered (es es' : List Event) : Adds (numbered es) es' (numbered (es ++ es')) := by
  induction es' generalizing es with
  | nil =>
    rw [List.append_nil]
    rfl
  | cons e es' ih =>
    refine ⟨⟨es.length + 1, .epoch, e.kind != .command, e⟩, rfl, ?_, ?_⟩
    · intro q hq
      obtain ⟨i, hi, rfl⟩ := List.mem_mapIdx.mp hq
      simpa using hi
    · have later := ih (es ++ [e])
      rwa [numbered_concat, List.append_assoc] at later

theorem adds_numbered_nil (es : List Event) : Adds [] es (numbered es) := adds_numbered [] es

namespace Desk

variable {orderId : OrderId} {es : List Event} {o : Order}

theorem lastSnapshot?_eq_none_iff : lastSnapshot? orderId es = none ↔ ∀ e ∈ es, snapshotOf? orderId e = none := by
  rw [lastSnapshot?, List.getLast?_eq_none_iff, List.filterMap_eq_nil_iff]

theorem exists_of_lastSnapshot? (last : lastSnapshot? orderId es = some o) :
    ∃ e ∈ es, e.snapshot? = some o ∧ o.orderId = orderId := by
  obtain ⟨e, he, snapshot⟩ := List.mem_filterMap.mp (List.mem_of_getLast? last)
  obtain ⟨snapshot, name⟩ := Option.filter_eq_some_iff.mp snapshot
  exact ⟨e, he, snapshot, beq_iff_eq.mp name⟩

theorem lastSnapshot?_of_snapshot (es : List Event) {e : Event} (snapshot : e.snapshot? = some o)
    (name : o.orderId = orderId) : lastSnapshot? orderId (es ++ [e]) = some o := by
  have shown : snapshotOf? orderId e = some o := by
    rw [snapshotOf?, snapshot, Option.filter_some_pos]
    exact beq_iff_eq.mpr name
  rw [lastSnapshot?, List.filterMap_append, List.filterMap_cons_some shown, List.filterMap_nil, List.getLast?_concat]

theorem lastSnapshot?_append (orderId : OrderId) (es es' : List Event) :
    lastSnapshot? orderId (es ++ es') = (lastSnapshot? orderId es').or (lastSnapshot? orderId es) := by
  rw [lastSnapshot?, List.filterMap_append, List.getLast?_append]
  rfl

end Desk

namespace Replay

variable {rs rs' : List Record} {s s' : Replay} {es : List Event}

theorem exists_of_adds (added : Adds rs es rs') (replayed : ofRecords rs' = .ok s') : ∃ s, ofRecords rs = .ok s := by
  induction es generalizing rs with
  | nil =>
    obtain rfl : rs' = rs := added
    exact ⟨s', replayed⟩
  | cons e es ih =>
    obtain ⟨r, -, -, later⟩ := added
    obtain ⟨t, reached⟩ := ih later
    obtain ⟨s, replayed, -⟩ := ofRecords_concat_ok reached
    exact ⟨s, replayed⟩

/-- What can be said of a replay after an event is said of the replay after all of them. -/
theorem foldl_of_adds {α : Type} (view : Replay → α) (next : α → Event → α)
    (step : ∀ {s t : Replay} {seq : Nat} {e : Event}, applyEvent { s with lastSeq := seq } seq e = .ok t →
      view t = next (view s) e)
    (replayed : ofRecords rs = .ok s) (added : Adds rs es rs') (replayed' : ofRecords rs' = .ok s') :
    view s' = es.foldl next (view s) := by
  induction es generalizing rs s with
  | nil =>
    obtain rfl : rs' = rs := added
    rw [Except.ok.inj (replayed.symm.trans replayed')]
    rfl
  | cons e es ih =>
    obtain ⟨r, rfl, above, later⟩ := added
    obtain ⟨t, reached⟩ := exists_of_adds later replayed'
    obtain ⟨s₁, first, applied⟩ := ofRecords_concat_ok reached
    obtain rfl := Except.ok.inj (replayed.symm.trans first)
    rw [Replay.apply, covers_eq_false replayed above, if_neg Bool.false_ne_true] at applied
    rw [ih reached later, List.foldl_cons, step applied]

/-- Only a fill can fail to be replayed. -/
theorem exists_replay_of_adds (replayed : ofRecords rs = .ok s) (added : Adds rs es rs')
    (unfilled : ∀ e ∈ es, e.fill? = none) : ∃ s', ofRecords rs' = .ok s' := by
  induction es generalizing rs s with
  | nil =>
    obtain rfl : rs' = rs := added
    exact ⟨s, replayed⟩
  | cons e es ih =>
    obtain ⟨r, rfl, above, later⟩ := added
    obtain ⟨first, unfilled⟩ := List.forall_mem_cons.mp unfilled
    have applied : ∃ t, s.apply r = .ok t := by
      rw [Replay.apply, covers_eq_false replayed above, if_neg Bool.false_ne_true]
      cases event : r.event with
      | fill f => simp [event, Event.fill?] at first
      | _ => exact ⟨_, rfl⟩
    obtain ⟨t, applied⟩ := applied
    refine ih (s := t) ?_ later unfilled
    rw [ofRecords_concat, replayed]
    exact applied

/-! ## Orders -/

/-- The latest snapshot of an order. -/
def latest? (s : Replay) (k : OrderId) : Option Order := (s.orders.find? k).map (·.order)

theorem mem_openOrders_iff (wf : s.WellFormed) {account : AccountId} {o : Order} :
    o ∈ s.openOrders account ↔ s.latest? o.orderId = some o ∧ o.account = account ∧ o.isOpen = true := by
  rw [mem_openOrders wf, latest?]
  constructor
  · rintro ⟨n, found, owned⟩
    exact ⟨by rw [found]; rfl, owned⟩
  · rintro ⟨latest, owned⟩
    obtain ⟨⟨n, o'⟩, found, rfl⟩ := Option.map_eq_some_iff.mp latest
    exact ⟨n, found, owned⟩

open Desk in
theorem foldl_snapshotOf? (k : OrderId) (x : Option Order) (es : List Event) :
    es.foldl (fun x e => (snapshotOf? k e).or x) x = (lastSnapshot? k es).or x := by
  induction es using List.reverseRecOn with
  | nil => rfl
  | append_singleton es e ih =>
    have last : lastSnapshot? k [e] = snapshotOf? k e := by
      unfold lastSnapshot?
      cases snapshot : snapshotOf? k e with
      | none => rw [List.filterMap_cons_none snapshot]; rfl
      | some o => rw [List.filterMap_cons_some snapshot]; rfl
    rw [List.foldl_concat, ih, lastSnapshot?_append, last, Option.or_assoc]

open Desk in
/-- The latest snapshot of an order is the last one that was added, or the one before if none was added. -/
theorem latest?_of_adds (replayed : ofRecords rs = .ok s) (added : Adds rs es rs') (replayed' : ofRecords rs' = .ok s')
    (k : OrderId) : s'.latest? k = (lastSnapshot? k es).or (s.latest? k) := by
  rw [← foldl_snapshotOf?]
  refine foldl_of_adds (latest? · k) _ ?_ replayed added replayed'
  intro s t seq e applied
  have orders := (applyEvent_orders applied).1
  rw [latest?, orders, ordersAfter, snapshotOf?]
  cases e.snapshot? with
  | none => rfl
  | some o =>
    simp only
    rw [Table.find?_insert]
    split
    · rename_i same
      simp [Option.filter, same]
    · rename_i other
      simp [Option.filter, Ne.symm other, latest?]

/-! ## Fills and positions -/

/-- The fills are kept one after the other. -/
theorem fills_of_adds (replayed : ofRecords rs = .ok s) (added : Adds rs es rs')
    (replayed' : ofRecords rs' = .ok s') : s'.fills = (es.filterMap Event.fill?).foldl Fill.keep s.fills := by
  rw [List.foldl_filterMap]
  refine foldl_of_adds (·.fills) _ ?_ replayed added replayed'
  intro s t seq e applied
  rcases applyEvent_fills applied with ⟨f, rfl, applied⟩ | ⟨unfilled, fills, -⟩
  · exact (fills_of_applyFill applied :)
  · rw [unfilled]
    exact fills

/-- Whether a sum that an event leads to in a position is not rounded. -/
def SumsExactly (s : Replay) : Event → Prop
  | .fill f => ∀ q ∈ ((s.position f.positionKey).quantity.add (f.side.signed f.quantity)).toOption,
      q.toRat = (s.position f.positionKey).quantity.toRat + (f.side.signed f.quantity).toRat
  | .command _ | .order _ | .orderReject _ _ | .sessionState _ | .sessionMessage _ | .fillCopy _ | .pnlSnapshot _
  | .messagingStats _ => True

/-- Whether no sum in a position is rounded while records are replayed. -/
def AllSumExactly (s : Replay) : List Record → Prop
  | [] => True
  | r :: rs => s.SumsExactly r.event ∧ ∀ s' ∈ (s.apply r).toOption, AllSumExactly s' rs

instance (s : Replay) : (e : Event) → Decidable (s.SumsExactly e)
  | .fill f => inferInstanceAs <| Decidable <|
      ∀ q ∈ ((s.position f.positionKey).quantity.add (f.side.signed f.quantity)).toOption,
        q.toRat = (s.position f.positionKey).quantity.toRat + (f.side.signed f.quantity).toRat
  | .command _ | .order _ | .orderReject _ _ | .sessionState _ | .sessionMessage _ | .fillCopy _ | .pnlSnapshot _
  | .messagingStats _ => .isTrue trivial

instance decidableAllSumExactly : (s : Replay) → (rs : List Record) → Decidable (AllSumExactly s rs)
  | _, [] => .isTrue trivial
  | s, r :: rs =>
    have (s' : Replay) : Decidable (AllSumExactly s' rs) := decidableAllSumExactly s' rs
    inferInstanceAs (Decidable (s.SumsExactly r.event ∧ ∀ s' ∈ (s.apply r).toOption, AllSumExactly s' rs))

/-- What holds of positions when no sum was rounded. -/
structure Booked (s : Replay) : Prop where
  sorted : s.positions.Sorted
  key_eq : ∀ k p, s.positions.find? k = some p → p.key = k
  quantity : ∀ k, (s.position k).quantity.toRat = Fill.net k s.fills

theorem booked_empty : Booked empty :=
  ⟨Table.sorted_empty, fun _ _ found => by simp [empty, Table.find?_empty] at found,
    fun _ => by simp [position, empty, Table.find?_empty, Position.flat, Fill.net]⟩

theorem Booked.congr (h : s.Booked) (fills : s'.fills = s.fills) (positions : s'.positions = s.positions) :
    s'.Booked := by
  obtain ⟨sorted, key_eq, quantity⟩ := h
  unfold position at quantity
  refine ⟨positions ▸ sorted, positions ▸ key_eq, ?_⟩
  unfold position
  rw [fills, positions]
  exact quantity

/-- The key under which a position is kept is its own. -/
theorem Booked.key_position (h : s.Booked) (k : PositionKey) : (s.position k).key = k := by
  unfold position
  cases found : s.positions.find? k with
  | none => rfl
  | some p => exact h.key_eq k p found

theorem Booked.applyFill (h : s.Booked) {f : Fill} (exact : s.SumsExactly (.fill f))
    (applied : s.applyFill f = .ok s') : s'.Booked := by
  rcases applyFill_ok applied with ⟨-, rfl⟩ | ⟨-, p, filled, rfl⟩
  · exact h
  · have name : p.key = f.positionKey := (Position.key_apply filled).trans (h.key_position _)
    have sum : p.quantity.toRat = Fill.net f.positionKey s.fills + f.side.sign * f.quantity.toRat := by
      rw [← h.quantity, ← Side.toRat_signed]
      exact exact p.quantity (by rw [(Position.apply_ok filled).1]; rfl)
    refine ⟨h.sorted.insert _ _, fun k q found => ?_, fun k => ?_⟩
    · rw [Table.find?_insert] at found
      split at found
      · rename_i same
        rw [same, ← Option.some.inj found, name]
      · exact h.key_eq k q found
    · rw [Fill.net_concat, Fill.effect, position_insert]
      split
      · rename_i same
        rw [if_pos same.symm, same]
        exact sum
      · rename_i other
        rw [if_neg (Ne.symm other), add_zero]
        exact h.quantity k

theorem Booked.apply (h : s.Booked) {r : Record} (exact : s.SumsExactly r.event) (applied : s.apply r = .ok s') :
    s'.Booked := by
  rw [Replay.apply] at applied
  split at applied
  · exact Except.ok.inj applied ▸ h
  · have same : ({ s with lastSeq := r.seq } : Replay).Booked := h.congr rfl rfl
    rcases applyEvent_fills applied with ⟨f, event, applied⟩ | ⟨-, fills, positions⟩
    · rw [event] at exact
      exact same.applyFill exact applied
    · exact same.congr fills positions

theorem Booked.foldlM {s₀ : Replay} (h : s₀.Booked) (exact : AllSumExactly s₀ rs)
    (replayed : rs.foldlM Replay.apply s₀ = .ok s) : s.Booked := by
  induction rs generalizing s₀ with
  | nil => exact Except.ok.inj replayed ▸ h
  | cons r rs ih =>
    rw [List.foldlM_cons] at replayed
    obtain ⟨s₁, applied, later⟩ := exists_of_bind_eq_ok replayed
    exact ih (h.apply exact.1 applied) (exact.2 s₁ (by rw [applied]; rfl)) later

/-- If no sum is rounded, the quantity of a position is what the fills come to in it. -/
theorem booked_of_ofRecords (exact : AllSumExactly empty rs) (replayed : ofRecords rs = .ok s) : s.Booked :=
  booked_empty.foldlM exact replayed

/-- The positions that are recovered are those that are not flat, each with what the fills come to in it. -/
theorem Booked.openPositions (h : s.Booked) (account : AccountId) :
    (∀ p ∈ s.openPositions account, p.account = account ∧ p.quantity.toRat = Fill.net p.key s.fills) ∧
      ∀ k, k.account = account → Fill.net k s.fills ≠ 0 → ∃ p ∈ s.openPositions account, p.key = k := by
  constructor
  · intro p shown
    obtain ⟨own, -, here⟩ := (mem_openPositions h.sorted h.key_position).mp shown
    exact ⟨own, by rw [← h.quantity, here]⟩
  · intro k owned net
    have held : (s.position k).isFlat = false := by
      rw [Position.isFlat, ← Bool.not_eq_true, Decimal.isZero_iff, h.quantity]
      exact net
    have own := h.key_position k
    refine ⟨s.position k, (mem_openPositions h.sorted h.key_position).mpr ⟨?_, held, by rw [own]⟩, own⟩
    exact (congrArg PositionKey.account own).trans owned

end Replay

end Blotter
