import Mathlib
import Blotter.Proofs.Replay.Fills

/-!
# What a replay is meant to give

Every answer of a replay has a meaning of its own, which does not speak of tables that are changed one record after the
other.

- An order stands where its last snapshot left it (`lastSnapshots`), an execution counts with its first fill
  (`firstFills`), a position is where its fills lead to (`Position.ofFills`), and a session is in its last state.
- The state that records add up to keeps to this (`Meets`), because each record does (`Meets.apply`). Records whose
  numbers increase add up to a state unless the fills of a position lead nowhere (`ofRecords_cases`,
  `exists_ofRecords_iff`).
- So the answers are the meant ones (`answers_of_increasing`).
-/

namespace Blotter

/-- The session state that an event is. -/
def Event.sessionState? : Event → Option SessionState
  | .sessionState state => some state
  | .command _ | .order _ | .orderReject _ _ | .fill _ | .sessionMessage _ | .fillCopy _ | .pnlSnapshot _
  | .messagingStats _ => none

/-- The snapshot that a record stands for. -/
def Record.snapshot? (r : Record) : Option Snapshot := r.event.snapshot?.map fun o => ⟨r.seq, o⟩

namespace Replay

/-- The snapshots that are the last ones of their orders, in the order of their records. -/
def lastSnapshots (rs : List Record) : List Snapshot :=
  (rs.filterMap Record.snapshot?).pwFilter fun x y => x.order.orderId ≠ y.order.orderId

/-- The fills that are the first ones of their executions, in the order of their events. -/
def firstFills (es : List Event) : List Fill :=
  (es.filterMap Event.fill?).eraseDupsBy fun f g => f.execId == g.execId

/-- The last state of a session. -/
def lastState (es : List Event) (key : SessionKey) : Option SessionState :=
  ((es.filterMap Event.sessionState?).filter (·.key == key)).getLast?

variable {rs : List Record} {s s' : Replay} {e : Event} {r : Record} {o : Overflow} {key : PositionKey}

theorem firstFills_concat_fill (es : List Event) (f : Fill) :
    firstFills (es ++ [.fill f]) = Fill.keep (firstFills es) f := by
  rw [firstFills, firstFills, List.filterMap_append, ← Fill.distinct_eq_eraseDupsBy, ← Fill.distinct_eq_eraseDupsBy]
  exact Fill.distinct_concat ..

theorem firstFills_concat_of_none (es : List Event) (other : e.fill? = none) :
    firstFills (es ++ [e]) = firstFills es := by
  rw [firstFills, firstFills, List.filterMap_append, List.filterMap_cons_none other, List.filterMap_nil,
    List.append_nil]

/-- What is kept stays, whatever comes later. -/
theorem exists_firstFills_append (es later : List Event) :
    ∃ more, firstFills (es ++ later) = firstFills es ++ more := by
  obtain ⟨more, kept⟩ := Fill.exists_distinct_append (es.filterMap Event.fill?) (later.filterMap Event.fill?)
  rw [firstFills, firstFills, List.filterMap_append, ← Fill.distinct_eq_eraseDupsBy, ← Fill.distinct_eq_eraseDupsBy]
  exact ⟨more, kept⟩

/-- A snapshot is a last one if no later one shows its order. -/
theorem mem_lastSnapshots {x : Snapshot} : x ∈ lastSnapshots rs ↔
    ((rs.filterMap Record.snapshot?).filter (·.order.orderId == x.order.orderId)).getLast? = some x :=
  mem_pwFilter (fun x : Snapshot => x.order.orderId) _ x

/-- The last snapshots stand in the order of their numbers. -/
theorem increasing_lastSnapshots (increasing : rs.Pairwise fun r q => r.seq < q.seq) :
    (lastSnapshots rs).Pairwise fun x y => x.seq < y.seq := by
  refine List.Pairwise.sublist (List.pwFilter_sublist _) (increasing.filterMap _ fun r q below x hx y hy => ?_)
  obtain ⟨o, -, rfl⟩ := Option.map_eq_some_iff.mp hx
  obtain ⟨o', -, rfl⟩ := Option.map_eq_some_iff.mp hy
  exact below

/-! ## States that records add up to -/

/-- Whether a state is the one that the records are meant to add up to. -/
structure Meets (rs : List Record) (s : Replay) : Prop where
  orders : ∀ id, s.orders.find? id = ((rs.filterMap Record.snapshot?).filter (·.order.orderId == id)).getLast?
  fills : s.fills = firstFills (rs.map (·.event))
  sorted : s.positions.Sorted
  positions : ∀ key, Position.ofFills key s.fills = .ok (s.position key)
  sessions : ∀ key, s.session? key = lastState (rs.map (·.event)) key

theorem meets_empty : Meets [] empty := ⟨fun _ => rfl, rfl, Table.sorted_empty, fun _ => rfl, fun _ => rfl⟩

/-- A fill is booked, or it leads nowhere. -/
theorem applyFill_cases (f : Fill) (positions : ∀ key, Position.ofFills key s.fills = .ok (s.position key)) :
    (∃ s', s.applyFill f = .ok s' ∧ ∀ key, Position.ofFills key s'.fills = .ok (s'.position key)) ∨
      ∃ o, s.applyFill f = .error o ∧ Position.ofFills f.positionKey (Fill.keep s.fills f) = .error o := by
  rw [applyFill]
  cases known : s.knowsExecution f.execId with
  | true => exact .inl ⟨s, rfl, positions⟩
  | false =>
    have new : Fill.keep s.fills f = s.fills ++ [f] := if_neg (ne_true_of_eq_false known)
    have next := Position.ofFills_concat_self s.fills f
    rw [positions] at next
    rw [if_neg (by simp), new, next]
    cases booked : (s.position f.positionKey).applyFill f with
    | error o => exact .inr ⟨o, rfl, booked⟩
    | ok p =>
      refine .inl ⟨_, rfl, fun key => ?_⟩
      rw [position_insert]
      split
      · rename_i same
        rw [same, next]
        exact booked
      · rename_i other
        rw [Position.ofFills_concat_ne (Ne.symm other), positions]

theorem find?_ordersAfter {t : Table OrderId Snapshot}
    (orders : ∀ id, t.find? id = ((rs.filterMap Record.snapshot?).filter (·.order.orderId == id)).getLast?)
    (r : Record) (id : OrderId) :
    (ordersAfter t r.seq r.event).find? id =
      (((rs ++ [r]).filterMap Record.snapshot?).filter (·.order.orderId == id)).getLast? := by
  rw [ordersAfter, List.filterMap_append]
  cases snapshot : r.event.snapshot? with
  | none =>
    have none : r.snapshot? = none := by rw [Record.snapshot?, snapshot, Option.map_none]
    rw [List.filterMap_cons_none none, List.filterMap_nil, List.append_nil]
    exact orders id
  | some o =>
    have some : r.snapshot? = some ⟨r.seq, o⟩ := by rw [Record.snapshot?, snapshot, Option.map_some]
    rw [List.filterMap_cons_some some, List.filterMap_nil, getLast?_filter_concat]
    simp only
    rw [Table.find?_insert]
    exact if_congr (by rw [beq_iff_eq, eq_comm]) rfl (orders id)

theorem applyEvent_session? {es : List Event} (sessions : ∀ key, s.session? key = lastState es key) {seq : Nat}
    (applied : s.applyEvent seq e = .ok s') (key : SessionKey) : s'.session? key = lastState (es ++ [e]) key := by
  rw [lastState, List.filterMap_append]
  cases e with
  | sessionState state =>
    obtain rfl := Except.ok.inj applied
    rw [List.filterMap_cons_some (by rfl), List.filterMap_nil, getLast?_filter_concat, session?, Table.find?_insert]
    exact if_congr (by rw [beq_iff_eq, eq_comm]) rfl (sessions key)
  | fill f =>
    have same : s'.sessions = s.sessions := by
      rcases applyFill_ok applied with ⟨-, rfl⟩ | ⟨-, p, -, rfl⟩
      · rfl
      · rfl
    rw [List.filterMap_cons_none (by rfl), List.filterMap_nil, List.append_nil, session?, same]
    exact sessions key
  | _ =>
    obtain rfl := Except.ok.inj applied
    rw [List.filterMap_cons_none (by rfl), List.filterMap_nil, List.append_nil]
    exact sessions key

/-- One more record is kept to as well, unless its fill leads nowhere. -/
theorem Meets.apply (h : Meets rs s) (new : s.covers r.seq = false) :
    (∃ s', s.apply r = .ok s' ∧ Meets (rs ++ [r]) s') ∨
      ∃ o key, s.apply r = .error o ∧
        Position.ofFills key (firstFills ((rs ++ [r]).map (·.event))) = .error o := by
  have step : s.apply r = ({ s with lastSeq := r.seq } : Replay).applyEvent r.seq r.event := by
    rw [Replay.apply, new, if_neg (by simp)]
  -- orders and sessions are the same matter for every kind of event; only a fill touches the rest
  have kept : ∀ s', s.apply r = .ok s' → s'.fills = firstFills ((rs ++ [r]).map (·.event)) → s'.positions.Sorted →
      (∀ key, Position.ofFills key s'.fills = .ok (s'.position key)) → Meets (rs ++ [r]) s' := by
    intro s' applied fills sorted positions
    rw [step] at applied
    refine ⟨fun id => ?_, fills, sorted, positions, fun key => ?_⟩
    · rw [(applyEvent_orders applied).1]
      exact find?_ordersAfter h.orders r id
    · rw [List.map_append]
      exact applyEvent_session? (s := { s with lastSeq := r.seq }) h.sessions applied key
  rw [List.map_append, List.map_singleton] at kept ⊢
  cases event : r.event with
  | fill f =>
    rw [event] at step kept
    rw [firstFills_concat_fill, ← h.fills] at kept ⊢
    rcases applyFill_cases (s := { s with lastSeq := r.seq }) f h.positions with
      ⟨s', booked, positions⟩ | ⟨o, failed, nowhere⟩
    · have fills : s'.fills = Fill.keep s.fills f := (fills_of_applyFill booked :)
      refine .inl ⟨s', step.trans booked, kept s' (step.trans booked) fills ?_ positions⟩
      rcases applyFill_ok booked with ⟨-, rfl⟩ | ⟨-, p, -, rfl⟩
      · exact h.sorted
      · exact h.sorted.insert _ _
    · exact .inr ⟨o, f.positionKey, step.trans failed, nowhere⟩
  | _ =>
    rw [event] at step kept
    rw [firstFills_concat_of_none _ rfl] at kept
    exact .inl ⟨_, step, kept _ step h.fills h.sorted h.positions⟩

/-- Records whose numbers increase add up to the state that they are meant to add up to, unless the fills of a position
lead nowhere. -/
theorem ofRecords_cases (increasing : rs.Pairwise fun r q => r.seq < q.seq) :
    (∃ s, ofRecords rs = .ok s ∧ Meets rs s) ∨
      ∃ o key, ofRecords rs = .error o ∧ Position.ofFills key (firstFills (rs.map (·.event))) = .error o := by
  induction rs using List.reverseRecOn with
  | nil => exact .inl ⟨.empty, rfl, meets_empty⟩
  | append_singleton rs r ih =>
    obtain ⟨before, -, below⟩ := List.pairwise_append.mp increasing
    rw [ofRecords_concat]
    rcases ih before with ⟨s, replayed, meets⟩ | ⟨o, key, failed, nowhere⟩
    · have new := covers_eq_false replayed fun q hq => below q hq r (by simp)
      rw [replayed]
      exact meets.apply new
    -- the fills that led nowhere are still the first ones, so later records cannot repair that
    · refine .inr ⟨o, key, by rw [failed]; rfl, ?_⟩
      obtain ⟨more, kept⟩ := exists_firstFills_append (rs.map (·.event)) ([r].map (·.event))
      rw [List.map_append, kept]
      exact Position.ofFills_append_error nowhere more

theorem meets_of_ofRecords (increasing : rs.Pairwise fun r q => r.seq < q.seq) (replayed : ofRecords rs = .ok s) :
    Meets rs s := by
  rcases ofRecords_cases increasing with ⟨s', replayed', meets⟩ | ⟨o, key, failed, -⟩
  · rw [replayed] at replayed'
    exact Except.ok.inj replayed' ▸ meets
  · rw [replayed] at failed
    cases failed

/-- Records add up to a state if and only if the fills of every position lead somewhere. -/
theorem exists_ofRecords_iff (increasing : rs.Pairwise fun r q => r.seq < q.seq) :
    (∃ s, ofRecords rs = .ok s) ↔ ∀ key, ∃ p, Position.ofFills key (firstFills (rs.map (·.event))) = .ok p := by
  rcases ofRecords_cases increasing with ⟨s, replayed, meets⟩ | ⟨o, key, failed, nowhere⟩
  · exact ⟨fun _ key => ⟨_, meets.fills ▸ meets.positions key⟩, fun _ => ⟨s, replayed⟩⟩
  · constructor
    · rintro ⟨s, replayed⟩
      rw [failed] at replayed
      cases replayed
    · intro booked
      obtain ⟨p, led⟩ := booked key
      rw [nowhere] at led
      cases led

/-! ## Answers -/

namespace Meets

variable {account : AccountId} {p : Position}

/-- The open orders of an account are the open ones among the last snapshots. -/
theorem openOrders (h : Meets rs s) (wellFormed : s.WellFormed)
    (increasing : rs.Pairwise fun r q => r.seq < q.seq) (account : AccountId) :
    s.openOrders account =
      ((lastSnapshots rs).filter fun x => x.order.account == account && x.order.isOpen).map (·.order) := by
  have nodup : (lastSnapshots rs).Nodup := (increasing_lastSnapshots increasing).imp fun below same =>
    below.ne (congrArg Snapshot.seq same)
  -- the table keeps the snapshots by order, the reference by number: they are the same up to the order of the rows
  have perm : s.orders.rows.Perm (lastSnapshots rs) := by
    have names : (s.orders.rows.map (·.order.orderId)).Nodup :=
      wellFormed.orders_sorted.nodup_rows wellFormed.orderId_eq
    refine (List.perm_ext_iff_of_nodup names.of_map nodup).mpr fun x => ?_
    rw [mem_lastSnapshots, wellFormed.orders_sorted.mem_rows_iff, ← h.orders]
    constructor
    · rintro ⟨id, found⟩
      exact wellFormed.orderId_eq id x found ▸ found
    · exact fun found => ⟨_, found⟩
  rw [Replay.openOrders]
  exact congrArg (List.map _) (mergeSort_eq_of_perm (perm.filter _) ((increasing_lastSnapshots increasing).filter _))

/-- The fills of a day are those among the first ones. -/
theorem fillsOn (h : Meets rs s) (account : AccountId) (date : Date) :
    s.fillsOn account date =
      (firstFills (rs.map (·.event))).filter fun f => f.account == account && f.executedAt.date == date := by
  rw [Replay.fillsOn, h.fills]

/-- A position that is found under a key has this key. -/
theorem key_position (h : Meets rs s) (key : PositionKey) : (s.position key).key = key :=
  Position.key_ofFills (h.positions key)

/-- The positions of an account are those that its fills lead to, without the flat ones. -/
theorem mem_openPositions (h : Meets rs s) :
    p ∈ s.openPositions account ↔ p.account = account ∧ p.isFlat = false ∧
      Position.ofFills p.key (firstFills (rs.map (·.event))) = .ok p := by
  rw [Replay.mem_openPositions h.sorted h.key_position, ← h.fills, h.positions, Except.ok.injEq]

/-- They stand in the order of strategies, and of instruments within a strategy. -/
theorem openPositions_sorted (h : Meets rs s) (account : AccountId) :
    (s.openPositions account).Pairwise fun p q =>
      (compare p.strategy q.strategy).then (compare p.instrument q.instrument) = .lt := by
  refine List.pairwise_map.mpr ((h.sorted.filter _).imp_of_mem fun {a b} ha hb below => ?_)
  have chosen : ∀ c ∈ s.positions.entries.filter (fun x => x.1.account == account && !x.2.isFlat),
      c.1 = c.2.key ∧ c.1.account = account := by
    intro c hc
    obtain ⟨found, chosen⟩ := List.mem_filter.mp hc
    have here : s.position c.1 = c.2 := by rw [position, h.sorted.mem_iff.mp found, Option.getD_some]
    exact ⟨here ▸ (h.key_position c.1).symm, beq_iff_eq.mp (Bool.and_eq_true_iff.mp chosen).1⟩
  obtain ⟨keyA, accountA⟩ := chosen a ha
  obtain ⟨keyB, accountB⟩ := chosen b hb
  have below : ((compare a.1.account b.1.account).then <| (compare a.1.strategy b.1.strategy).then
    (compare a.1.instrument b.1.instrument)) = .lt := below
  rw [accountA, accountB, Std.compare_self, Ordering.eq_then, keyA, keyB] at below
  exact below

end Meets

/-- Records whose numbers increase add up to a state if and only if the fills of every position lead somewhere, and
every answer of this state is the meant one: the open ones among the last snapshots, the first fills of the executions,
the positions that these lead to unless they are flat, by strategy and instrument, and the last state of a session. -/
theorem answers_of_increasing (increasing : rs.Pairwise fun r q => r.seq < q.seq) :
    ((∃ s, ofRecords rs = .ok s) ↔ ∀ key, ∃ p, Position.ofFills key (firstFills (rs.map (·.event))) = .ok p) ∧
      ∀ s, ofRecords rs = .ok s →
        (∀ account, s.openOrders account =
          ((lastSnapshots rs).filter fun x => x.order.account == account && x.order.isOpen).map (·.order)) ∧
        (∀ account date, s.fillsOn account date =
          (firstFills (rs.map (·.event))).filter fun f => f.account == account && f.executedAt.date == date) ∧
        (∀ account p, p ∈ s.openPositions account ↔ p.account = account ∧ p.isFlat = false ∧
          Position.ofFills p.key (firstFills (rs.map (·.event))) = .ok p) ∧
        (∀ account, (s.openPositions account).Pairwise fun p q =>
          (compare p.strategy q.strategy).then (compare p.instrument q.instrument) = .lt) ∧
        ∀ key, s.session? key = lastState (rs.map (·.event)) key := by
  refine ⟨exists_ofRecords_iff increasing, fun s replayed => ?_⟩
  have meets := meets_of_ofRecords increasing replayed
  exact ⟨meets.openOrders (wellFormed_of_ofRecords replayed) increasing, meets.fillsOn,
    fun account p => meets.mem_openPositions, meets.openPositions_sorted, meets.sessions⟩

/-- An order of an account for one unit at a price of one. -/
def oneUnit (account name : String) : Order :=
  let one : Decimal := ⟨false, 1, 0, Decimal.one_lt_limit, Decimal.zero_le_maxScale⟩
  .limit ⟨name⟩ ⟨account⟩ ⟨"S"⟩ ⟨"I"⟩ .buy one one .epoch

/-- A fill of the unit. -/
def oneFill (account name execution : String) : Fill :=
  let o := oneUnit account name
  .ofOrder o ⟨execution⟩ o.quantity o.quantity .epoch

/-- A fill of as many units as a decimal can count, at a price of ten. Its value is no decimal. -/
def boundlessFill (account execution : String) : Fill := { oneFill account "o" execution with
  quantity := ⟨false, Decimal.limit - 1, 0, by decide, Decimal.zero_le_maxScale⟩
  price := ⟨false, 10, 0, by decide, Decimal.zero_le_maxScale⟩ }

/-- An order that is filled, one that is refused and one that stands; the fill is recorded twice. -/
def repeatedRecords : List Record :=
  [⟨0, .epoch, true, .order (oneUnit "A" "refused")⟩, ⟨1, .epoch, true, .fill (oneFill "A" "filled" "e")⟩,
    ⟨2, .epoch, true, .order ((oneUnit "A" "filled").withStatus .filled .epoch)⟩,
    ⟨4, .epoch, true, .orderReject (oneUnit "A" "refused") (.ofOrder .locally (oneUnit "A" "refused") "x" .epoch)⟩,
    ⟨5, .epoch, true, .order (oneUnit "A" "standing")⟩, ⟨7, .epoch, true, .fill (oneFill "A" "filled" "e")⟩]

theorem answers_of_increasing_repeatedRecords : ∃ s, ofRecords repeatedRecords = .ok s ∧
    s.openOrders ⟨"A"⟩ = [oneUnit "A" "standing"] ∧
    s.fillsOn ⟨"A"⟩ Instant.epoch.date = [oneFill "A" "filled" "e"] := by
  have ok : (ofRecords repeatedRecords).isOk = true := by decide +kernel
  obtain ⟨s, replayed⟩ := exists_of_isOk ok
  have increasing : repeatedRecords.Pairwise fun r q => r.seq < q.seq := by decide
  obtain ⟨openOrders, fillsOn, -⟩ := (answers_of_increasing increasing).2 s replayed
  refine ⟨s, replayed, (openOrders _).trans ?_, (fillsOn _ _).trans ?_⟩
  · decide +kernel
  · decide +kernel

end Replay

end Blotter
