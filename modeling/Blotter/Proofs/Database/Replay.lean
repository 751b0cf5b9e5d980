import Mathlib
import Blotter.Proofs.Database.Events
import Blotter.Proofs.Record.Codec
import Blotter.Proofs.Repeats
import Blotter.Proofs.Replay
import Blotter.Recovery

/-!
# The database and the replay

Records that are stored in the database and records that are replayed lead to the same answers.

- The rows show the state of the replay (`Shows`). A record that is stored keeps that, and so does one that the database
  does not store (`InStep.write`, `InStep.skip`, `InStep.run`).
- From rows that show a state every question is answered as from the state (`Shows.openOrders`, `Shows.openPositions`,
  `Shows.fillsOn`, `Shows.session?`).
-/

namespace Blotter

/-- Whether a state of a session fits the columns of the database. -/
structure SessionState.FitsColumns (state : SessionState) : Prop where
  nextSenderSeq_le : state.nextSenderSeq ≤ 9223372036854775807
  nextTargetSeq_le : state.nextTargetSeq ≤ 9223372036854775807
  year : 0 ≤ state.updatedAt.date.year ∧ state.updatedAt.date.year ≤ 9999

namespace Database

/-! ## Rows read back -/

theorem ofColumn_toColumn {n : Nat} (h : n ≤ 9223372036854775807) : ofColumn (toColumn n) = n := by
  rw [toColumn_eq h]
  rfl

theorem readBody_order (o : Order) (seq : Int) :
    Tables.readBody Order.ofJson? seq .order o.toJson.text = .ok o.withPlainZeros := by
  simp only [Tables.readBody, Json.parse_text o.isExact_toJson, Option.bind_eq_bind, Option.bind_some,
    Order.ofJson?_toJson]

theorem readBody_fill (f : Fill) (seq : Int) :
    Tables.readBody Fill.ofJson? seq .fill f.toJson.text = .ok f.withPlainZeros := by
  simp only [Tables.readBody, Json.parse_text f.isExact_toJson, Option.bind_eq_bind, Option.bind_some,
    Fill.ofJson?_toJson]

theorem decimalOfText_text (fault : String → DecimalError → ContentFault) (seq : Nat) (a : Decimal) :
    decimalOfText fault seq a.text = .ok a.withPlainZero := by
  rw [decimalOfText, Decimal.parse_text]

theorem toPosition_ofPosition (seq m : Nat) (p : Position) : (PositionRow.ofPosition seq p).toPosition m =
    .ok { p with quantity := p.quantity.withPlainZero, avgPrice := p.avgPrice.withPlainZero } := by
  rw [PositionRow.toPosition, PositionRow.ofPosition, decimalOfText_text, decimalOfText_text]
  rfl

/-! ## Rows that show a state -/

/-- Whether a row shows the latest snapshot of an order. Of an order that is not open only this much is known. -/
structure OrderRow.Shows (row : OrderRow) (x : Snapshot) : Prop where
  account : row.account = x.order.account
  isOpen : row.isOpen = if x.order.isOpen then 1 else 0
  seq : row.seq = x.seq
  body : x.order.isOpen = true → row.body = x.order.toJson.text ∧ x.order.withPlainZeros = x.order

/-- Whether the rows of fills show numbered fills. -/
structure ShowsFills (t : Table ExecId FillRow) (numbered : List (Nat × Fill)) : Prop where
  sorted : t.Sorted
  increasing : numbered.Pairwise fun x y => x.1 < y.1
  plain : ∀ x ∈ numbered, x.1 ≤ 9223372036854775807 ∧ x.2.withPlainZeros = x.2
  find?_iff : ∀ k row, t.find? k = some row ↔ ∃ x ∈ numbered, x.2.execId = k ∧ row = FillRow.ofFill x.1 x.2

/-- The key of the row of a session. -/
def rowKey (k : SessionKey) : SessionRowKey := ⟨k.senderCompId, k.targetCompId, k.year, k.week⟩

/-- Whether the rows of a database show what records with numbers below `bound` add up to. Every order has an owner. -/
structure Shows (owner : OrderId → AccountId) (bound : Nat) (t : Tables) (s : Replay) (numbered : List (Nat × Fill)) :
    Prop where
  orders : s.orders.Related
    (fun k x row => x.order.orderId = k ∧ x.order.account = owner k ∧ x.seq < bound ∧ row.Shows x) t.orders
  fills : ShowsFills t.fills numbered
  fills_eq : s.fills = numbered.map (·.2)
  fill_lt : ∀ x ∈ numbered, x.1 < bound
  positions : s.positions.Related
    (fun k p row => p.key = k ∧ p.avgPrice.IsPlain ∧ ∃ n, row = PositionRow.ofPosition n p) t.positions
  sessions : ∀ k, (s.sessions.find? k = none ∧ t.sessions.find? (rowKey k) = none) ∨
    ∃ state n, s.sessions.find? k = some state ∧ t.sessions.find? (rowKey k) = some (SessionRow.ofState n state) ∧
      state.key = k ∧ state.FitsColumns ∧ n < bound ∧ n ≤ 9223372036854775807

theorem rowKey_injective : Function.Injective rowKey := by
  rintro ⟨_, _, _, _⟩ ⟨_, _, _, _⟩ h
  simpa [rowKey] using h

/-! ### One record after the other -/

section Shows

variable {owner : OrderId → AccountId} {bound n : Nat} {t : Tables} {s s' : Replay} {numbered : List (Nat × Fill)}

theorem Shows.mono (h : Shows owner bound t s numbered) (le : bound ≤ n) : Shows owner n t s numbered where
  orders := h.orders.imp fun _ _ ⟨same, id, account, seq, shows⟩ => ⟨same, id, account, seq.trans_le le, shows⟩
  fills := h.fills
  fills_eq := h.fills_eq
  fill_lt x hx := (h.fill_lt x hx).trans_le le
  positions := h.positions
  sessions k := (h.sessions k).imp_right fun ⟨state, m, found, found', key, fits, lt, le'⟩ =>
    ⟨state, m, found, found', key, fits, lt.trans_le le, le'⟩

/-- A snapshot of an order. -/
theorem Shows.putOrder (h : Shows owner n t s numbered) {o o' : Order} (orderId : o'.orderId = o.orderId)
    (account : o'.account = o.account) (isOpen : o'.isOpen = o.isOpen) (owned : o.account = owner o.orderId)
    (same : o.isOpen = true → o' = o ∧ o.withPlainZeros = o) (le : n ≤ 9223372036854775807) :
    Shows owner (n + 1) (t.putOrder (.ofOrder n o')) (s.setOrder n o) numbered := by
  have body : o.isOpen = true → o'.toJson.text = o.toJson.text ∧ o.withPlainZeros = o := by
    intro hOpen
    obtain ⟨rfl, plain⟩ := same hOpen
    exact ⟨rfl, plain⟩
  obtain ⟨row, put, shows⟩ : ∃ row, t.putOrder (.ofOrder n o') = { t with orders := t.orders.insert o.orderId row } ∧
      row.Shows ⟨n, o⟩ := by
    rw [Tables.putOrder]
    have key : (OrderRow.ofOrder n o').orderId = o.orderId := orderId
    rw [key]
    rcases h.orders.find? o.orderId with ⟨-, none⟩ | ⟨x, old, -, some, -, owned', lt, shows⟩
    · rw [none]
      exact ⟨_, rfl, account, by rw [OrderRow.ofOrder, isOpen], toColumn_eq le, body⟩
    · have newer : old.seq < (OrderRow.ofOrder n o').seq := by
        rw [shows.seq, OrderRow.ofOrder, toColumn_eq le]
        exact Int.ofNat_lt.mpr lt
      simp only [some, if_pos newer]
      exact ⟨_, rfl, shows.account.trans (owned'.trans owned.symm), by rw [OrderRow.ofOrder, isOpen], toColumn_eq le,
        body⟩
  rw [put]
  have later := h.mono (Nat.le_succ n)
  exact { later with orders := later.orders.insert ⟨rfl, owned, Nat.lt_succ_self n, shows⟩ }

/-- A session state. -/
theorem Shows.putSession (h : Shows owner n t s numbered) {state : SessionState} (fits : state.FitsColumns)
    (le : n ≤ 9223372036854775807) :
    Shows owner (n + 1) (t.putSession (.ofState n state))
      { s with sessions := s.sessions.insert state.key state } numbered := by
  have put : t.putSession (.ofState n state) =
      { t with sessions := t.sessions.insert (rowKey state.key) (.ofState n state) } := by
    rw [Tables.putSession]
    have key : (SessionRow.ofState n state).key = rowKey state.key := rfl
    rw [key]
    rcases h.sessions state.key with ⟨-, none⟩ | ⟨old, m, -, some, -, -, lt, le'⟩
    · rw [none]
    · have newer : (SessionRow.ofState m old).seq < (SessionRow.ofState n state).seq := by
        rw [SessionRow.ofState, SessionRow.ofState, toColumn_eq le, toColumn_eq le']
        exact Int.ofNat_lt.mpr lt
      simp only [some, if_pos newer]
  rw [put]
  have later := h.mono (Nat.le_succ n)
  refine { later with sessions := fun k => ?_ }
  by_cases hk : k = state.key
  · subst hk
    rw [Table.find?_insert_self, Table.find?_insert_self]
    exact .inr ⟨state, n, rfl, rfl, rfl, fits, Nat.lt_succ_self n, le⟩
  · rw [Table.find?_insert_ne hk, Table.find?_insert_ne (rowKey_injective.ne hk)]
    exact later.sessions k

/-- The position before a fill, read from its row. -/
theorem Shows.position (h : Shows owner n t s numbered) (m : Nat) (key : PositionKey) :
    ∃ p, s.position key = p ∧ p.key = key ∧ p.avgPrice.IsPlain ∧
      t.position m key = .ok { p with quantity := p.quantity.withPlainZero } := by
  rw [Replay.position, Tables.position]
  rcases h.positions.find? key with ⟨none, none'⟩ | ⟨p, row, some, some', keyed, plain, m', rfl⟩
  · rw [none, none']
    exact ⟨.flat key, rfl, rfl, Decimal.isPlain_zero, rfl⟩
  · rw [some, some']
    refine ⟨p, rfl, keyed, plain, ?_⟩
    simp only [toPosition_ofPosition, Decimal.withPlainZero_of_isPlain plain]

theorem ShowsFills.contains {fills : Table ExecId FillRow} (h : ShowsFills fills numbered) (execId : ExecId) :
    fills.contains execId = (numbered.map (·.2)).any (·.execId == execId) := by
  rw [Table.contains]
  cases found : fills.find? execId with
  | some row =>
    obtain ⟨x, hx, same, -⟩ := (h.find?_iff execId row).mp found
    exact (List.any_eq_true.mpr ⟨x.2, List.mem_map_of_mem hx, by simp [same]⟩).symm
  | none =>
    refine (List.any_eq_false.mpr fun f hf => ?_).symm
    obtain ⟨x, hx, rfl⟩ := List.mem_map.mp hf
    intro same
    rw [(h.find?_iff execId _).mpr ⟨x, hx, by simpa using same, rfl⟩] at found
    exact absurd found (by simp)

/-- A fill of an execution that is not shown yet. -/
theorem ShowsFills.insert {fills : Table ExecId FillRow} (h : ShowsFills fills numbered) {f : Fill}
    (plain : f.withPlainZeros = f) (le : n ≤ 9223372036854775807) (above : ∀ x ∈ numbered, x.1 < n)
    (unknown : (numbered.map (·.2)).any (·.execId == f.execId) = false) :
    ShowsFills (fills.insert f.execId (.ofFill n f)) (numbered ++ [(n, f)]) where
  sorted := h.sorted.insert _ _
  increasing := by
    refine List.pairwise_append.mpr ⟨h.increasing, List.pairwise_singleton _ _, fun x hx y hy => ?_⟩
    obtain rfl : y = (n, f) := by simpa using hy
    exact above x hx
  plain := by
    intro x hx
    rcases List.mem_append.mp hx with hx | hx
    · exact h.plain x hx
    · obtain rfl : x = (n, f) := by simpa using hx
      exact ⟨le, plain⟩
  find?_iff k row := by
    rw [Table.find?_insert]
    by_cases hk : k = f.execId
    · rw [if_pos hk]
      constructor
      · intro found
        exact ⟨(n, f), by simp, hk.symm, (Option.some.inj found).symm⟩
      · rintro ⟨x, hx, same, rfl⟩
        rcases List.mem_append.mp hx with hx | hx
        · have known := List.any_eq_false.mp unknown x.2 (List.mem_map_of_mem hx)
          exact absurd (same.trans hk) (by simpa using known)
        · obtain rfl : x = (n, f) := by simpa using hx
          rfl
    · rw [if_neg hk, h.find?_iff]
      constructor
      · rintro ⟨x, hx, same⟩
        exact ⟨x, List.mem_append_left _ hx, same⟩
      · rintro ⟨x, hx, same, rfl⟩
        rcases List.mem_append.mp hx with hx | hx
        · exact ⟨x, hx, same, rfl⟩
        · obtain rfl : x = (n, f) := by simpa using hx
          exact absurd same (Ne.symm hk)

/-- A fill. -/
theorem Shows.putFill (h : Shows owner n t s numbered) {f : Fill} (plain : f.withPlainZeros = f)
    (le : n ≤ 9223372036854775807) (applied : s.applyFill f = .ok s') :
    ∃ t' numbered', t.putFill n f = .ok t' ∧ Shows owner (n + 1) t' s' numbered' := by
  have later := h.mono (Nat.le_succ n)
  have contains : t.fills.contains f.execId = s.knowsExecution f.execId := by
    rw [h.fills.contains, Replay.knowsExecution, h.fills_eq]
  rw [Tables.putFill, contains]
  rcases Replay.applyFill_ok applied with ⟨known, rfl⟩ | ⟨unknown, p', filled, rfl⟩
  · rw [known, if_pos rfl]
    exact ⟨t, numbered, rfl, later⟩
  · obtain ⟨p, hp, keyed, plain', read⟩ := h.position n f.positionKey
    rw [hp] at filled
    have filled' : ({ p with quantity := p.quantity.withPlainZero } : Position).applyFill f = .ok p' :=
      (Position.apply_withPlainZero p f.side f.quantity f.price).trans filled
    have price : f.price.IsPlain := by
      rw [← plain]
      exact Decimal.isPlain_withPlainZero f.price
    rw [unknown, if_neg (by simp), read]
    refine ⟨{ t with
      fills := t.fills.insert f.execId (.ofFill n f)
      positions := t.positions.insert f.positionKey (.ofPosition n p') }, numbered ++ [(n, f)], ?_, ?_⟩
    · simp only [Failure.ofReported, bind, Except.bind, filled', Failure.ofOverflow]
      rfl
    · have above : (numbered.map (·.2)).any (·.execId == f.execId) = false := by rw [← h.fills_eq]; exact unknown
      refine { later with
        fills := h.fills.insert plain le h.fill_lt above
        fills_eq := ?_
        fill_lt := ?_
        positions := later.positions.insert ⟨?_, ?_, n, rfl⟩ }
      · rw [List.map_append, h.fills_eq]
        rfl
      · intro x hx
        rcases List.mem_append.mp hx with hx | hx
        · exact later.fill_lt x hx
        · obtain rfl : x = (n, f) := by simpa using hx
          exact Nat.lt_succ_self n
      · exact (Position.key_apply filled).trans keyed
      · exact Position.apply_avgPrice_isPlain filled plain' price

/-- Whether a record fits the columns of the database, and its orders have the accounts that they should. -/
structure Storable (owner : OrderId → AccountId) (r : Record) : Prop where
  seq_le : r.seq ≤ 9223372036854775807
  plain : r.withPlainZeros = r
  owned : ∀ o, r.event.snapshot? = some o → o.account = owner o.orderId
  session : ∀ state, r.event = .sessionState state → state.FitsColumns

/-- Whether a database and a replay have come equally far, with numbers below `bound`. -/
structure InStep (owner : OrderId → AccountId) (bound : Nat) (t : Tables) (s : Replay) : Prop where
  shows : ∃ numbered, Shows owner bound t s numbered
  lastSeq_lt : s.lastSeq < bound
  event_lt : ∀ n row, t.events.find? n = some row → n < bound

/-- What an event means beside its event row. -/
theorem Shows.putEvent (h : Shows owner n t s numbered) {e : Event} (le : n ≤ 9223372036854775807)
    (plain : e.withPlainZeros = e) (owned : ∀ o, e.snapshot? = some o → o.account = owner o.orderId)
    (session : ∀ state, e = .sessionState state → state.FitsColumns) (now : Instant)
    (applied : s.applyEvent n e = .ok s') :
    ∃ t' numbered', t.putEvent now n e = .ok t' ∧ Shows owner (n + 1) t' s' numbered' := by
  cases e with
  | order o =>
    obtain rfl := Except.ok.inj applied
    have plain : o.withPlainZeros = o := by simpa [Event.withPlainZeros] using plain
    exact ⟨_, numbered, rfl, h.putOrder rfl rfl rfl (owned o rfl) (fun _ => ⟨rfl, plain⟩) le⟩
  | orderReject o r =>
    obtain rfl := Except.ok.inj applied
    have closed : (o.withStatus .rejected r.rejectedAt).isOpen = true → False := by
      simp [Order.withStatus, Order.isOpen, OrderStatus.isOpen]
    exact ⟨_, numbered, rfl, h.putOrder rfl rfl rfl (owned _ rfl) (fun hOpen => (closed hOpen).elim) le⟩
  | fill f =>
    have plain : f.withPlainZeros = f := by simpa [Event.withPlainZeros] using plain
    exact h.putFill plain le applied
  | sessionState state =>
    obtain rfl := Except.ok.inj applied
    exact ⟨_, numbered, rfl, h.putSession (session state rfl) le⟩
  | _ =>
    obtain rfl := Except.ok.inj applied
    exact ⟨t, numbered, rfl, h.mono (Nat.le_succ n)⟩

theorem InStep.covers (h : InStep owner bound t s) {seq : Nat} (above : bound ≤ seq) : s.covers seq = false := by
  have last := h.lastSeq_lt
  simp only [Replay.covers, Bool.and_eq_false_iff, decide_eq_false_iff_not]
  omega

/-- A record that is stored. -/
theorem InStep.write (h : InStep owner bound t s) {r : Record} (storable : Storable owner r)
    (above : bound ≤ r.seq) (now : Instant) (applied : s.apply r = .ok s') :
    ∃ t', t.write now r = .ok t' ∧ InStep owner (r.seq + 1) t' s' := by
  obtain ⟨numbered, shows⟩ := h.shows
  rw [Replay.apply, h.covers above, if_neg (by simp)] at applied
  have seq : (EventRow.ofRecord r).seq = r.seq := toColumn_eq storable.seq_le
  have fresh : t.events.contains (EventRow.ofRecord r).seq = false := by
    rw [Table.contains]
    cases found : t.events.find? (EventRow.ofRecord r).seq with
    | none => rfl
    | some row =>
      have := h.event_lt _ row found
      omega
  have plain : r.event.withPlainZeros = r.event := congrArg Record.event storable.plain
  have here : Shows owner r.seq { t with events := t.events.insert (EventRow.ofRecord r).seq (.ofRecord r) }
      { s with lastSeq := r.seq } numbered := { shows.mono above with }
  obtain ⟨t', numbered', put, shows'⟩ :=
    here.putEvent storable.seq_le plain storable.owned storable.session now applied
  refine ⟨t', by rw [Tables.write, fresh, if_neg (by simp), put], ⟨numbered', shows'⟩, ?_, ?_⟩
  · rw [(Replay.applyEvent_orders applied).2]
    exact Nat.lt_succ_self r.seq
  · intro n row found
    rw [events_putEvent put, Table.find?_insert] at found
    split at found
    · omega
    · have := h.event_lt n row found
      omega

/-- A record that the database does not store. -/
theorem InStep.skip (h : InStep owner bound t s) {r : Record} (notStored : r.kind.isStored = false)
    (above : bound ≤ r.seq) (applied : s.apply r = .ok s') : InStep owner (r.seq + 1) t s' := by
  obtain ⟨numbered, shows⟩ := h.shows
  rw [Replay.apply, h.covers above, if_neg (by simp)] at applied
  have same : s' = { s with lastSeq := r.seq } := by
    rw [Record.kind] at notStored
    cases event : r.event with
    | sessionMessage m =>
      rw [event] at applied
      exact (Except.ok.inj applied).symm
    | _ => exact absurd notStored (by simp [event, Event.kind, EventKind.isStored])
  subst same
  refine ⟨⟨numbered, { shows.mono (above.trans (Nat.le_succ r.seq)) with }⟩, Nat.lt_succ_self r.seq, ?_⟩
  intro n row found
  have := h.event_lt n row found
  omega

/-- Records that are replayed, and those of them that are stored. -/
theorem InStep.run {rs : List Record} (h : InStep owner bound t s) (storable : ∀ r ∈ rs, Storable owner r)
    (above : ∀ r ∈ rs, bound ≤ r.seq) (increasing : rs.Pairwise fun r q => r.seq < q.seq)
    (applied : rs.foldlM Replay.apply s = .ok s') {writes : List (Instant × Record)}
    (stored : writes.map (·.2) = rs.filter (·.kind.isStored)) :
    ∃ bound' t', writes.foldlM (fun t w => t.write w.1 w.2) t = .ok t' ∧ InStep owner bound' t' s' := by
  induction rs generalizing bound t s writes with
  | nil =>
    obtain rfl : writes = [] := by simpa using stored
    exact ⟨bound, t, rfl, Except.ok.inj applied ▸ h⟩
  | cons r rs ih =>
    rw [List.foldlM_cons] at applied
    obtain ⟨s₁, first, later⟩ := exists_of_bind_eq_ok applied
    obtain ⟨above', rest⟩ := List.pairwise_cons.mp increasing
    have storable' : ∀ q ∈ rs, Storable owner q := fun q hq => storable q (by simp [hq])
    have here := above r (by simp)
    cases kind : r.kind.isStored with
    | true =>
      rw [List.filter_cons, kind, if_pos rfl] at stored
      obtain ⟨w, writes, rfl, rfl, written⟩ := List.map_eq_cons_iff.mp stored
      obtain ⟨t₁, write, h₁⟩ := h.write (storable w.2 (by simp)) here w.1 first
      obtain ⟨bound', t', writes', h'⟩ := ih h₁ storable' above' rest later written
      refine ⟨bound', t', ?_, h'⟩
      rw [List.foldlM_cons, write]
      exact writes'
    | false =>
      rw [List.filter_cons, kind, if_neg (by simp)] at stored
      exact ih (h.skip kind here first) storable' above' rest later stored

theorem inStep_empty : InStep owner 1 .empty .empty where
  shows := by
    have fills : ShowsFills Tables.empty.fills [] :=
      ⟨Table.sorted_empty, .nil, by simp, fun k row => by simp [Tables.empty, Table.find?_empty]⟩
    exact ⟨[], .nil, fills, rfl, by simp, .nil, fun k => .inl ⟨rfl, rfl⟩⟩
  lastSeq_lt := Nat.one_pos
  event_lt _ _ found := absurd found (by simp [Tables.empty, Table.find?_empty])

end Shows

/-! ## Answers -/

section Answers

variable {owner : OrderId → AccountId} {bound : Nat} {t : Tables} {s : Replay} {numbered : List (Nat × Fill)}

/-- The open orders. -/
theorem Shows.openOrders (h : Shows owner bound t s numbered) (account : AccountId) :
    t.openOrders account = .ok (s.openOrders account) := by
  have readings : ((s.orders.entries.filter fun e => e.2.order.account == account && e.2.order.isOpen).map
      fun e => ((e.2.seq : Int), (Except.ok e.2.order : Except JournalError Order))) =
      (t.orders.rows.filter fun r => r.account == account && r.isOpen == 1).map
        fun r => (r.seq, Tables.readBody Order.ofJson? r.seq .order r.body) := by
    refine h.orders.filter_map ?_ ?_
    · rintro k x row ⟨-, -, -, shows⟩
      rw [shows.account, shows.isOpen]
      cases x.order.isOpen <;> rfl
    · rintro k x row ⟨-, -, -, shows⟩ hOpen
      obtain ⟨body, plain⟩ := shows.body (Bool.and_eq_true_iff.mp hOpen).2
      rw [shows.seq, body, readBody_order, plain]
  have snapshots : (s.orders.rows.filter fun x => x.order.account == account && x.order.isOpen) =
      (s.orders.entries.filter fun e => e.2.order.account == account && e.2.order.isOpen).map (·.2) := by
    rw [Table.rows, List.filter_map]
    rfl
  -- Both sides sort by the same numbers, the one the rows and the other the snapshots.
  have sorted := congrArg (fun l => (l.mergeSort fun x y => decide (x.1 ≤ y.1)).mapM (·.2)) readings
  rw [← List.map_mergeSort (r := fun x y => decide (x.2.seq ≤ y.2.seq)) (by simp), List.mapM_map,
    ← List.map_mergeSort (r := fun x y => decide (x.seq ≤ y.seq)) (by simp), List.mapM_map,
    mapM_eq_ok (g := fun e => e.2.order) (by simp)] at sorted
  rw [Tables.openOrders, Replay.openOrders, snapshots,
    ← List.map_mergeSort (r := fun x y => decide (x.2.seq ≤ y.2.seq)) (by simp), List.map_map]
  exact sorted.symm

/-- The positions. Of a flat one the sign of its zero may be lost, but flat ones are left out. -/
theorem Shows.openPositions (h : Shows owner bound t s numbered) (account : AccountId) :
    t.openPositions account = .ok (s.openPositions account) := by
  let shown (e : PositionKey × Position) : Position := { e.2 with quantity := e.2.quantity.withPlainZero }
  have readings : ((s.positions.entries.filter fun e => e.1.account == account).map fun e =>
      (Except.ok (shown e) : Except JournalError Position)) =
      (t.positions.rows.filter (·.account == account)).map fun r =>
        (r.toPosition (ofColumn r.seq)).mapError JournalError.sink := by
    refine h.positions.filter_map ?_ ?_
    · rintro k p row ⟨rfl, -, n, rfl⟩
      rfl
    · rintro k p row ⟨rfl, plain, n, rfl⟩ -
      simp only [toPosition_ofPosition, Decimal.withPlainZero_of_isPlain plain, shown, Except.mapError]
  have read := congrArg (List.mapM id) readings
  rw [List.mapM_map, List.mapM_map, mapM_eq_ok (g := shown) (by simp)] at read
  have answers : t.openPositions account = ((t.positions.rows.filter (·.account == account)).mapM fun r =>
      (r.toPosition (ofColumn r.seq)).mapError JournalError.sink) >>= fun ps => pure (ps.filter (!·.isFlat)) := by
    rw [Tables.openPositions]
    congr
    funext r
    cases r.toPosition (ofColumn r.seq) <;> rfl
  have notFlat : ((s.positions.entries.filter fun e => e.1.account == account).map shown).filter (!·.isFlat) =
      s.openPositions account := by
    rw [Replay.openPositions, List.filter_map, List.filter_filter]
    have same : ∀ e : PositionKey × Position, (shown e).isFlat = e.2.isFlat := fun e => rfl
    simp only [Function.comp_def, same, Bool.and_comm (!_)]
    refine List.map_congr_left fun e he => ?_
    have held : e.2.isFlat = false := by simpa using (Bool.and_eq_true_iff.mp (List.mem_filter.mp he).2).2
    have plain : e.2.quantity.IsPlain := fun zero => absurd (held.symm.trans zero) (by simp)
    simp only [shown, Decimal.withPlainZero_of_isPlain plain]
  rw [answers]
  exact (congrArg (· >>= fun ps => pure (ps.filter (!·.isFlat))) read.symm).trans (congrArg Except.ok notFlat)

/-- The rows of fills are those of the numbered fills. -/
theorem ShowsFills.perm {fills : Table ExecId FillRow} (h : ShowsFills fills numbered) :
    fills.rows.Perm (numbered.map fun x => FillRow.ofFill x.1 x.2) := by
  have keyed : ∀ k row, fills.find? k = some row → row.execId = k := by
    intro k row found
    obtain ⟨x, -, same, rfl⟩ := (h.find?_iff k row).mp found
    exact same
  have nodup : (numbered.map fun x => FillRow.ofFill x.1 x.2).Nodup := by
    refine List.pairwise_map.mpr (h.increasing.imp_of_mem fun {x y} hx hy below same => ?_)
    have seq := congrArg FillRow.seq same
    rw [FillRow.ofFill, FillRow.ofFill, toColumn_eq (h.plain x hx).1, toColumn_eq (h.plain y hy).1] at seq
    exact below.ne (Int.ofNat_inj.mp seq)
  refine (List.perm_ext_iff_of_nodup (h.sorted.nodup_rows keyed).of_map nodup).mpr fun row => ?_
  rw [h.sorted.mem_rows_iff, List.mem_map]
  constructor
  · rintro ⟨k, found⟩
    obtain ⟨x, hx, -, rfl⟩ := (h.find?_iff k row).mp found
    exact ⟨x, hx, rfl⟩
  · rintro ⟨x, hx, rfl⟩
    exact ⟨x.2.execId, (h.find?_iff _ _).mpr ⟨x, hx, rfl, rfl⟩⟩

/-- Rows of fills that are sorted by their numbers stand in the order of the fills. -/
theorem ShowsFills.mergeSort {fills : Table ExecId FillRow} (h : ShowsFills fills numbered) (p : FillRow → Bool) :
    ((fills.rows.filter p).mergeSort fun r q => decide (r.seq ≤ q.seq)) =
      (numbered.filter fun x => p (.ofFill x.1 x.2)).map fun x => FillRow.ofFill x.1 x.2 := by
  have perm : (fills.rows.filter p).Perm
      ((numbered.filter fun x => p (.ofFill x.1 x.2)).map fun x => FillRow.ofFill x.1 x.2) := by
    have filtered := h.perm.filter p
    rwa [List.filter_map] at filtered
  have below : ((numbered.filter fun x => p (.ofFill x.1 x.2)).map fun x => FillRow.ofFill x.1 x.2).Pairwise
      fun r q => r.seq < q.seq := by
    refine List.pairwise_map.mpr ((h.increasing.filter _).imp_of_mem fun {x y} hx hy below => ?_)
    rw [FillRow.ofFill, FillRow.ofFill, toColumn_eq (h.plain x (List.mem_filter.mp hx).1).1,
      toColumn_eq (h.plain y (List.mem_filter.mp hy).1).1]
    exact Int.ofNat_lt.mpr below
  exact mergeSort_eq_of_perm perm below

/-- The fills of a day. -/
theorem Shows.fillsOn (h : Shows owner bound t s numbered) (account : AccountId) (date : Date) :
    t.fillsOn account date = .ok (s.fillsOn account date) := by
  have onDate : ∀ x : Nat × Fill, ((FillRow.ofFill x.1 x.2).account == account &&
      (FillRow.ofFill x.1 x.2).tradeDate == date.text) =
      (x.2.account == account && x.2.executedAt.date == date) := by
    intro x
    simp only [FillRow.ofFill, beq_eq_decide, Date.text_injective.eq_iff]
  have bodies : ∀ x ∈ numbered.filter fun x => x.2.account == account && x.2.executedAt.date == date,
      ((fun r : FillRow => Tables.readBody Fill.ofJson? r.seq .fill r.body) ∘ fun x => FillRow.ofFill x.1 x.2) x =
        .ok x.2 := by
    intro x hx
    rw [Function.comp_apply, FillRow.ofFill, readBody_fill, (h.fills.plain x (List.mem_filter.mp hx).1).2]
  simp only [Tables.fillsOn, h.fills.mergeSort, onDate]
  rw [List.mapM_map, mapM_eq_ok bodies, Replay.fillsOn, h.fills_eq, List.filter_map]
  rfl

/-- The state of a session. -/
theorem Shows.session? (h : Shows owner bound t s numbered) (key : SessionKey) :
    t.session? key = .ok (s.session? key) := by
  rw [Tables.session?, Replay.session?]
  rcases h.sessions key with ⟨none, none'⟩ | ⟨state, n, some, some', rfl, fits, -, -⟩
  · rw [rowKey] at none'
    rw [none, none']
  · rw [rowKey] at some'
    rw [some, some']
    simp only [SessionRow.ofState, Instant.parseStrict_offsetText fits.year, ofColumn_toColumn fits.nextSenderSeq_le,
      ofColumn_toColumn fits.nextTargetSeq_le]
    rfl

end Answers

end Database

end Blotter
