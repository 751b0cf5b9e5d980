import Mathlib
import Blotter.Proofs.Database.Attempts
import Blotter.Proofs.Database.Replay
import Blotter.Proofs.Replay.Reference

/-!
# What writes leave in the tables

Of writes to an empty database those count that find their number free (`Tables.accepted`). They leave an event row
each. The row of a session is that of the latest state, and the row of an order is that of its latest snapshot, except
that the first one says whose order it is. One write keeps this (`Tables.Reflects.write`), so it holds after any writes
(`Tables.reflects_of_writeTimed`).
-/

namespace Blotter

/-- The snapshot that the database stores of the order of an event. That of a reject gets the time at which it is
stored. -/
def Event.storedOrder? (now : Instant) : Event → Option Order
  | .order o => some o
  | .orderReject o _ => some (o.withStatus .rejected now)
  | .command _ | .fill _ | .sessionState _ | .sessionMessage _ | .fillCopy _ | .pnlSnapshot _
  | .messagingStats _ => none

namespace Database

/-! ## The latest of a list -/

section Latest

variable {α : Type} {x y : Nat × α} {xs : List (Nat × α)}

/-- Whether an element of a list has a number that no other one is above, as far as columns tell. -/
def IsLatest (x : Nat × α) (xs : List (Nat × α)) : Prop := x ∈ xs ∧ ∀ y ∈ xs, toColumn y.1 ≤ toColumn x.1

theorem isLatest_singleton (x : Nat × α) : IsLatest x [x] :=
  ⟨List.mem_singleton_self x, fun y hy => by rw [List.mem_singleton.mp hy]⟩

theorem IsLatest.concat_of_lt (h : IsLatest x xs) (newer : toColumn x.1 < toColumn y.1) : IsLatest y (xs ++ [y]) := by
  refine ⟨List.mem_append_right _ (List.mem_singleton_self y), fun z hz => ?_⟩
  rcases List.mem_append.mp hz with old | new
  · exact (h.2 z old).trans newer.le
  · rw [List.mem_singleton.mp new]

theorem IsLatest.concat_of_not_lt (h : IsLatest x xs) (older : ¬toColumn x.1 < toColumn y.1) :
    IsLatest x (xs ++ [y]) := by
  refine ⟨List.mem_append_left _ h.1, fun z hz => ?_⟩
  rcases List.mem_append.mp hz with old | new
  · exact h.2 z old
  · rw [List.mem_singleton.mp new]
    exact not_lt.mp older

end Latest

/-! ## Writes that count -/

/-- The writes that count, after one more. -/
def accept (ws : List (Instant × Record)) (w : Instant × Record) : List (Instant × Record) :=
  if ws.any fun v => toColumn v.2.seq == toColumn w.2.seq then ws else ws ++ [w]

/-- The writes that find their number free. -/
def accepted (ws : List (Instant × Record)) : List (Instant × Record) := ws.foldl accept []

theorem accepted_concat (ws : List (Instant × Record)) (w : Instant × Record) :
    accepted (ws ++ [w]) = accept (accepted ws) w := by
  rw [accepted, List.foldl_concat]
  rfl

theorem mem_of_mem_accepted {ws : List (Instant × Record)} {w : Instant × Record} (h : w ∈ accepted ws) : w ∈ ws := by
  induction ws using List.reverseRecOn with
  | nil => exact absurd h List.not_mem_nil
  | append_singleton ws v ih =>
    rw [accepted_concat, accept] at h
    split at h
    · exact List.mem_append_left _ (ih h)
    · rcases List.mem_append.mp h with old | new
      · exact List.mem_append_left _ (ih old)
      · exact List.mem_append_right _ new

/-- Of every number that is written one write counts. -/
theorem exists_mem_accepted {ws : List (Instant × Record)} {w : Instant × Record} (h : w ∈ ws) :
    ∃ v ∈ accepted ws, toColumn v.2.seq = toColumn w.2.seq := by
  induction ws using List.reverseRecOn with
  | nil => exact absurd h List.not_mem_nil
  | append_singleton ws u ih =>
    rw [accepted_concat, accept]
    rcases List.mem_append.mp h with old | new
    · obtain ⟨v, hv, same⟩ := ih old
      split
      · exact ⟨v, hv, same⟩
      · exact ⟨v, List.mem_append_left _ hv, same⟩
    · obtain rfl := List.mem_singleton.mp new
      split
      · rename_i taken
        obtain ⟨v, hv, same⟩ := List.any_eq_true.mp taken
        exact ⟨v, hv, beq_iff_eq.mp same⟩
      · exact ⟨w, List.mem_append_right _ (List.mem_singleton_self w), rfl⟩

/-- The snapshots of an order among writes, with their numbers. -/
def snapshotsOf (k : OrderId) (ws : List (Instant × Record)) : List (Nat × Order) :=
  ws.filterMap fun w => ((w.2.event.storedOrder? w.1).filter (·.orderId == k)).map (w.2.seq, ·)

/-- The states of a session among writes, with their numbers. -/
def statesOf (k : SessionRowKey) (ws : List (Instant × Record)) : List (Nat × SessionState) :=
  ws.filterMap fun w => (w.2.event.sessionState?.filter fun s => rowKey s.key == k).map (w.2.seq, ·)

theorem mem_snapshotsOf {k : OrderId} {ws : List (Instant × Record)} {x : Nat × Order} :
    x ∈ snapshotsOf k ws ↔
      ∃ w ∈ ws, w.2.event.storedOrder? w.1 = some x.2 ∧ x.2.orderId = k ∧ w.2.seq = x.1 := by
  simp only [snapshotsOf, List.mem_filterMap, Option.map_eq_some_iff, Option.filter_eq_some_iff, beq_iff_eq]
  constructor
  · rintro ⟨w, hw, o, ⟨stored, name⟩, rfl⟩
    exact ⟨w, hw, stored, name, rfl⟩
  · rintro ⟨w, hw, stored, name, number⟩
    exact ⟨w, hw, x.2, ⟨stored, name⟩, by rw [number]⟩

theorem mem_statesOf {k : SessionRowKey} {ws : List (Instant × Record)} {x : Nat × SessionState} :
    x ∈ statesOf k ws ↔ ∃ w ∈ ws, w.2.event.sessionState? = some x.2 ∧ rowKey x.2.key = k ∧ w.2.seq = x.1 := by
  simp only [statesOf, List.mem_filterMap, Option.map_eq_some_iff, Option.filter_eq_some_iff, beq_iff_eq]
  constructor
  · rintro ⟨w, hw, s, ⟨told, key⟩, rfl⟩
    exact ⟨w, hw, told, key, rfl⟩
  · rintro ⟨w, hw, told, key, number⟩
    exact ⟨w, hw, x.2, ⟨told, key⟩, by rw [number]⟩

/-! ## Rows that show a list -/

/-- The row of an order whose first snapshot was one and whose latest snapshot is another. -/
def OrderRow.ofSnapshots (first : Order) (latest : Nat × Order) : OrderRow :=
  { OrderRow.ofOrder latest.1 latest.2 with
    account := first.account, strategy := first.strategy, instrument := first.instrument }

/-- Whether the row of an order, if there is one, shows snapshots of it. -/
def ShowsSnapshots (row? : Option OrderRow) (xs : List (Nat × Order)) : Prop :=
  (xs = [] ∧ row? = none) ∨
    ∃ first latest, xs.head? = some first ∧ IsLatest latest xs ∧ row? = some (.ofSnapshots first.2 latest)

/-- Whether the row of a session, if there is one, shows states of it. -/
def ShowsStates (row? : Option SessionRow) (xs : List (Nat × SessionState)) : Prop :=
  (xs = [] ∧ row? = none) ∨ ∃ latest, IsLatest latest xs ∧ row? = some (.ofState latest.1 latest.2)

section Put

variable {t : Tables} {n : Nat}

theorem find?_orders_putOrder_ne (t : Tables) {row : OrderRow} {k : OrderId} (h : k ≠ row.orderId) :
    (t.putOrder row).orders.find? k = t.orders.find? k := by
  rw [Tables.putOrder]
  split
  · exact Table.find?_insert_ne h _ _
  · split
    · exact Table.find?_insert_ne h _ _
    · rfl

theorem find?_sessions_putSession_ne (t : Tables) {row : SessionRow} {k : SessionRowKey} (h : k ≠ row.key) :
    (t.putSession row).sessions.find? k = t.sessions.find? k := by
  rw [Tables.putSession]
  split
  · exact Table.find?_insert_ne h _ _
  · split
    · exact Table.find?_insert_ne h _ _
    · rfl

theorem sorted_orders_putOrder (h : t.orders.Sorted) (row : OrderRow) : (t.putOrder row).orders.Sorted := by
  rw [Tables.putOrder]
  split
  · exact h.insert _ _
  · split
    · exact h.insert _ _
    · exact h

theorem sorted_sessions_putSession (h : t.sessions.Sorted) (row : SessionRow) :
    (t.putSession row).sessions.Sorted := by
  rw [Tables.putSession]
  split
  · exact h.insert _ _
  · split
    · exact h.insert _ _
    · exact h

/-- One more snapshot of an order. -/
theorem ShowsSnapshots.putOrder {xs : List (Nat × Order)} {o : Order}
    (h : ShowsSnapshots (t.orders.find? o.orderId) xs) (named : ∀ x ∈ xs, x.2.orderId = o.orderId) :
    ShowsSnapshots ((t.putOrder (.ofOrder n o)).orders.find? o.orderId) (xs ++ [(n, o)]) := by
  have key : (OrderRow.ofOrder n o).orderId = o.orderId := rfl
  rw [Tables.putOrder, key]
  rcases h with ⟨rfl, none⟩ | ⟨first, latest, head, isLatest, shown⟩
  · rw [none, Table.find?_insert_self]
    exact .inr ⟨(n, o), (n, o), rfl, isLatest_singleton _, rfl⟩
  · have head' : (xs ++ [(n, o)]).head? = some first := by rw [List.head?_append, head]; rfl
    simp only [shown]
    split
    · rename_i newer
      rw [Table.find?_insert_self]
      refine .inr ⟨first, (n, o), head', isLatest.concat_of_lt newer, ?_⟩
      have name : latest.2.orderId = o.orderId := named latest isLatest.1
      rw [OrderRow.ofSnapshots, OrderRow.ofSnapshots, OrderRow.ofOrder, OrderRow.ofOrder, name]
    · rename_i older
      exact .inr ⟨first, latest, head', isLatest.concat_of_not_lt older, shown⟩

/-- One more state of a session. -/
theorem ShowsStates.putSession {xs : List (Nat × SessionState)} {s : SessionState}
    (h : ShowsStates (t.sessions.find? (rowKey s.key)) xs) :
    ShowsStates ((t.putSession (.ofState n s)).sessions.find? (rowKey s.key)) (xs ++ [(n, s)]) := by
  have key : (SessionRow.ofState n s).key = rowKey s.key := rfl
  rw [Tables.putSession, key]
  rcases h with ⟨rfl, none⟩ | ⟨latest, isLatest, shown⟩
  · rw [none, Table.find?_insert_self]
    exact .inr ⟨(n, s), isLatest_singleton _, rfl⟩
  · simp only [shown]
    split
    · rename_i newer
      rw [Table.find?_insert_self]
      exact .inr ⟨(n, s), isLatest.concat_of_lt newer, rfl⟩
    · rename_i older
      exact .inr ⟨latest, isLatest.concat_of_not_lt older, shown⟩

end Put

/-! ## One write after the other -/

namespace Tables

variable {t t' : Tables} {ws : List (Instant × Record)} {now : Instant}

theorem orders_putSession (t : Tables) (row : SessionRow) : (t.putSession row).orders = t.orders := by
  rw [putSession]
  split
  · rfl
  · split <;> rfl

theorem sessions_putOrder (t : Tables) (row : OrderRow) : (t.putOrder row).sessions = t.sessions := by
  rw [putOrder]
  split
  · rfl
  · split <;> rfl

theorem putFill_frame {n : Nat} {f : Fill} (h : t.putFill n f = .ok t') :
    t'.orders = t.orders ∧ t'.sessions = t.sessions := by
  rw [putFill] at h
  split at h
  · rw [Except.ok.inj h]
    exact ⟨rfl, rfl⟩
  · obtain ⟨old, -, h⟩ := exists_of_bind_eq_ok h
    obtain ⟨new, -, h⟩ := exists_of_bind_eq_ok h
    exact Except.ok.inj h ▸ ⟨rfl, rfl⟩

/-- The order rows after an event. -/
theorem orders_putEvent {n : Nat} {e : Event} (h : t.putEvent now n e = .ok t') :
    t'.orders = match e.storedOrder? now with
      | none => t.orders
      | some o => (t.putOrder (.ofOrder n o)).orders := by
  cases e with
  | order o => exact Except.ok.inj h ▸ rfl
  | orderReject o r => exact Except.ok.inj h ▸ rfl
  | fill f => exact (putFill_frame h).1
  | sessionState s => exact Except.ok.inj h ▸ orders_putSession t _
  | _ => exact Except.ok.inj h ▸ rfl

/-- The session rows after an event. -/
theorem sessions_putEvent {n : Nat} {e : Event} (h : t.putEvent now n e = .ok t') :
    t'.sessions = match e.sessionState? with
      | none => t.sessions
      | some s => (t.putSession (.ofState n s)).sessions := by
  cases e with
  | order o => exact Except.ok.inj h ▸ sessions_putOrder t _
  | orderReject o r => exact Except.ok.inj h ▸ sessions_putOrder t _
  | fill f => exact (putFill_frame h).2
  | sessionState s => exact Except.ok.inj h ▸ rfl
  | _ => exact Except.ok.inj h ▸ rfl

/-- The order rows after an event. Only the snapshots of its own order become more. -/
theorem showsSnapshots_putEvent {r : Record} (sorted : t.orders.Sorted)
    (shows : ∀ k, ShowsSnapshots (t.orders.find? k) (snapshotsOf k ws)) (put : t.putEvent now r.seq r.event = .ok t') :
    t'.orders.Sorted ∧ ∀ k, ShowsSnapshots (t'.orders.find? k) (snapshotsOf k (ws ++ [(now, r)])) := by
  have orders := orders_putEvent put
  cases stored : r.event.storedOrder? now with
  | none =>
    rw [stored] at orders
    refine ⟨orders ▸ sorted, fun k => ?_⟩
    rw [snapshotsOf, List.filterMap_append, ← snapshotsOf, orders]
    simpa [stored] using shows k
  | some o =>
    rw [stored] at orders
    refine ⟨orders ▸ sorted_orders_putOrder sorted _, fun k => ?_⟩
    rw [snapshotsOf, List.filterMap_append, ← snapshotsOf, orders]
    by_cases name : o.orderId = k
    · subst name
      have named : ∀ x ∈ snapshotsOf o.orderId ws, x.2.orderId = o.orderId := fun x hx => by
        obtain ⟨_, -, -, same, -⟩ := mem_snapshotsOf.mp hx
        exact same
      simpa [stored] using (shows o.orderId).putOrder (n := r.seq) named
    · have other : k ≠ (OrderRow.ofOrder r.seq o).orderId := Ne.symm name
      simpa [stored, name, find?_orders_putOrder_ne t other] using shows k

/-- The session rows after an event. Only the states of its own session become more. -/
theorem showsStates_putEvent {r : Record} (sorted : t.sessions.Sorted)
    (shows : ∀ k, ShowsStates (t.sessions.find? k) (statesOf k ws)) (put : t.putEvent now r.seq r.event = .ok t') :
    t'.sessions.Sorted ∧ ∀ k, ShowsStates (t'.sessions.find? k) (statesOf k (ws ++ [(now, r)])) := by
  have sessions := sessions_putEvent put
  cases told : r.event.sessionState? with
  | none =>
    rw [told] at sessions
    refine ⟨sessions ▸ sorted, fun k => ?_⟩
    rw [statesOf, List.filterMap_append, ← statesOf, sessions]
    simpa [told] using shows k
  | some s =>
    rw [told] at sessions
    refine ⟨sessions ▸ sorted_sessions_putSession sorted _, fun k => ?_⟩
    rw [statesOf, List.filterMap_append, ← statesOf, sessions]
    by_cases same : rowKey s.key = k
    · subst same
      simpa [told] using (shows (rowKey s.key)).putSession (n := r.seq)
    · have other : k ≠ (SessionRow.ofState r.seq s).key := Ne.symm same
      simpa [told, same, find?_sessions_putSession_ne t other] using shows k

/-- Whether tables show what writes leave that all find their number free. -/
structure Reflects (t : Tables) (ws : List (Instant × Record)) : Prop where
  events_sorted : t.events.Sorted
  orders_sorted : t.orders.Sorted
  sessions_sorted : t.sessions.Sorted
  event : ∀ c, t.events.find? c =
    (ws.find? fun w => toColumn w.2.seq == c).map fun w => EventRow.ofRecord w.2
  order : ∀ k, ShowsSnapshots (t.orders.find? k) (snapshotsOf k ws)
  session : ∀ k, ShowsStates (t.sessions.find? k) (statesOf k ws)

theorem reflects_empty : empty.Reflects [] where
  events_sorted := Table.sorted_empty
  orders_sorted := Table.sorted_empty
  sessions_sorted := Table.sorted_empty
  event _ := rfl
  order _ := .inl ⟨rfl, rfl⟩
  session _ := .inl ⟨rfl, rfl⟩

/-- A number is taken if it has been written. -/
theorem Reflects.contains (h : t.Reflects ws) (c : Int) :
    t.events.contains c = ws.any fun w => toColumn w.2.seq == c := by
  rw [Table.contains, h.event, Option.isSome_map, Bool.eq_iff_iff, List.find?_isSome, List.any_eq_true]

/-- The event row of a write that finds its number free. -/
theorem Reflects.find?_insert (h : t.Reflects ws) {w : Instant × Record}
    (free : ¬(ws.any fun v => toColumn v.2.seq == toColumn w.2.seq) = true) (c : Int) :
    (t.events.insert (toColumn w.2.seq) (.ofRecord w.2)).find? c =
      ((ws ++ [w]).find? fun v => toColumn v.2.seq == c).map fun v => EventRow.ofRecord v.2 := by
  rw [Table.find?_insert, List.find?_append, h.event]
  by_cases here : c = toColumn w.2.seq
  · subst here
    have none : ws.find? (fun v => toColumn v.2.seq == toColumn w.2.seq) = none := by
      rw [List.find?_eq_none]
      exact fun v hv taken => free (List.any_eq_true.mpr ⟨v, hv, taken⟩)
    rw [if_pos rfl, none, Option.none_or, List.find?_singleton, if_pos (beq_self_eq_true _)]
    rfl
  · have other : [w].find? (fun v => toColumn v.2.seq == c) = none := by
      rw [List.find?_singleton, if_neg (by simpa using Ne.symm here)]
    rw [if_neg here, other, Option.or_none]

/-- One write. -/
theorem Reflects.write (h : t.Reflects ws) {r : Record} (written : t.write now r = .ok t') :
    t'.Reflects (accept ws (now, r)) := by
  have key : (EventRow.ofRecord r).seq = toColumn r.seq := rfl
  rw [Tables.write, key, h.contains] at written
  rw [accept]
  split at written
  · rename_i taken
    rw [if_pos taken]
    exact Except.ok.inj written ▸ h
  · rename_i free
    rw [if_neg free]
    let u : Tables := { t with events := t.events.insert (toColumn r.seq) (.ofRecord r) }
    obtain ⟨orders_sorted, order⟩ := showsSnapshots_putEvent (t := u) h.orders_sorted h.order written
    obtain ⟨sessions_sorted, session⟩ := showsStates_putEvent (t := u) h.sessions_sorted h.session written
    refine ⟨?_, orders_sorted, sessions_sorted, fun c => ?_, order, session⟩
    · rw [events_putEvent written]
      exact h.events_sorted.insert _ _
    · rw [events_putEvent written]
      exact h.find?_insert (w := (now, r)) free c

/-- Writes to an empty database leave what those leave that count. -/
theorem reflects_of_writeTimed (h : empty.writeTimed ws = .ok t) : t.Reflects (accepted ws) := by
  induction ws using List.reverseRecOn generalizing t with
  | nil => exact Except.ok.inj h ▸ reflects_empty
  | append_singleton ws w ih =>
    obtain ⟨u, before, last⟩ := foldlM_concat_ok h
    rw [accepted_concat]
    exact (ih before).write last

end Tables

end Database

end Blotter
