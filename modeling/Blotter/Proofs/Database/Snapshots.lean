import Mathlib
import Blotter.Proofs.Database.Latest

/-!
# The rows of orders

The row of an order mixes two of its snapshots. Status, number and body are those of the latest one, and whose order it
is, of which strategy and in which instrument, is what the first one says (`OrderRow.Tells`). So the open orders of an
account are the latest snapshots of those orders whose first snapshot names the account, whatever the latest one says
(`Uptake.order_rows`): an order that changes its account stays where it was (`moved_order_stays`).
-/

namespace Blotter.Database

/-! ## Numbers are taken once -/

/-- Writes that count have different numbers. -/
theorem pairwise_accepted (ws : List (Instant × Record)) :
    (accepted ws).Pairwise fun w v => toColumn w.2.seq ≠ toColumn v.2.seq := by
  induction ws using List.reverseRecOn with
  | nil => exact .nil
  | append_singleton ws w ih =>
    rw [accepted_concat, accept]
    split
    · exact ih
    · rename_i free
      refine List.pairwise_append.mpr ⟨ih, List.pairwise_singleton _ _, fun v hv u hu same => ?_⟩
      rw [List.mem_singleton.mp hu] at same
      exact free (List.any_eq_true.mpr ⟨v, hv, beq_iff_eq.mpr same⟩)

theorem pairwise_snapshotsOf {ws : List (Instant × Record)}
    (distinct : ws.Pairwise fun w v => toColumn w.2.seq ≠ toColumn v.2.seq) (k : OrderId) :
    (snapshotsOf k ws).Pairwise fun x y => toColumn x.1 ≠ toColumn y.1 := by
  refine distinct.filterMap _ fun w v differ x hx y hy => ?_
  obtain ⟨_, -, rfl⟩ := Option.map_eq_some_iff.mp hx
  obtain ⟨_, -, rfl⟩ := Option.map_eq_some_iff.mp hy
  exact differ

theorem IsLatest.unique {α : Type} {x y : Nat × α} {xs : List (Nat × α)}
    (distinct : xs.Pairwise fun x y => toColumn x.1 ≠ toColumn y.1) (h : IsLatest x xs) (h' : IsLatest y xs) :
    x = y :=
  List.inj_on_of_nodup_map (List.pairwise_map.mpr distinct) h.1 h'.1 (le_antisymm (h'.2 x h.1) (h.2 y h'.1))

/-! ## What a row says -/

/-- Whether an order has snapshots among writes, of which one is the first and another the latest. -/
def HasSnapshots (ws : List (Instant × Record)) (k : OrderId) (first latest : Nat × Order) : Prop :=
  (snapshotsOf k ws).head? = some first ∧ IsLatest latest (snapshotsOf k ws)

/-- Whether a row says about an order what its first and its latest snapshot say, the latter with its number. -/
structure OrderRow.Tells (row : OrderRow) (first : Order) (n : Nat) (latest : Order) : Prop where
  orderId : row.orderId = latest.orderId
  status : row.status = latest.status.name
  isOpen : row.isOpen = if latest.isOpen then 1 else 0
  seq : row.seq = toColumn n
  body : Tables.readBody Order.ofJson? row.seq .order row.body = .ok latest.withPlainZeros
  account : row.account = first.account
  strategy : row.strategy = first.strategy
  instrument : row.instrument = first.instrument

theorem OrderRow.tells_ofSnapshots (first : Order) (latest : Nat × Order) :
    (OrderRow.ofSnapshots first latest).Tells first latest.1 latest.2 where
  orderId := rfl
  status := rfl
  isOpen := rfl
  seq := rfl
  body := readBody_order latest.2 _
  account := rfl
  strategy := rfl
  instrument := rfl

namespace Tables

variable {t : Tables} {ws : List (Instant × Record)}

theorem Reflects.mem_orders_iff (h : t.Reflects (accepted ws)) {row : OrderRow} :
    row ∈ t.orders.rows ↔
      ∃ k first latest, HasSnapshots (accepted ws) k first latest ∧ row = .ofSnapshots first.2 latest := by
  rw [h.orders_sorted.mem_rows_iff]
  refine exists_congr fun k => ?_
  rcases h.order k with ⟨nothing, none⟩ | ⟨first, latest, head, isLatest, shown⟩
  · rw [none]
    constructor
    · intro found
      cases found
    · rintro ⟨first, latest, ⟨head, -⟩, -⟩
      rw [nothing] at head
      cases head
  · rw [shown, Option.some.injEq]
    constructor
    · rintro rfl
      exact ⟨first, latest, ⟨head, isLatest⟩, rfl⟩
    · rintro ⟨first', latest', ⟨head', isLatest'⟩, rfl⟩
      obtain rfl := Option.some.inj (head.symm.trans head')
      rw [isLatest.unique (pairwise_snapshotsOf (pairwise_accepted ws) k) isLatest']

/-- The open orders of an account are the latest snapshots of the orders whose first snapshot names it. -/
theorem Reflects.openOrders (h : t.Reflects (accepted ws)) (account : AccountId) :
    ∃ orders, t.openOrders account = .ok orders ∧ ∀ o, o ∈ orders ↔
      ∃ k first latest, HasSnapshots (accepted ws) k first latest ∧ first.2.account = account ∧
        latest.2.isOpen = true ∧ o = latest.2.withPlainZeros := by
  have chosen (row : OrderRow) :
      row ∈ (t.orders.rows.filter fun r => r.account == account && r.isOpen == 1).mergeSort
          (fun r s => r.seq ≤ s.seq) ↔ row ∈ t.orders.rows ∧ row.account = account ∧ row.isOpen = 1 := by
    simp [List.mem_mergeSort]
  have isOpen_iff (first : Order) (latest : Nat × Order) :
      (OrderRow.ofSnapshots first latest).isOpen = 1 ↔ latest.2.isOpen = true := by
    have shown : (OrderRow.ofSnapshots first latest).isOpen = if latest.2.isOpen then 1 else 0 := rfl
    rw [shown]
    cases latest.2.isOpen <;> simp
  have read (first : Order) (latest : Nat × Order) : readBody Order.ofJson? (OrderRow.ofSnapshots first latest).seq
      .order (OrderRow.ofSnapshots first latest).body = .ok latest.2.withPlainZeros := readBody_order latest.2 _
  obtain ⟨orders, answer, mem⟩ := exists_mapM_eq_ok
    (f := fun r : OrderRow => readBody Order.ofJson? r.seq .order r.body) fun row hrow => by
      obtain ⟨k, first, latest, -, rfl⟩ := h.mem_orders_iff.mp ((chosen row).mp hrow).1
      exact ⟨_, read first.2 latest⟩
  refine ⟨orders, answer, fun o => (mem o).trans ⟨?_, ?_⟩⟩
  · rintro ⟨row, hrow, body⟩
    obtain ⟨there, owned, isOpen⟩ := (chosen row).mp hrow
    obtain ⟨k, first, latest, has, rfl⟩ := h.mem_orders_iff.mp there
    exact ⟨k, first, latest, has, owned, (isOpen_iff _ _).mp isOpen, Except.ok.inj (body.symm.trans (read _ _))⟩
  · rintro ⟨k, first, latest, has, owned, isOpen, rfl⟩
    exact ⟨_, (chosen _).mpr ⟨h.mem_orders_iff.mpr ⟨k, first, latest, has, rfl⟩, owned, (isOpen_iff _ _).mpr isOpen⟩,
      read _ _⟩

end Tables

/-- After any attempts to store batches in an empty database every row of an order has status, number and body of its
latest snapshot, and the open orders of an account are those whose first snapshot names it. -/
theorem Uptake.order_rows {s : Store} {d : Disk} (isOpen : s.IsOpen d) (empty : s.tables d = .empty)
    (script : ScriptedSink) (attempts : List Attempt) :
    ∃ s' d' script' ws, (⟨(.store s, d, script), []⟩ : Uptake).run attempts = ⟨(.store s', d', script'), ws⟩ ∧
      (∀ row ∈ (s'.tables d').orders.rows, ∃ first latest,
        HasSnapshots (accepted ws) row.orderId first latest ∧ row.Tells first.2 latest.1 latest.2) ∧
      ∀ account, ∃ orders, (s'.tables d').openOrders account = .ok orders ∧ ∀ o, o ∈ orders ↔
        ∃ k first latest, HasSnapshots (accepted ws) k first latest ∧ first.2.account = account ∧
          latest.2.isOpen = true ∧ o = latest.2.withPlainZeros := by
  have start : (⟨(.store s, d, script), []⟩ : Uptake).Holds .empty :=
    ⟨s, d, script, rfl, isOpen, congrArg Except.ok empty.symm⟩
  obtain ⟨s', d', script', world, -, tables⟩ := start.run attempts
  have reflects := Tables.reflects_of_writeTimed tables
  refine ⟨s', d', script', _, by rw [← world], fun row hrow => ?_, reflects.openOrders⟩
  obtain ⟨k, first, latest, has, rfl⟩ := reflects.mem_orders_iff.mp hrow
  obtain ⟨-, -, -, name, -⟩ := mem_snapshotsOf.mp has.2.1
  have key : (OrderRow.ofSnapshots first.2 latest).orderId = k := name
  exact ⟨first, latest, key.symm ▸ has, OrderRow.tells_ofSnapshots first.2 latest⟩

/-- An order that is open, of some account. -/
def orderOf (account : String) : Order :=
  let one : Decimal := ⟨false, 1, 0, Decimal.one_lt_limit, Decimal.zero_le_maxScale⟩
  Order.limit ⟨"o"⟩ ⟨account⟩ ⟨"S"⟩ ⟨"I"⟩ .buy one one .epoch

/-- An order of one account that is one of another account later. -/
def movedOrder : List Record := [⟨1, .epoch, true, .order (orderOf "A")⟩, ⟨2, .epoch, true, .order (orderOf "B")⟩]

theorem hasSnapshots_movedOrder :
    HasSnapshots (accepted (movedOrder.map (.epoch, ·))) ⟨"o"⟩ (1, orderOf "A") (2, orderOf "B") := by
  have snapshots :
      snapshotsOf ⟨"o"⟩ (accepted (movedOrder.map (.epoch, ·))) = [(1, orderOf "A"), (2, orderOf "B")] := by
    decide +kernel
  rw [HasSnapshots, snapshots]
  exact ⟨rfl, (isLatest_singleton _).concat_of_lt (by decide)⟩

/-- The order is stored at the second attempt. It is then an open order of the first account, with the second one in
it. -/
theorem order_rows_movedOrder :
    let attempts : List Attempt :=
      [⟨.epoch, .refused (.unavailable "x"), movedOrder⟩, ⟨.epoch, .unconfirmed (.unavailable "x"), movedOrder⟩]
    ∃ s d script ws orders, (⟨(.store (.memory .empty), .empty, {}), []⟩ : Uptake).run attempts =
        ⟨(.store s, d, script), ws⟩ ∧
      (s.tables d).openOrders ⟨"A"⟩ = .ok orders ∧ (orderOf "B").withPlainZeros ∈ orders := by
  intro attempts
  have isOpen : (Store.memory .empty).IsOpen Disk.empty := trivial
  obtain ⟨s, d, script, ws, run, -, answers⟩ := Uptake.order_rows isOpen rfl {} attempts
  have stored : ws = movedOrder.map (.epoch, ·) := (congrArg Uptake.stored run).symm.trans (by decide +kernel)
  obtain ⟨orders, answer, mem⟩ := answers ⟨"A"⟩
  exact ⟨s, d, script, ws, orders, run, answer,
    (mem _).mpr ⟨_, _, _, stored ▸ hasSnapshots_movedOrder, rfl, by decide, rfl⟩⟩

/-- The row of an order that moved says another account than its body, and it is found under that account. -/
theorem moved_order_stays :
    ∃ t row o orders, Tables.empty.writeBatch .epoch movedOrder = .ok t ∧ row ∈ t.orders.rows ∧
      Tables.readBody Order.ofJson? row.seq .order row.body = .ok o ∧ row.account ≠ o.account ∧
      t.openOrders row.account = .ok orders ∧ o ∈ orders := by
  obtain ⟨t, stored⟩ : ∃ t, Tables.empty.writeBatch .epoch movedOrder = .ok t := exists_of_isOk (by decide +kernel)
  have reflects : t.Reflects (accepted (movedOrder.map (.epoch, ·))) :=
    Tables.reflects_of_writeTimed ((Tables.writeTimed_map _ _ _).trans stored)
  obtain ⟨orders, answer, mem⟩ := reflects.openOrders ⟨"A"⟩
  exact ⟨t, .ofSnapshots (orderOf "A") (2, orderOf "B"), _, orders, stored,
    reflects.mem_orders_iff.mpr ⟨_, _, _, hasSnapshots_movedOrder, rfl⟩, readBody_order _ _, by decide, answer,
    (mem _).mpr ⟨_, _, _, hasSnapshots_movedOrder, rfl, by decide, rfl⟩⟩

end Blotter.Database
