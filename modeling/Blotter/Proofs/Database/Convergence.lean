import Mathlib
import Blotter.Proofs.Database.Latest

/-!
# Deliveries that converge

What a set of records with different numbers leaves in an empty database does not depend on how they come, in which
order, in which batches and how often. The event rows are those of the records, and the rows of orders and sessions are
those of the newest record of each (`Tables.ShowsNewest`). So two deliveries leave the same event rows and the same
session rows, and the order rows differ at most in whose order the first snapshot said it was and in the time at which
a reject was stored (`Store.deliveries_converge`).
-/

namespace Blotter

/-- The name of the order that an event is a snapshot of. -/
def Event.orderId? (e : Event) : Option OrderId := e.snapshot?.map (·.orderId)

/-- The key of the row of the session whose state an event tells. -/
def Event.sessionRowKey? (e : Event) : Option Database.SessionRowKey := e.sessionState?.map (Database.rowKey ·.key)

/-- A snapshot names the order of its event at whatever time it is stored. -/
theorem Event.orderId?_eq_some_iff {e : Event} {k : OrderId} (now : Instant) :
    e.orderId? = some k ↔ ∃ o, e.storedOrder? now = some o ∧ o.orderId = k := by
  cases e <;> simp [orderId?, snapshot?, storedOrder?, Order.withStatus]

theorem Event.sessionRowKey?_eq_some_iff {e : Event} {k : Database.SessionRowKey} :
    e.sessionRowKey? = some k ↔ ∃ s, e.sessionState? = some s ∧ Database.rowKey s.key = k := by
  rw [sessionRowKey?, Option.map_eq_some_iff]

/-! ## The newest record -/

/-- Whether a record is the one with the highest number among those of a list that have something in common. -/
def Record.IsNewest (r : Record) (rs : List Record) (common : Event → Prop) : Prop :=
  r ∈ rs ∧ common r.event ∧ ∀ q ∈ rs, common q.event → q.seq ≤ r.seq

theorem Record.IsNewest.unique {r q : Record} {rs : List Record} {common : Event → Prop}
    (distinct : (rs.map (·.seq)).Nodup) (h : r.IsNewest rs common) (h' : q.IsNewest rs common) : r = q :=
  List.inj_on_of_nodup_map distinct h.1 h'.1
    (Nat.le_antisymm (h'.2.2 r h.1 h.2.1) (h.2.2 q h'.1 h'.2.1))

namespace Database

/-- Whether the row of an order has status, number and body from a record that was stored at some time. -/
def OrderRow.IsOf (row : OrderRow) (r : Record) (now : Instant) : Prop :=
  ∃ o, r.event.storedOrder? now = some o ∧ row.orderId = o.orderId ∧ row.status = o.status.name ∧
    row.isOpen = (if o.isOpen then 1 else 0) ∧ row.seq = r.seq ∧ row.body = o.toJson.text

/-- Rows of one record differ only in the time at which a reject was stored. -/
theorem OrderRow.IsOf.agree {row row' : OrderRow} {r : Record} {now now' : Instant} (h : row.IsOf r now)
    (h' : row'.IsOf r now') :
    row.status = row'.status ∧ row.isOpen = row'.isOpen ∧ row.seq = row'.seq ∧
      (r.kind ≠ .orderReject ∨ now = now' → row.body = row'.body) := by
  obtain ⟨o, stored, -, status, isOpen, seq, body⟩ := h
  obtain ⟨o', stored', -, status', isOpen', seq', body'⟩ := h'
  rw [Record.kind]
  cases event : r.event with
  | order p =>
    rw [event] at stored stored'
    obtain rfl : o = o' := Option.some.inj (stored.symm.trans stored')
    exact ⟨status.trans status'.symm, isOpen.trans isOpen'.symm, seq.trans seq'.symm, fun _ => body.trans body'.symm⟩
  | orderReject p x =>
    rw [event] at stored stored'
    obtain rfl := Option.some.inj stored
    obtain rfl := Option.some.inj stored'
    refine ⟨status.trans status'.symm, isOpen.trans isOpen'.symm, seq.trans seq'.symm, fun same => ?_⟩
    rcases same with other | rfl
    · exact absurd rfl other
    · exact body.trans body'.symm
  | _ =>
    rw [event] at stored
    cases stored

/-! ## Tables that show the newest -/

/-- Whether tables have the event rows of some records, and of each order and each session the row of the newest one. -/
structure Tables.ShowsNewest (t : Tables) (rs : List Record) : Prop where
  event : ∀ c row, t.events.find? c = some row ↔ ∃ r ∈ rs, (r.seq : Int) = c ∧ row = EventRow.ofRecord r
  order : ∀ k, (t.orders.find? k = none ∧ ∀ r ∈ rs, r.event.orderId? ≠ some k) ∨
    ∃ row r now, t.orders.find? k = some row ∧ r.IsNewest rs (·.orderId? = some k) ∧ row.IsOf r now
  session : ∀ k, (t.sessions.find? k = none ∧ ∀ r ∈ rs, r.event.sessionRowKey? ≠ some k) ∨
    ∃ (r : Record) (s : SessionState), t.sessions.find? k = some (.ofState r.seq s) ∧
      r.IsNewest rs (·.sessionRowKey? = some k) ∧ r.event.sessionState? = some s

section Deliveries

variable {t : Tables} {rs : List Record} {ws : List (Instant × Record)}

/-- Whether writes deliver all of some records and no others, which have different numbers that fit the columns. -/
structure Delivers (ws : List (Instant × Record)) (rs : List Record) : Prop where
  distinct : (rs.map (·.seq)).Nodup
  seq_le : ∀ r ∈ rs, r.seq ≤ 9223372036854775807
  mem_iff : ∀ r, r ∈ ws.map (·.2) ↔ r ∈ rs

/-- Of each record one write counts. -/
theorem Delivers.exists_mem_accepted_iff (h : Delivers ws rs) {r : Record} :
    (∃ w ∈ accepted ws, w.2 = r) ↔ r ∈ rs := by
  have of_mem {w : Instant × Record} (hw : w ∈ accepted ws) : w.2 ∈ rs :=
    (h.mem_iff _).mp (List.mem_map_of_mem (mem_of_mem_accepted hw))
  constructor
  · rintro ⟨w, hw, rfl⟩
    exact of_mem hw
  · intro hr
    obtain ⟨w, hw, rfl⟩ := List.mem_map.mp ((h.mem_iff r).mpr hr)
    obtain ⟨v, hv, same⟩ := exists_mem_accepted hw
    rw [toColumn_eq (h.seq_le _ (of_mem hv)), toColumn_eq (h.seq_le _ hr)] at same
    exact ⟨v, hv, List.inj_on_of_nodup_map h.distinct (of_mem hv) hr (Int.ofNat_inj.mp same)⟩

/-- The latest of a list of numbered things that records tell is what the newest of these records tells. -/
theorem Delivers.isNewest (h : Delivers ws rs) {α : Type} {xs : List (Nat × α)} {x : Nat × α}
    {w : Instant × Record} (hw : w ∈ accepted ws) (number : w.2.seq = x.1) (isLatest : IsLatest x xs)
    (common : Event → Prop) (told : common w.2.event)
    (tells : ∀ v ∈ accepted ws, common v.2.event → ∃ y ∈ xs, y.1 = v.2.seq) : w.2.IsNewest rs common := by
  refine ⟨h.exists_mem_accepted_iff.mp ⟨w, hw, rfl⟩, told, fun q hq also => ?_⟩
  obtain ⟨v, hv, rfl⟩ := h.exists_mem_accepted_iff.mpr hq
  obtain ⟨y, hy, number'⟩ := tells v hv also
  have le := isLatest.2 y hy
  rw [← number, number', toColumn_eq (h.seq_le _ hq),
    toColumn_eq (h.seq_le _ (h.exists_mem_accepted_iff.mp ⟨w, hw, rfl⟩))] at le
  exact Int.ofNat_le.mp le

/-- Tables that show what writes leave show the newest of the records that they deliver. -/
theorem Delivers.showsNewest (h : Delivers ws rs) (reflects : t.Reflects (accepted ws)) : t.ShowsNewest rs where
  event c row := by
    rw [reflects.event, Option.map_eq_some_iff]
    have known {w : Instant × Record} (found : (accepted ws).find? (fun w => toColumn w.2.seq == c) = some w) :
        w.2 ∈ rs ∧ (w.2.seq : Int) = c := by
      have hw := h.exists_mem_accepted_iff.mp ⟨w, List.mem_of_find?_eq_some found, rfl⟩
      have number : toColumn w.2.seq = c := by simpa using List.find?_some found
      exact ⟨hw, by rw [← toColumn_eq (h.seq_le _ hw), number]⟩
    constructor
    · rintro ⟨w, found, rfl⟩
      exact ⟨w.2, (known found).1, (known found).2, rfl⟩
    · rintro ⟨r, hr, number, rfl⟩
      obtain ⟨w, hw, rfl⟩ := h.exists_mem_accepted_iff.mpr hr
      have there : ((accepted ws).find? fun w => toColumn w.2.seq == c).isSome :=
        List.find?_isSome.mpr ⟨w, hw, by rw [toColumn_eq (h.seq_le _ hr), number, beq_self_eq_true]⟩
      obtain ⟨v, found⟩ := Option.isSome_iff_exists.mp there
      obtain ⟨hv, number'⟩ := known found
      have same : v.2 = w.2 := List.inj_on_of_nodup_map h.distinct hv hr (Int.ofNat_inj.mp (number'.trans number.symm))
      exact ⟨v, found, congrArg EventRow.ofRecord same⟩
  order k := by
    rcases reflects.order k with ⟨nothing, none⟩ | ⟨first, latest, -, isLatest, some⟩
    · refine .inl ⟨none, fun r hr named => ?_⟩
      obtain ⟨w, hw, rfl⟩ := h.exists_mem_accepted_iff.mpr hr
      obtain ⟨o, stored, name⟩ := (Event.orderId?_eq_some_iff w.1).mp named
      have : (w.2.seq, o) ∈ snapshotsOf k (accepted ws) := mem_snapshotsOf.mpr ⟨w, hw, stored, name, rfl⟩
      rw [nothing] at this
      exact absurd this List.not_mem_nil
    · obtain ⟨w, hw, stored, name, number⟩ := mem_snapshotsOf.mp isLatest.1
      have newest := h.isNewest hw number isLatest (·.orderId? = Option.some k)
        ((Event.orderId?_eq_some_iff w.1).mpr ⟨_, stored, name⟩) fun v hv named => by
          obtain ⟨o, stored', name'⟩ := (Event.orderId?_eq_some_iff v.1).mp named
          exact ⟨(v.2.seq, o), mem_snapshotsOf.mpr ⟨v, hv, stored', name', rfl⟩, rfl⟩
      refine .inr ⟨_, w.2, w.1, some, newest, latest.2, stored, rfl, rfl, rfl, ?_, rfl⟩
      rw [OrderRow.ofSnapshots, OrderRow.ofOrder, ← number]
      exact toColumn_eq (h.seq_le _ newest.1)
  session k := by
    rcases reflects.session k with ⟨nothing, none⟩ | ⟨latest, isLatest, some⟩
    · refine .inl ⟨none, fun r hr keyed => ?_⟩
      obtain ⟨w, hw, rfl⟩ := h.exists_mem_accepted_iff.mpr hr
      obtain ⟨s, told, key⟩ := Event.sessionRowKey?_eq_some_iff.mp keyed
      have : (w.2.seq, s) ∈ statesOf k (accepted ws) := mem_statesOf.mpr ⟨w, hw, told, key, rfl⟩
      rw [nothing] at this
      exact absurd this List.not_mem_nil
    · obtain ⟨w, hw, told, key, number⟩ := mem_statesOf.mp isLatest.1
      have newest := h.isNewest hw number isLatest (·.sessionRowKey? = Option.some k)
        (Event.sessionRowKey?_eq_some_iff.mpr ⟨_, told, key⟩) fun v hv keyed => by
          obtain ⟨s, told', key'⟩ := Event.sessionRowKey?_eq_some_iff.mp keyed
          exact ⟨(v.2.seq, s), mem_statesOf.mpr ⟨v, hv, told', key', rfl⟩, rfl⟩
      exact .inr ⟨w.2, latest.2, by rw [some, number], newest, told⟩

/-! ### Two deliveries -/

namespace Tables.ShowsNewest

variable {u : Tables}

theorem find?_events_eq (h : t.ShowsNewest rs) (h' : u.ShowsNewest rs) (c : Int) :
    t.events.find? c = u.events.find? c :=
  Option.ext fun row => (h.event c row).trans (h'.event c row).symm

theorem find?_sessions_eq (h : t.ShowsNewest rs) (h' : u.ShowsNewest rs) (distinct : (rs.map (·.seq)).Nodup)
    (k : SessionRowKey) : t.sessions.find? k = u.sessions.find? k := by
  rcases h.session k with ⟨none, nothing⟩ | ⟨r, s, some, newest, told⟩
  · rcases h'.session k with ⟨none', -⟩ | ⟨r', _, -, newest', -⟩
    · rw [none, none']
    · exact absurd newest'.2.1 (nothing r' newest'.1)
  · rcases h'.session k with ⟨-, nothing'⟩ | ⟨r', s', some', newest', told'⟩
    · exact absurd newest.2.1 (nothing' r newest.1)
    · obtain rfl := newest.unique distinct newest'
      rw [some, some', Option.some.inj (told.symm.trans told')]

/-- Under the name of an order either both tables have a row of the same record or none has one. -/
theorem order_agree (h : t.ShowsNewest rs) (h' : u.ShowsNewest rs) (distinct : (rs.map (·.seq)).Nodup) (k : OrderId) :
    (t.orders.find? k = none ∧ u.orders.find? k = none) ∨
      ∃ row row' r now now', t.orders.find? k = some row ∧ u.orders.find? k = some row' ∧
        r.IsNewest rs (·.orderId? = some k) ∧ row.IsOf r now ∧ row'.IsOf r now' := by
  rcases h.order k with ⟨none, nothing⟩ | ⟨row, r, now, some, newest, shows⟩
  · rcases h'.order k with ⟨none', -⟩ | ⟨_, r', _, -, newest', -⟩
    · exact .inl ⟨none, none'⟩
    · exact absurd newest'.2.1 (nothing r' newest'.1)
  · rcases h'.order k with ⟨-, nothing'⟩ | ⟨row', r', now', some', newest', shows'⟩
    · exact absurd newest.2.1 (nothing' r newest.1)
    · obtain rfl := newest.unique distinct newest'
      exact .inr ⟨row, row', r, now, now', some, some', newest, shows, shows'⟩

end Tables.ShowsNewest

end Deliveries

namespace Store

open Tables

/-- However records with different numbers come to an empty database, they leave the same event rows and the same
session rows, and order rows whose status, number and body are those of the newest record of the order. -/
theorem deliveries_converge {s u s' u' : Store} {d e d' e' : Disk} {batches batches' : List (Instant × List Record)}
    {rs : List Record} (isOpen : s.IsOpen d) (empty : s.tables d = .empty)
    (isOpen' : s'.IsOpen d') (empty' : s'.tables d' = .empty)
    (distinct : (rs.map (·.seq)).Nodup) (seq_le : ∀ r ∈ rs, r.seq ≤ 9223372036854775807)
    (delivered : ∀ r, r ∈ batches.flatMap (·.2) ↔ r ∈ rs) (delivered' : ∀ r, r ∈ batches'.flatMap (·.2) ↔ r ∈ rs)
    (written : s.writeAll batches d = (.ok (), u, e)) (written' : s'.writeAll batches' d' = (.ok (), u', e')) :
    (u.tables e).events = (u'.tables e').events ∧ (u.tables e).sessions = (u'.tables e').sessions ∧
      (u.tables e).ShowsNewest rs ∧ (u'.tables e').ShowsNewest rs ∧
      ∀ k, ((u.tables e).orders.find? k = none ∧ (u'.tables e').orders.find? k = none) ∨
        ∃ row row' r now now', (u.tables e).orders.find? k = some row ∧ (u'.tables e').orders.find? k = some row' ∧
          r.IsNewest rs (·.orderId? = some k) ∧ row.IsOf r now ∧ row'.IsOf r now' ∧
          row.status = row'.status ∧ row.isOpen = row'.isOpen ∧ row.seq = row'.seq ∧
          (r.kind ≠ .orderReject ∨ now = now' → row.body = row'.body) := by
  have reflects {s u : Store} {d e : Disk} {batches : List (Instant × List Record)} (isOpen : s.IsOpen d)
      (empty : s.tables d = .empty) (written : s.writeAll batches d = (.ok (), u, e)) :
      (u.tables e).Reflects (accepted (timed batches)) :=
    reflects_of_writeTimed (empty ▸ foldlM_of_writeAll isOpen written)
  have delivers {batches : List (Instant × List Record)} (delivered : ∀ r, r ∈ batches.flatMap (·.2) ↔ r ∈ rs) :
      Delivers (timed batches) rs := ⟨distinct, seq_le, fun r => by rw [map_timed, delivered]⟩
  have first := reflects isOpen empty written
  have second := reflects isOpen' empty' written'
  have newest := (delivers delivered).showsNewest first
  have newest' := (delivers delivered').showsNewest second
  refine ⟨first.events_sorted.ext second.events_sorted (newest.find?_events_eq newest'),
    first.sessions_sorted.ext second.sessions_sorted (newest.find?_sessions_eq newest' distinct), newest, newest',
    fun k => ?_⟩
  refine (newest.order_agree newest' distinct k).imp_right ?_
  rintro ⟨row, row', r, now, now', found, found', isNewest, shows, shows'⟩
  exact ⟨row, row', r, now, now', found, found', isNewest, shows, shows', shows.agree shows'⟩

/-- Two states of a session, an order and a reject of that order. -/
def mixedRecords : List Record :=
  let one : Decimal := ⟨false, 1, 0, Decimal.one_lt_limit, Decimal.zero_le_maxScale⟩
  let order := Order.limit ⟨"o"⟩ ⟨"A"⟩ ⟨"S"⟩ ⟨"I"⟩ .buy one one .epoch
  let state (sender : Nat) : Event := .sessionState ⟨"A", "B", 1970, 1, sender, 1, .epoch⟩
  [⟨2, .epoch, false, state 2⟩, ⟨3, .epoch, true, .order order⟩, ⟨4, .epoch, false, state 5⟩,
    ⟨5, .epoch, true, .orderReject order (.ofOrder .exchange order "x" .epoch)⟩]

/-- The records one after the other, and the newer half in front of all of them. -/
theorem deliveries_converge_mixedRecords :
    let batches := mixedRecords.map fun r => (Instant.epoch, [r])
    let batches' := [(Instant.epoch, mixedRecords.drop 2), (.epoch, mixedRecords)]
    ∃ u e u' e', (Store.memory .empty).writeAll batches .empty = (.ok (), u, e) ∧
      (Store.memory .empty).writeAll batches' .empty = (.ok (), u', e') ∧
      (u.tables e).events = (u'.tables e').events ∧ (u.tables e).sessions = (u'.tables e').sessions := by
  intro batches batches'
  have ends (bs : List (Instant × List Record)) (ok : (writeAll bs (.memory .empty) .empty).1.isOk = true) :
      ∃ u e, writeAll bs (.memory .empty) .empty = (.ok (), u, e) := by
    obtain ⟨⟨⟩, done⟩ := exists_of_isOk ok
    exact ⟨_, _, Prod.ext done rfl⟩
  obtain ⟨u, e, written⟩ := ends batches (by decide +kernel)
  obtain ⟨u', e', written'⟩ := ends batches' (by decide +kernel)
  have delivered : ∀ r, r ∈ batches.flatMap (·.2) ↔ r ∈ mixedRecords := fun r => by simp [batches]
  have delivered' : ∀ r, r ∈ batches'.flatMap (·.2) ↔ r ∈ mixedRecords := fun r => by
    simpa [batches'] using List.mem_of_mem_drop
  have isOpen : (Store.memory .empty).IsOpen Disk.empty := trivial
  have converge := deliveries_converge isOpen rfl isOpen rfl (by decide +kernel) (by decide +kernel) delivered
    delivered' written written'
  exact ⟨u, e, u', e', written, written', converge.1, converge.2.1⟩

end Store

end Database

end Blotter
