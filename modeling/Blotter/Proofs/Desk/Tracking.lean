import Mathlib
import Blotter.Proofs.Desk.Recovering
import Blotter.Proofs.Order
import Blotter.Proofs.Replay

/-!
# Tracked orders and replayed ones

A desk keeps its open orders in mind while it journals what happens to them, and a replay of the journal finds open
orders again. The two agree.

- What every event of the journal means for the tracked orders is said once (`follow`), and a replay of the event does
  the same to the open orders (`Mirrors.follow`).
- Every operation of a desk leaves the tracked orders that follow from the events it has journaled (`sendNew_follows`
  and so on), whether it fails or not, and a start from a replay leaves those of the replay (`start_run`).
- So in every run of a desk that starts from its own journal, the orders that are open in a replay of the journal are
  those that are tracked (`openOrders_perm_tracked`).
-/

namespace Blotter

namespace Desk

/-- The tracked orders after an event is journaled: of the order that it is about, the snapshot if it is an open order
of the account, and nothing otherwise. -/
def follow (account : AccountId) (tracked : Table OrderId Order) (e : Event) : Table OrderId Order :=
  match e.snapshot? with
  | none => tracked
  | some o => if o.account = account ∧ o.isOpen = true then tracked.insert o.orderId o else tracked.erase o.orderId

/-- Whether the tracked orders are open orders of the account, each under its name. -/
structure Keeps (account : AccountId) (tracked : Table OrderId Order) : Prop where
  sorted : tracked.Sorted
  orderId_eq : ∀ k o, tracked.find? k = some o → o.orderId = k
  account_eq : ∀ k o, tracked.find? k = some o → o.account = account
  isOpen : ∀ k o, tracked.find? k = some o → o.isOpen = true

/-- Whether the tracked orders are the open ones of a replay. -/
def Mirrors (account : AccountId) (tracked : Table OrderId Order) (s : Replay) : Prop :=
  ∀ o, tracked.find? o.orderId = some o ↔ o ∈ s.openOrders account

section Following

variable {account : AccountId} {tracked : Table OrderId Order} {s s' : Replay}

theorem keeps_empty : Keeps account .empty := by
  refine ⟨Table.sorted_empty, ?_, ?_, ?_⟩
  all_goals exact fun k o found => absurd found (by simp [Table.find?_empty])

theorem Keeps.insert (h : Keeps account tracked) {o : Order} (hAccount : o.account = account)
    (hOpen : o.isOpen = true) : Keeps account (tracked.insert o.orderId o) := by
  have new {p : OrderId → Order → Prop} (first : p o.orderId o) (old : ∀ k q, tracked.find? k = some q → p k q) :
      ∀ k q, (tracked.insert o.orderId o).find? k = some q → p k q := by
    intro k q found
    rw [Table.find?_insert] at found
    split at found
    · rename_i hk
      rwa [hk, ← Option.some.inj found]
    · exact old k q found
  exact ⟨h.sorted.insert _ _, new rfl h.orderId_eq, new hAccount h.account_eq, new hOpen h.isOpen⟩

theorem Keeps.erase (h : Keeps account tracked) (k : OrderId) : Keeps account (tracked.erase k) := by
  have old {k' : OrderId} {q : Order} (found : (tracked.erase k).find? k' = some q) : tracked.find? k' = some q := by
    rw [Table.find?_erase] at found
    split at found
    · exact absurd found (by simp)
    · exact found
  exact ⟨h.sorted.erase k, fun k' q found => h.orderId_eq k' q (old found),
    fun k' q found => h.account_eq k' q (old found), fun k' q found => h.isOpen k' q (old found)⟩

theorem Keeps.follow (h : Keeps account tracked) (e : Event) : Keeps account (follow account tracked e) := by
  rw [Desk.follow]
  cases e.snapshot? with
  | none => exact h
  | some o =>
    simp only
    split
    · rename_i hOpen
      exact h.insert hOpen.1 hOpen.2
    · exact h.erase o.orderId

theorem Keeps.follow_all (h : Keeps account tracked) (es : List Event) :
    Keeps account (es.foldl (Desk.follow account) tracked) := by
  induction es generalizing tracked with
  | nil => exact h
  | cons e es ih => exact ih (h.follow e)

/-- A replay of an event does to the open orders what the event means for the tracked ones. -/
theorem Mirrors.follow (h : Mirrors account tracked s) (wf : s.WellFormed) (wf' : s'.WellFormed) {seq : Nat} {e : Event}
    (orders : s'.orders = Replay.ordersAfter s.orders seq e) : Mirrors account (follow account tracked e) s' := by
  intro o
  have before := h o
  rw [Replay.mem_openOrders wf] at before
  rw [Replay.mem_openOrders wf', orders, Replay.ordersAfter, Desk.follow]
  cases e.snapshot? with
  | none => exact before
  | some q =>
    simp only
    rw [Table.find?_insert]
    by_cases hk : o.orderId = q.orderId
    · by_cases hOpen : q.account = account ∧ q.isOpen = true
      · rw [if_pos hOpen, if_pos hk, Table.find?_insert, if_pos hk]
        simp only [Option.some.injEq, Snapshot.mk.injEq]
        constructor
        · rintro rfl
          exact ⟨seq, ⟨rfl, rfl⟩, hOpen⟩
        · rintro ⟨n, ⟨-, rfl⟩, -⟩
          rfl
      · rw [if_neg hOpen, if_pos hk, Table.find?_erase, if_pos hk]
        simp only [Option.some.injEq, Snapshot.mk.injEq]
        constructor
        · exact fun absent => absurd absent (by simp)
        · rintro ⟨n, ⟨-, rfl⟩, open'⟩
          exact absurd open' hOpen
    · rw [if_neg hk, ← before]
      split
      · rw [Table.find?_insert, if_neg hk]
      · rw [Table.find?_erase, if_neg hk]

/-- A replay of more events leads to the orders that follow from them. -/
theorem mirrors_of_adds {rs rs' : List Record} {es : List Event} (added : Adds rs es rs')
    (h : ∀ s, Replay.ofRecords rs = .ok s → Mirrors account tracked s) :
    ∀ s, Replay.ofRecords rs' = .ok s → Mirrors account (es.foldl (follow account) tracked) s := by
  induction es generalizing rs tracked with
  | nil =>
    obtain rfl : rs' = rs := added
    exact h
  | cons e es ih =>
    obtain ⟨r, rfl, above, later⟩ := added
    refine ih later fun s hs => ?_
    obtain ⟨t, ht, applied⟩ := Replay.ofRecords_concat_ok hs
    have orders := (Replay.apply_ok applied (Replay.covers_eq_false ht above)).1
    exact (h t ht).follow (Replay.wellFormed_of_ofRecords ht) (Replay.wellFormed_of_ofRecords hs) orders

/-- If the open orders of a replay are tracked, they are all that is tracked. -/
theorem Mirrors.perm (h : Mirrors account tracked s) (keeps : Keeps account tracked) (wf : s.WellFormed) :
    (s.openOrders account).Perm tracked.rows := by
  have distinct := (Replay.nodup_openOrders wf account).of_map
  have distinct' := (keeps.sorted.nodup_rows keeps.orderId_eq).of_map
  refine (List.perm_ext_iff_of_nodup distinct distinct').mpr fun o => ?_
  rw [← h o, keeps.sorted.mem_rows_iff]
  refine ⟨fun found => ⟨o.orderId, found⟩, fun ⟨k, found⟩ => ?_⟩
  rwa [keeps.orderId_eq k o found]

/-! ## Orders that are rebuilt -/

theorem find?_trackAll {orders : List Order} (distinct : (orders.map (·.orderId)).Nodup)
    (tracked : Table OrderId Order) (k : OrderId) :
    (trackAll tracked orders).find? k = (orders.find? (·.orderId == k)).or (tracked.find? k) := by
  induction orders generalizing tracked with
  | nil => rfl
  | cons o orders ih =>
    obtain ⟨fresh, distinct⟩ := List.nodup_cons.mp distinct
    have later := ih distinct (tracked.insert o.orderId o)
    rw [trackAll, List.foldl_cons]
    rw [trackAll] at later
    rw [later, Table.find?_insert, List.find?_cons]
    by_cases hk : k = o.orderId
    · have absent : orders.find? (·.orderId == k) = none := by
        rw [List.find?_eq_none]
        intro q hq same
        rw [beq_iff_eq] at same
        exact fresh (List.mem_map.mpr ⟨q, hq, same.trans hk⟩)
      rw [absent, if_pos hk, hk, beq_self_eq_true]
      rfl
    · rw [if_neg hk, beq_eq_false_iff_ne.mpr (Ne.symm hk)]

theorem Keeps.trackAll {account : AccountId} {tracked : Table OrderId Order} (h : Keeps account tracked)
    {orders : List Order} (all : ∀ o ∈ orders, o.account = account ∧ o.isOpen = true) :
    Keeps account (trackAll tracked orders) := by
  induction orders generalizing tracked with
  | nil => exact h
  | cons o orders ih =>
    obtain ⟨hAccount, hOpen⟩ := all o (by simp)
    exact ih (h.insert hAccount hOpen) fun q hq => all q (by simp [hq])

/-- After a start from a replay the open orders of the replay are tracked, if no others were tracked before. -/
theorem mirrors_trackAll {account : AccountId} {tracked : Table OrderId Order} {s : Replay} (wf : s.WellFormed)
    (before : ∀ o, tracked.find? o.orderId = some o → o ∈ s.openOrders account) :
    Mirrors account (trackAll tracked (s.openOrders account)) s := by
  have distinct := Replay.nodup_openOrders wf account
  intro o
  rw [find?_trackAll distinct]
  constructor
  · intro found
    cases rebuilt : (s.openOrders account).find? (·.orderId == o.orderId) with
    | none =>
      rw [rebuilt, Option.none_or] at found
      exact before o found
    | some q =>
      rw [rebuilt, Option.some_or] at found
      rw [← Option.some.inj found]
      exact List.mem_of_find?_eq_some rebuilt
  · intro ho
    cases rebuilt : (s.openOrders account).find? (·.orderId == o.orderId) with
    | none => exact absurd (List.find?_eq_none.mp rebuilt o ho) (by simp)
    | some q =>
      have same : q.orderId = o.orderId := by simpa using List.find?_some rebuilt
      rw [List.inj_on_of_nodup_map distinct (List.mem_of_find?_eq_some rebuilt) ho same, Option.some_or]

end Following

/-! ## Operations -/

section Operations

variable {ω ρ σ α : Type}

/-- The desk after an operation that comes to an end, with a result or an error. -/
def settled : EStateM.Result (Failure DeskError) (Desk ω ρ σ) α → Option (Desk ω ρ σ)
  | .ok _ d | .error (.reported _) d => some d
  | .error (.overflow _) _ => none

variable [KeepingJournal ω]

/-- Whether the tracked orders have followed the events that were journaled. -/
def Follows (d d' : Desk ω ρ σ) : Prop :=
  d'.account = d.account ∧ ∃ es, Adds d.records es d'.records ∧ d'.tracked = es.foldl (follow d.account) d.tracked

theorem Follows.refl (d : Desk ω ρ σ) : Follows d d := ⟨rfl, [], rfl, rfl⟩

/-- The tracked orders are open orders of the account, and those of a replay of the journal. -/
structure InStep (d : Desk ω ρ σ) : Prop where
  keeps : Keeps d.account d.tracked
  mirrors : ∀ s, Replay.ofRecords d.records = .ok s → Mirrors d.account d.tracked s

theorem InStep.follows {d d' : Desk ω ρ σ} (h : InStep d) (followed : Follows d d') : InStep d' := by
  obtain ⟨account, es, added, tracked⟩ := followed
  refine ⟨?_, ?_⟩
  all_goals rw [account, tracked]
  · exact h.keeps.follow_all es
  · exact mirrors_of_adds added h.mirrors

variable {d d' : Desk ω ρ σ}

/-- After a start from a replay of its journal a desk is in step with the journal. -/
theorem inStep_start {s : Replay} (replayed : Replay.ofRecords d.records = .ok s) (keeps : Keeps d.account d.tracked)
    (before : ∀ o, d.tracked.find? o.orderId = some o → o ∈ s.openOrders d.account)
    (tracked : d'.tracked = trackAll d.tracked (s.openOrders d.account)) (account : d'.account = d.account)
    (journal : d'.journal = d.journal) : InStep d' := by
  have wf := Replay.wellFormed_of_ofRecords replayed
  refine ⟨?_, ?_⟩
  · rw [account, tracked]
    refine keeps.trackAll fun o ho => ?_
    obtain ⟨n, -, open'⟩ := (Replay.mem_openOrders wf).mp ho
    exact open'
  · intro s' hs'
    rw [records, journal] at hs'
    obtain rfl : s = s' := Except.ok.inj (replayed.symm.trans hs')
    rw [account, tracked]
    exact mirrors_trackAll wf before

open DeskOp

theorem follow_rejected (o : Order) (r : Reject) (now : Instant) (account : AccountId)
    (tracked : Table OrderId Order) :
    follow account tracked (.orderReject (o.withStatus .rejected now) r) = tracked.erase o.orderId := by
  simp [follow, Event.snapshot?, Order.withStatus, Order.isOpen, OrderStatus.isOpen]

theorem follow_order_open {o : Order} {account : AccountId} (hAccount : o.account = account)
    (hOpen : o.isOpen = true) (tracked : Table OrderId Order) :
    follow account tracked (.order o) = tracked.insert o.orderId o := if_pos ⟨hAccount, hOpen⟩

/-- Whether a report is about orders of the account, in a status that goes with what it reports, and names strategies
that are registered. -/
def Credible (d : Desk ω ρ σ) : ExecutionReport → Prop
  | .ack o => o.account = d.account ∧ o.isOpen = true ∧ d.knows o.strategy = true
  | .reject o _ => d.knows o.strategy = true
  | .canceled o => o.isOpen = false ∧ d.knows o.strategy = true
  | .fill f => d.knows f.strategy = true

instance (d : Desk ω ρ σ) : (report : ExecutionReport) → Decidable (Credible d report)
  | .ack o => inferInstanceAs (Decidable (o.account = d.account ∧ o.isOpen = true ∧ d.knows o.strategy = true))
  | .reject o _ => inferInstanceAs (Decidable (d.knows o.strategy = true))
  | .canceled o => inferInstanceAs (Decidable (o.isOpen = false ∧ d.knows o.strategy = true))
  | .fill f => inferInstanceAs (Decidable (d.knows f.strategy = true))

theorem follow_order_closed {o : Order} (account : AccountId) (hClosed : o.isOpen = false)
    (tracked : Table OrderId Order) : follow account tracked (.order o) = tracked.erase o.orderId :=
  if_neg (by simp [hClosed])

/-- A fill changes neither whose order it is nor which. -/
theorem applyFill_same {o o' : Order} {quantity price : Decimal} {now : Instant}
    (h : o.applyFill quantity price now = .ok o') : o'.account = o.account ∧ o'.orderId = o.orderId := by
  obtain ⟨-, -, -, -, same⟩ := Order.applyFill_ok h
  exact same

omit [KeepingJournal ω] in
theorem Credible.known {report : ExecutionReport} {x : Dispatch} (credible : Credible d report)
    (dispatched : d.dispatch report = .ok x) : d.knows x.strategy = true := by
  cases report with
  | ack o =>
    cases dispatched
    exact credible.2.2
  | reject o r =>
    cases dispatched
    exact credible
  | canceled o =>
    cases dispatched
    exact credible.2
  | fill f =>
    rw [dispatch] at dispatched
    split at dispatched
    · cases dispatched
    · split at dispatched
      · cases dispatched
      · cases dispatched
        exact credible

omit [KeepingJournal ω] in
/-- What a report comes to is what follows from its events. -/
theorem dispatch_follows {report : ExecutionReport} {x : Dispatch} (keeps : Keeps d.account d.tracked)
    (credible : Credible d report) (dispatched : d.dispatch report = .ok x) :
    x.tracked = x.events.foldl (follow d.account) d.tracked := by
  cases report with
  | ack o =>
    cases dispatched
    exact (follow_order_open credible.1 credible.2.1 _).symm
  | reject o r =>
    cases dispatched
    exact (follow_rejected o _ _ _ _).symm
  | canceled o =>
    cases dispatched
    exact (follow_order_closed _ credible.1 _).symm
  | fill f =>
    rw [Desk.dispatch] at dispatched
    cases found : d.tracked.find? f.orderId with
    | none => simp [found] at dispatched
    | some o =>
      simp only [found] at dispatched
      cases filled : o.applyFill f.quantity f.price d.now with
      | error e => simp [filled] at dispatched
      | ok o' =>
        simp only [filled] at dispatched
        have hAccount : o'.account = d.account := (applyFill_same filled).1.trans (keeps.account_eq f.orderId o found)
        cases hOpen : o'.isOpen with
        | true =>
          rw [hOpen, if_pos rfl] at dispatched
          cases dispatched
          exact (follow_order_open hAccount hOpen _).symm
        | false =>
          rw [hOpen, if_neg Bool.false_ne_true] at dispatched
          cases dispatched
          exact (follow_order_closed _ hOpen _).symm

/-- The tracked orders follow a report. -/
theorem onReport_follows {report : ExecutionReport} (keeps : Keeps d.account d.tracked) (credible : Credible d report)
    (h : settled ((onReport report).run d) = some d') : Follows d d' := by
  cases dispatched : d.dispatch report with
  | error e =>
    rw [onReport_run, dispatched] at h
    cases e with
    | reported e => exact Option.some.inj h ▸ Follows.refl d
    | overflow x => cases h
  | ok x =>
    obtain ⟨j, tr, carried, added⟩ := onReport_carried dispatched (credible.known dispatched)
    rw [carried] at h
    obtain rfl := Option.some.inj h
    exact ⟨rfl, x.events, added, dispatch_follows keeps credible dispatched⟩

variable [Router ρ]

/-- An order that a chain accepts was accepted by its router. -/
theorem accepted_by_router [StageKind σ] {c : Chain ρ σ} {o sent : Order} {now : Instant}
    (h : (c.send o now).1.outcome = .accepted sent) : (Router.send o now c.router).1 = .accepted sent := by
  rw [Chain.send] at h
  split at h
  · exact absurd h (by simp)
  · exact h

/-- The tracked orders follow a new order. -/
theorem sendNew_follows [StageKind σ] {o : Order} (untracked : d.tracked.find? o.orderId = none)
    (accepted : ∀ sent, (Router.send o d.now d.chain.router).1 = .accepted sent →
      sent.account = d.account ∧ sent.isOpen = true) (h : settled ((sendNew o).run d) = some d') : Follows d d' := by
  have commands (cs : List Command) : (cs.map Event.command).foldl (follow d.account) d.tracked = d.tracked := by
    induction cs with
    | nil => rfl
    | cons c cs ih => exact ih
  have way := sendNew_run d o
  generalize (sendNew o).run d = result at h way
  cases way with
  | refused => exact Option.some.inj h ▸ Follows.refl d
  | rejected cs added =>
    obtain rfl := Option.some.inj h
    refine ⟨rfl, _, added, ?_⟩
    rw [List.foldl_append, commands, List.foldl_cons, follow_rejected, Table.erase_of_find?_eq_none untracked]
    rfl
  | accepted outcome added =>
    obtain ⟨hAccount, hOpen⟩ := accepted _ (accepted_by_router outcome)
    obtain rfl := Option.some.inj h
    exact ⟨rfl, _, added, (follow_order_open hAccount hOpen _).symm⟩

/-- The tracked orders follow a change of an order. -/
theorem modifyOrder_follows {orderId : OrderId} {quantity : Decimal} {limitPrice : Option Decimal}
    (keeps : Keeps d.account d.tracked) (h : settled ((modifyOrder orderId quantity limitPrice).run d) = some d') :
    Follows d d' := by
  rw [modifyOrder] at h
  cases ready : d.ready with
  | false =>
    rw [bind_error (by rw [needReady_run, ready]; rfl)] at h
    exact Option.some.inj h ▸ Follows.refl d
  | true =>
    rw [bind_ok (by rw [needReady_run, ready]; rfl)] at h
    cases found : d.tracked.find? orderId with
    | none =>
      rw [bind_error (by rw [needOrder_run, found])] at h
      exact Option.some.inj h ▸ Follows.refl d
    | some o =>
      rw [bind_ok (by rw [needOrder_run, found])] at h
      obtain ⟨refusal, m, admission⟩ := admissionRefusal_run d
      rw [bind_ok admission] at h
      cases refusal with
      | some reason =>
        simp only at h
        rw [bind_ok (get_run _)] at h
        obtain rfl := Option.some.inj h
        exact ⟨rfl, [], rfl, rfl⟩
      | none =>
        obtain ⟨j, tr, commanded, added⟩ :=
          persist_run { d with metrics := m } (.command (Command.modify o quantity limitPrice d.now))
        obtain ⟨result, c, tr', asked⟩ :=
          modifyAtRouter_run { d with metrics := m, journal := j, trace := tr } orderId quantity limitPrice
        simp only at h
        rw [bind_ok (get_run _), bind_ok commanded, bind_ok asked] at h
        cases result with
        | error reason =>
          rw [bind_error (needRouted_error _ reason)] at h
          obtain rfl := Option.some.inj h
          exact ⟨rfl, _, added, rfl⟩
        | ok =>
          let updated : Order := { o.withStatus o.status d.now with quantity, limitPrice }
          have hAccount : updated.account = d.account := keeps.account_eq orderId o found
          have hOpen : updated.isOpen = true := keeps.isOpen orderId o found
          obtain ⟨j', tr'', ordered, added'⟩ :=
            persist_run { d with metrics := m, journal := j, chain := c, trace := tr' } (.order updated)
          rw [bind_ok (needRouted_ok _), bind_ok (get_run _), bind_ok ordered, bind_ok (modify_run _ _)] at h
          obtain rfl := Option.some.inj h
          exact ⟨rfl, _, added.trans added', (follow_order_open hAccount hOpen _).symm⟩

/-- The tracked orders follow a cancel. -/
theorem cancelOrder_follows {orderId : OrderId} (keeps : Keeps d.account d.tracked)
    (h : settled ((cancelOrder orderId).run d) = some d') : Follows d d' := by
  rw [cancelOrder] at h
  cases found : d.tracked.find? orderId with
  | none =>
    rw [bind_error (by rw [needOrder_run, found])] at h
    exact Option.some.inj h ▸ Follows.refl d
  | some o =>
    rw [bind_ok (by rw [needOrder_run, found])] at h
    obtain ⟨j, tr, commanded, added⟩ := persist_run d (.command (Command.cancel o d.now))
    obtain ⟨result, c, tr', asked⟩ := cancelAtRouter_run { d with journal := j, trace := tr } orderId
    rw [bind_ok (get_run _), bind_ok commanded, bind_ok asked] at h
    cases result with
    | error reason =>
      rw [bind_error (needRouted_error _ reason)] at h
      obtain rfl := Option.some.inj h
      exact ⟨rfl, _, added, rfl⟩
    | ok =>
      let pending : Order := o.withStatus .pendingCancel d.now
      have hAccount : pending.account = d.account := keeps.account_eq orderId o found
      obtain ⟨j', tr'', ordered, added'⟩ :=
        persist_run { d with journal := j, chain := c, trace := tr' } (.order pending)
      rw [bind_ok (needRouted_ok _), bind_ok (get_run _), bind_ok ordered] at h
      obtain rfl := Option.some.inj h
      exact ⟨rfl, _, added.trans added', (follow_order_open hAccount rfl _).symm⟩

/-! ## Starting -/

/-- A start from a replay fails and changes nothing, or it tracks the open orders. -/
theorem start_run (s : Replay) (d : Desk ω ρ σ) : (∃ e, (start (.ofReplay s)).run d = .error (.reported e) d) ∨
    ∃ report ready c tr, (start (.ofReplay s)).run d = .ok report { d with
      tracked := trackAll d.tracked (s.openOrders d.account), ready, chain := c, trace := tr } := by
  rcases start_cases d (.ofReplay s) with failed | ⟨report, orders, c, actions, read, started, -⟩
  · exact .inl failed
  · obtain rfl := Except.ok.inj read
    exact .inr ⟨report, _, c, _, started⟩

/-! ## Runs -/

/-- What may happen to a desk that has started. -/
inductive Call where
  | register (strategy : StrategyId)
  /-- Time goes by. -/
  | clock (now : Instant)
  /-- The desk starts from a replay of its journal. -/
  | start
  | sendNew (o : Order)
  | modifyOrder (orderId : OrderId) (quantity : Decimal) (limitPrice : Option Decimal)
  | cancelOrder (orderId : OrderId)
  | report (report : ExecutionReport)

variable [StageKind σ]

/-- The desk after a call; `none` if a decimal overflows. -/
def call (d : Desk ω ρ σ) : Call → Option (Desk ω ρ σ)
  | .register strategy => some (d.register strategy)
  | .clock now => some { d with now }
  | .start =>
    match Replay.ofRecords d.records with
    | .ok s => settled ((start (.ofReplay s)).run d)
    | .error _ => none
  | .sendNew o => settled ((sendNew o).run d)
  | .modifyOrder orderId quantity limitPrice => settled ((modifyOrder orderId quantity limitPrice).run d)
  | .cancelOrder orderId => settled ((cancelOrder orderId).run d)
  | .report report => settled ((onReport report).run d)

/-- Whether an order that a router accepts is an open order of the account. -/
def Sound (account : AccountId) : RouteOutcome → Prop
  | .accepted sent => sent.account = account ∧ sent.isOpen = true
  | .rejected _ => True

instance (account : AccountId) : (outcome : RouteOutcome) → Decidable (Sound account outcome)
  | .accepted sent => inferInstanceAs (Decidable (sent.account = account ∧ sent.isOpen = true))
  | .rejected _ => .isTrue trivial

/-- Whether a call fits the desk. A new order has a name that is not tracked, and a router that accepts it makes it an
open order of the account. -/
def Fits (d : Desk ω ρ σ) : Call → Prop
  | .sendNew o => d.tracked.find? o.orderId = none ∧ Sound d.account (Router.send o d.now d.chain.router).1
  | .report report => Credible d report
  | .register _ | .clock _ | .start | .modifyOrder .. | .cancelOrder _ => True

/-- The desk after calls, one after the other. -/
def calls (d : Desk ω ρ σ) (cs : List Call) : Option (Desk ω ρ σ) := cs.foldlM call d

/-- Whether every call fits the desk as the calls before it left it. -/
def FitAll (d : Desk ω ρ σ) : List Call → Prop
  | [] => True
  | c :: cs => Fits d c ∧ ∀ d' ∈ d.call c, FitAll d' cs

instance (d : Desk ω ρ σ) : (c : Call) → Decidable (Fits d c)
  | .sendNew o => inferInstanceAs <| Decidable <|
      d.tracked.find? o.orderId = none ∧ Sound d.account (Router.send o d.now d.chain.router).1
  | .report report => inferInstanceAs (Decidable (Credible d report))
  | .register _ | .clock _ | .start | .modifyOrder .. | .cancelOrder _ => .isTrue trivial

instance decidableFitAll : (d : Desk ω ρ σ) → (cs : List Call) → Decidable (FitAll d cs)
  | _, [] => .isTrue trivial
  | d, c :: cs =>
    have (d' : Desk ω ρ σ) : Decidable (FitAll d' cs) := decidableFitAll d' cs
    inferInstanceAs (Decidable (Fits d c ∧ ∀ d' ∈ d.call c, FitAll d' cs))

/-- A call that fits keeps the desk in step. -/
theorem InStep.call (h : InStep d) {c : Call} (fits : Fits d c) (called : d.call c = some d') : InStep d' := by
  cases c with
  | register strategy =>
    obtain rfl := Option.some.inj called
    rw [register]
    split
    · exact h
    · exact ⟨h.keeps, h.mirrors⟩
  | clock now =>
    obtain rfl := Option.some.inj called
    exact ⟨h.keeps, h.mirrors⟩
  | start =>
    rw [Desk.call] at called
    cases replayed : Replay.ofRecords d.records with
    | error o => simp [replayed] at called
    | ok s =>
      simp only [replayed] at called
      rcases start_run s d with ⟨e, failed⟩ | ⟨report, ready, c, tr, started⟩
      · rw [failed] at called
        exact Option.some.inj called ▸ h
      · rw [started] at called
        obtain rfl := Option.some.inj called
        exact inStep_start replayed h.keeps (fun o => (h.mirrors s replayed o).mp) rfl rfl rfl
  | sendNew o =>
    obtain ⟨untracked, answer⟩ := fits
    refine h.follows (sendNew_follows untracked (fun sent accepted => ?_) called)
    rwa [accepted] at answer
  | modifyOrder orderId quantity limitPrice => exact h.follows (modifyOrder_follows h.keeps called)
  | cancelOrder orderId => exact h.follows (cancelOrder_follows h.keeps called)
  | report report => exact h.follows (onReport_follows h.keeps fits called)

/-- Calls that fit keep the desk in step. -/
theorem InStep.calls (h : InStep d) {cs : List Call} (fits : FitAll d cs) (called : d.calls cs = some d') :
    InStep d' := by
  induction cs generalizing d with
  | nil => exact Option.some.inj called ▸ h
  | cons c cs ih =>
    obtain ⟨fit, later⟩ := fits
    rw [Desk.calls, List.foldlM_cons] at called
    cases first : d.call c with
    | none => simp [first] at called
    | some d₁ =>
      rw [first] at called
      exact ih (h.call fit first) (later d₁ first) called

/-- When a desk without orders has started from a replay of its journal, then after every later call, whether it fails
or not, the open orders of a replay of its journal are the tracked ones, each under its own name. -/
theorem openOrders_perm_tracked {d₀ d₁ d : Desk ω ρ σ} {s₀ s : Replay} {report : RecoveryReport} {cs : List Call}
    (new : d₀.tracked = .empty) (replayed₀ : Replay.ofRecords d₀.records = .ok s₀)
    (started : (start (.ofReplay s₀)).run d₀ = .ok report d₁) (fits : FitAll d₁ cs) (called : d₁.calls cs = some d)
    (replayed : Replay.ofRecords d.records = .ok s) :
    (s.openOrders d.account).Perm d.tracked.rows ∧ ∀ e ∈ d.tracked.entries, e.2.orderId = e.1 := by
  have start : InStep d₁ := by
    rcases start_run s₀ d₀ with ⟨e, failed⟩ | ⟨report', ready, c, tr, started'⟩
    · rw [failed] at started
      exact absurd started (by simp)
    · rw [started'] at started
      obtain ⟨-, rfl⟩ := EStateM.Result.ok.inj started
      refine inStep_start replayed₀ (new ▸ keeps_empty) (fun o found => ?_) rfl rfl rfl
      rw [new, Table.find?_empty] at found
      exact absurd found (by simp)
  have inStep := start.calls fits called
  refine ⟨(inStep.mirrors s replayed).perm inStep.keeps (Replay.wellFormed_of_ofRecords replayed), fun e he => ?_⟩
  exact inStep.keeps.orderId_eq e.1 e.2 (inStep.keeps.sorted.mem_iff.mp he)

end Operations

/-! ## Runs on a ledger -/

/-- A fill of an order at a price of one. -/
def exampleFill (o : Order) (execution : String) (quantity : Decimal) : ExecutionReport :=
  .fill (.ofOrder o ⟨execution⟩ quantity (units 1 Decimal.one_lt_limit) .epoch)

theorem start_exampleDesk :
    (start (.ofReplay .empty)).run exampleDesk = .ok ⟨0, 0⟩ { exampleDesk with ready := true } := by
  have orders : Replay.empty.openOrders exampleDesk.account = [] := by
    simp [Replay.openOrders, Replay.empty, Table.rows, Table.empty]
  rw [start, DeskOp.bind_ok (DeskOp.get_run _)]
  simp only [RecoveryReader.ofReplay, orders]
  rfl

/-- A run with a partial fill, a change, a start, a cancel that the exchange has not confirmed and a closed order. -/
def exampleCalls : List Call :=
  let first := exampleOrder "first" (units 5 (by decide))
  let second := exampleOrder "second" (units 3 (by decide))
  [.sendNew first, .report (.ack (first.withStatus .new .epoch)),
    .report (exampleFill first "e1" (units 2 (by decide))),
    .modifyOrder first.orderId (units 4 (by decide)) none, .start, .sendNew second,
    .report (exampleFill second "e2" (units 3 (by decide))), .cancelOrder first.orderId]

theorem openOrders_perm_tracked_exampleCalls : ∃ d s,
    Desk.calls { exampleDesk with ready := true } exampleCalls = some d ∧
    Replay.ofRecords d.records = .ok s ∧ (s.openOrders d.account).Perm d.tracked.rows ∧
    ∀ e ∈ d.tracked.entries, e.2.orderId = e.1 := by
  have runs : ((Desk.calls { exampleDesk with ready := true } exampleCalls).any
      fun d => (Replay.ofRecords d.records).isOk) = true := by decide +kernel
  obtain ⟨d, called, ok⟩ := (Option.any_eq_true _ _).mp runs
  cases replayed : Replay.ofRecords d.records with
  | error o => simp [replayed, Except.isOk, Except.toBool] at ok
  | ok s =>
    have replayed₀ : Replay.ofRecords exampleDesk.records = .ok .empty := Replay.ofRecords_nil
    exact ⟨d, s, called, replayed,
      openOrders_perm_tracked rfl replayed₀ start_exampleDesk (by decide +kernel) called replayed⟩

/-- A run in which two orders are filled with as many units as one position cannot hold. -/
def overflowingCalls : List Call :=
  let first := exampleOrder "first" (units 70000000000000000000000000000 (by decide))
  let second := exampleOrder "second" (units 70000000000000000000000000000 (by decide))
  [.sendNew first, .report (exampleFill first "e1" first.quantity), .sendNew second,
    .report (exampleFill second "e2" second.quantity)]

/-- A journal may have no replay although every call of the desk came to an end. -/
theorem replay_overflows : ∃ d₁ report d e, (start (.ofReplay .empty)).run exampleDesk = .ok report d₁ ∧
    FitAll d₁ overflowingCalls ∧ d₁.calls overflowingCalls = some d ∧ Replay.ofRecords d.records = .error e := by
  have runs : ((Desk.calls { exampleDesk with ready := true } overflowingCalls).any
      fun d => !(Replay.ofRecords d.records).isOk) = true := by decide +kernel
  obtain ⟨d, called, overflow⟩ := (Option.any_eq_true _ _).mp runs
  cases replayed : Replay.ofRecords d.records with
  | error e => exact ⟨_, _, d, e, start_exampleDesk, by decide +kernel, called, replayed⟩
  | ok s => simp [replayed, Except.isOk, Except.toBool] at overflow

/-! ## Desks on a journal that comes to an end -/

/-- A desk through which orders flow, on a journal that takes so many events. -/
def shortDesk (budget : Nat) (ordering : PersistOrdering := .callbackFirst) : Desk ScriptedJournal ScriptedRouter :=
  { (new ⟨"A"⟩ { persistOrdering := ordering } { budget := some budget } ⟨[], {}⟩ .epoch).register ⟨"S"⟩ with
    ready := true }

/-- An order of five units. -/
def fiveUnits : Order := exampleOrder "first" (units 5 (by decide))

/-- A fill of two of five units. -/
def twoUnits : Fill := .ofOrder fiveUnits ⟨"e1"⟩ (units 2 (by decide)) (units 1 Decimal.one_lt_limit) .epoch

end Desk

end Blotter
