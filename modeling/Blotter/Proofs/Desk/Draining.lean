import Mathlib
import Blotter.Proofs.Desk.Actions
import Blotter.Proofs.Journal.Stopping

/-!
# Draining

A desk that stops cancels what is open, in rounds. The router may refuse cancels and answer anything each time it is
asked what is open, and the journal may refuse any command.

- What a round does to the router does not depend on the journal (`Router.round`), and what it does to the journal does
  not depend on the router (`Desk.cancelJournal`). So the actions of a stop are told in full (`Desk.cancelActions`).
- A drain runs while orders are open and rounds are left (`Desk.drain_run`), and a stop drains, stops the journal and
  reports how it went (`Desk.stop_drains`).
- In particular a stop asks the router for nothing but cancels, journals nothing but commands, and sets no stage in
  motion (`Desk.stop_run`).
-/

namespace Blotter

open DeskAction

/-! ## The router -/

namespace Router

variable {ρ : Type} [Router ρ]

/-- The router after it was asked to cancel some orders. -/
def cancelAll (orders : List Order) (r : ρ) : ρ := orders.foldl (fun r o => (cancel o.orderId r).2) r

/-- The router after a round: it was asked what is open, and then to cancel that. -/
def round (r : ρ) : ρ := cancelAll (openOrders r).1 (openOrders r).2

/-- The orders that the router holds to be open after some rounds. -/
def openAfter (r : ρ) (rounds : Nat) : List Order := (openOrders (round^[rounds] r)).1

/-- The router after it was asked for them. -/
def askedAfter (r : ρ) (rounds : Nat) : ρ := (openOrders (round^[rounds] r)).2

/-- The orders that the router was asked to cancel in some rounds. -/
def cancelledIn (r : ρ) (rounds : Nat) : List Order := (List.range rounds).flatMap (openAfter r)

theorem cancelledIn_succ (r : ρ) (rounds : Nat) :
    cancelledIn r (rounds + 1) = openAfter r 0 ++ cancelledIn (round r) rounds := by
  rw [cancelledIn, List.range_succ_eq_map, List.flatMap_cons, List.flatMap_map]
  rfl

end Router

namespace Desk

variable {ω ρ σ : Type} [JournalAccess ω]

/-! ## Cancels -/

/-- The journal after it was handed the commands to cancel some orders. -/
def cancelJournal (now : Instant) (orders : List Order) (j : ω) : ω :=
  orders.foldl (fun j o => (JournalAccess.persist (.command (.cancel o now)) false j).2) j

/-- What is done to cancel some orders: each command is handed to the journal, and whether that takes it or not, the
router is asked to cancel the order. -/
def cancelActions (now : Instant) : List Order → ω → List DeskAction
  | [], _ => []
  | o :: orders, j =>
    .persist (.command (.cancel o now)) false
        (JournalAccess.persist (.command (.cancel o now)) false j).1.toOption.isSome ::
      .route (.cancel o.orderId) ::
      cancelActions now orders (JournalAccess.persist (.command (.cancel o now)) false j).2

theorem cancelActions_append (now : Instant) (orders orders' : List Order) (j : ω) :
    cancelActions now (orders ++ orders') j =
      cancelActions now orders j ++ cancelActions now orders' (cancelJournal now orders j) := by
  induction orders generalizing j with
  | nil => rfl
  | cons o orders ih => simp only [List.cons_append, cancelActions, ih, cancelJournal, List.foldl_cons]

theorem cancelJournal_append (now : Instant) (orders orders' : List Order) (j : ω) :
    cancelJournal now (orders ++ orders') j = cancelJournal now orders' (cancelJournal now orders j) :=
  List.foldl_append

/-- Whether actions and the chain after them are those of a stop: only cancels are asked for, only commands are
journaled, and the stages stay as they are. -/
structure Drains (c c' : Chain ρ σ) (actions : List DeskAction) : Prop where
  asked : AskOnly (∃ orderId, · = .cancel orderId) actions
  commands : ∀ e ∈ events actions, ∃ command, e = .command command
  stages : c'.stages = c.stages

theorem mem_cancelActions {now : Instant} {orders : List Order} {j : ω} {a : DeskAction}
    (h : a ∈ cancelActions now orders j) : ∃ o ∈ orders,
      (∃ taken, a = .persist (.command (.cancel o now)) false taken) ∨ a = .route (.cancel o.orderId) := by
  induction orders generalizing j with
  | nil => exact absurd h List.not_mem_nil
  | cons o orders ih =>
    rcases List.mem_cons.mp h with rfl | h
    · exact ⟨o, List.mem_cons_self, .inl ⟨_, rfl⟩⟩
    · rcases List.mem_cons.mp h with rfl | h
      · exact ⟨o, List.mem_cons_self, .inr rfl⟩
      · obtain ⟨o', among, is⟩ := ih h
        exact ⟨o', List.mem_cons_of_mem o among, is⟩

/-- Only cancels are asked for to cancel orders, and only commands are journaled. -/
theorem drains_cancelActions (c : Chain ρ σ) (r : ρ) (now : Instant) (orders : List Order) (j : ω) :
    Drains c { c with router := r } (cancelActions now orders j) := by
  refine ⟨fun call asked => ?_, fun e journaled => ?_, rfl⟩
  · obtain ⟨o, -, ⟨taken, is⟩ | is⟩ := mem_cancelActions asked
    · exact absurd is nofun
    · exact ⟨o.orderId, DeskAction.route.inj is⟩
  · obtain ⟨a, among, is⟩ := List.mem_filterMap.mp journaled
    obtain ⟨o, -, ⟨taken, rfl⟩ | rfl⟩ := mem_cancelActions among
    · cases taken with
      | true => exact ⟨_, (Option.some.inj is).symm⟩
      | false => exact absurd is nofun
    · exact absurd is nofun

/-! ## Rounds -/

open DeskOp

variable [Router ρ] (d : Desk ω ρ σ)

theorem drainOrder_run (o : Order) : (drainOrder o).run d = .ok () (d.went (cancelJournal d.now [o] d.journal)
    { d.chain with router := Router.cancelAll [o] d.chain.router } d.metrics (cancelActions d.now [o] d.journal)) := by
  rw [drainOrder, bind_ok (get_run d)]
  have tried : (tryPersist (.command (.cancel o d.now))).run d = .ok
      (JournalAccess.persist (.command (.cancel o d.now)) false d.journal).1
      (d.went (cancelJournal d.now [o] d.journal) d.chain d.metrics
        [.persist (.command (.cancel o d.now)) false
          (JournalAccess.persist (.command (.cancel o d.now)) false d.journal).1.toOption.isSome]) := rfl
  rw [bind_ok tried, bind_ok (cancelAtRouter_eq _ _), went_went]
  rfl

theorem drainOrders_run (orders : List Order) : (orders.forM drainOrder).run d = .ok ()
    (d.went (cancelJournal d.now orders d.journal) { d.chain with router := Router.cancelAll orders d.chain.router }
      d.metrics (cancelActions d.now orders d.journal)) := by
  induction orders generalizing d with
  | nil =>
    rw [List.forM]
    exact congrArg _ (went_nil d).symm
  | cons o orders ih =>
    rw [List.forM, bind_ok (drainOrder_run d o)]
    refine (ih _).trans (congrArg _ ?_)
    rw [went_went]
    exact congrArg (went d _ _ _) (cancelActions_append d.now [o] orders d.journal).symm

/-- One round cancels what was reported open and asks again. -/
theorem round_run (orders : List Order) :
    (do orders.forM drainOrder; openAtRouter : DeskOp ω ρ σ (List Order)).run d =
      .ok (Router.openOrders (Router.cancelAll orders d.chain.router)).1
        (d.went (cancelJournal d.now orders d.journal)
          { d.chain with router := (Router.openOrders (Router.cancelAll orders d.chain.router)).2 } d.metrics
          (cancelActions d.now orders d.journal)) := by
  rw [bind_ok (drainOrders_run d orders), openAtRouter_eq, went_went, List.append_nil]
  rfl

/-- A drain ends when no round is left or nothing is open any more. -/
theorem drain_run (rounds : Nat) (r : ρ) (asked : d.chain.router = (Router.openOrders r).2) :
    ∃ n ≤ rounds, (∀ k < n, Router.openAfter r k ≠ []) ∧ (n < rounds → Router.openAfter r n = []) ∧
      (drain rounds (Router.openOrders r).1).run d = .ok ⟨n, (Router.openAfter r n).length⟩
        (d.went (cancelJournal d.now (Router.cancelledIn r n) d.journal)
          { d.chain with router := Router.askedAfter r n } d.metrics
          (cancelActions d.now (Router.cancelledIn r n) d.journal)) := by
  have rests (d : Desk ω ρ σ) (r : ρ) (asked : d.chain.router = (Router.openOrders r).2) :
      d.went d.journal { d.chain with router := Router.askedAfter r 0 } d.metrics [] = d := by
    rw [Router.askedAfter, Function.iterate_zero, id, ← asked]
    exact went_nil d
  induction rounds generalizing d r with
  | zero => exact ⟨0, Nat.le_refl _, nofun, nofun, by rw [drain]; exact congrArg _ (rests d r asked).symm⟩
  | succ rounds ih =>
    cases orders : (Router.openOrders r).1 with
    | nil =>
      have none : Router.openAfter r 0 = [] := orders
      refine ⟨0, Nat.zero_le _, nofun, fun _ => none, ?_⟩
      rw [none, drain]
      exact congrArg _ (rests d r asked).symm
    | cons o rest =>
      have open₀ : Router.openAfter r 0 = o :: rest := orders
      have round : Router.cancelAll (o :: rest) d.chain.router = Router.round r := by rw [Router.round, orders, asked]
      have first := round_run d (o :: rest)
      rw [round] at first
      -- The rounds that are left begin with the answer of the router after the first one.
      obtain ⟨n, few, still, closed, later⟩ := ih (d.went (cancelJournal d.now (o :: rest) d.journal)
        { d.chain with router := (Router.openOrders (Router.round r)).2 } d.metrics
        (cancelActions d.now (o :: rest) d.journal)) (Router.round r) rfl
      refine ⟨n + 1, Nat.succ_le_succ few, fun k before => ?_, fun before => closed (Nat.lt_of_succ_lt_succ before), ?_⟩
      · cases k with
        | zero => exact open₀ ▸ List.cons_ne_nil o rest
        | succ k => exact still k (Nat.lt_of_succ_lt_succ before)
      · rw [Router.cancelledIn_succ, open₀, cancelActions_append, cancelJournal_append, drain]
        · rw [← bind_assoc, bind_ok first, bind_ok later, went_went]
          rfl
        · nofun

/-! ## Stopping -/

/-- A desk without flow of orders just stops its journal. -/
theorem stop_run_of_closed (closed : d.settings.orderFlowEnabled = false) :
    stop.run d = .ok ⟨0, 0⟩ ({ d with ready := false }.went (JournalAccess.stop d.journal) d.chain d.metrics []) := by
  rw [stop, bind_ok (modify_run _ d), bind_ok (get_run _)]
  simp only [closed, went, List.append_nil]
  rfl

/-- Otherwise it drains before. -/
theorem stop_run_of_open (flows : d.settings.orderFlowEnabled = true) :
    let r := d.chain.router
    ∃ n ≤ d.settings.drainIterations, (∀ k < n, Router.openAfter r k ≠ []) ∧
      (n < d.settings.drainIterations → Router.openAfter r n = []) ∧
      stop.run d = .ok ⟨n, (Router.openAfter r n).length⟩ ({ d with ready := false }.went
        (JournalAccess.stop (cancelJournal d.now (Router.cancelledIn r n) d.journal))
        { d.chain with router := Router.askedAfter r n } d.metrics
        (cancelActions d.now (Router.cancelledIn r n) d.journal)) := by
  intro r
  have listed := openAtRouter_eq { d with ready := false }
  obtain ⟨n, few, still, closed, drained⟩ := drain_run
    ({ d with ready := false }.went d.journal { d.chain with router := (Router.openOrders r).2 } d.metrics [])
    d.settings.drainIterations r rfl
  refine ⟨n, few, still, closed, ?_⟩
  rw [went_went, List.nil_append] at drained
  rw [stop, bind_ok (modify_run _ d), bind_ok (get_run _)]
  simp only [flows, if_true]
  rw [bind_ok listed, bind_ok drained]
  rfl

/-- Whatever the router answers each time it is asked what is open, whatever cancels it refuses and whatever commands
the journal refuses, a stop comes to an end. No orders flow then, and the journal is stopped; one with real workers is
stopped in fact. Where orders may flow, there are some rounds, not more than the settings allow, and fewer only if
nothing is open any more. In each of them what was reported open at its beginning is cancelled: every command is handed
to the journal, and then the router is asked. The report counts the rounds and what is open after the last one. Where
no orders may flow, nothing is cancelled. Nothing else changes. -/
theorem stop_drains : ∃ report d', stop.run d = .ok report d' ∧ d'.ready = false ∧
    (∃ j, d'.journal = JournalAccess.stop j) ∧ (∀ l : LiveJournal, (JournalAccess.stop l).journal.state = .stopped) ∧
    (d.settings.orderFlowEnabled = false → report = ⟨0, 0⟩ ∧
      d' = { d with ready := false, journal := JournalAccess.stop d.journal }) ∧
    (d.settings.orderFlowEnabled = true →
      let r := d.chain.router
      let n := report.iterations
      let cancelled := (List.range n).flatMap (Router.openAfter r)
      n ≤ d.settings.drainIterations ∧ (∀ k < n, Router.openAfter r k ≠ []) ∧
      report.remaining = (Router.openAfter r n).length ∧
      (n < d.settings.drainIterations → report.remaining = 0) ∧
      d' = { d with
        ready := false
        journal := JournalAccess.stop (cancelJournal d.now cancelled d.journal)
        chain := { d.chain with router := Router.askedAfter r n }
        trace := d.trace ++ cancelActions d.now cancelled d.journal }) := by
  have stopped (l : LiveJournal) : (JournalAccess.stop l).journal.state = .stopped :=
    Journal.state_stop l.journal l.world
  cases flows : d.settings.orderFlowEnabled with
  | false =>
    refine ⟨_, _, stop_run_of_closed d flows, rfl, ⟨_, rfl⟩, stopped, fun _ => ⟨rfl, ?_⟩,
      fun opens => absurd opens (by simp)⟩
    rw [went, List.append_nil]
  | true =>
    obtain ⟨n, few, still, closed, ran⟩ := stop_run_of_open d flows
    refine ⟨_, _, ran, rfl, ⟨_, rfl⟩, stopped, fun closes => absurd closes (by simp),
      fun _ => ⟨few, still, rfl, fun before => ?_, rfl⟩⟩
    exact List.length_eq_zero_iff.mpr (closed before)

/-- A stop always comes to an end, and then no orders flow. -/
theorem stop_run : ∃ report j c actions,
    stop.run d = .ok report ({ d with ready := false }.went j c d.metrics actions) ∧ Drains d.chain c actions := by
  cases flows : d.settings.orderFlowEnabled with
  | false =>
    exact ⟨_, _, _, _, stop_run_of_closed d flows, drains_cancelActions d.chain d.chain.router d.now [] d.journal⟩
  | true =>
    obtain ⟨n, -, -, -, ran⟩ := stop_run_of_open d flows
    exact ⟨_, _, _, _, ran, drains_cancelActions _ _ _ _ _⟩

end Desk

end Blotter
