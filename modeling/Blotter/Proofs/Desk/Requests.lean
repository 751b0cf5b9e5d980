import Mathlib
import Blotter.Proofs.Desk.Tracking

/-!
# Requests of strategies

A strategy may ask a desk to send, to change or to cancel an order. All three go the same way: a command is journaled,
the router is asked, and the order as the router accepts it is journaled and tracked.

- What happens to a request is one of four things, whatever the stages, the router and the journal answer (`Asking`,
  `Desk.ask_cases`). A request that comes to nothing leaves nothing in the journal but commands and the reject of a new
  order (`Request.Fruitless`).
- An order that the router accepts is tracked if the journal takes it, and it is not if the journal refuses it
  (`Desk.tracked_iff_journaled`): a desk may lose sight of an order that is alive (`Desk.accepted_untracked`).
-/

namespace Blotter

open DeskAction

variable {ω ρ σ α : Type}

/-- What a strategy may ask a desk to do. -/
inductive Request where
  | send (o : Order)
  | modify (orderId : OrderId) (quantity : Decimal) (limitPrice : Option Decimal)
  | cancel (orderId : OrderId)

namespace Request

/-- What the router is asked to do. -/
def call : Request → RouterCall
  | .send o => .send o
  | .modify orderId quantity limitPrice => .modify orderId quantity limitPrice
  | .cancel orderId => .cancel orderId

/-- The command that is journaled before, unless the order is not tracked that it is about. -/
def command? (d : Desk ω ρ σ) : Request → Option Command
  | .send o => some (.new o d.now)
  | .modify orderId quantity limitPrice => (d.tracked.find? orderId).map (.modify · quantity limitPrice d.now)
  | .cancel orderId => (d.tracked.find? orderId).map (.cancel · d.now)

/-- Whether a desk puts the request to the router. -/
def Granted [JournalAccess ω] [StageKind σ] (d : Desk ω ρ σ) : Request → Prop
  | .send o => d.ready = true ∧ d.knows o.strategy = true ∧ d.Admits ∧ d.chain.Passes o d.now
  | .modify _ _ _ => d.ready = true ∧ d.Admits
  | .cancel _ => True

/-- The order as it is tracked afterwards, if the router accepts the request. -/
def accepted? [Router ρ] (d : Desk ω ρ σ) : Request → Option Order
  | .send o =>
    match (Router.send o d.now d.chain.router).1 with
    | .accepted sent => some sent
    | .rejected _ => none
  | .modify orderId quantity limitPrice =>
    match (Router.modify orderId quantity limitPrice d.chain.router).1 with
    | .ok () => (d.tracked.find? orderId).map fun o => { o.withStatus o.status d.now with quantity, limitPrice }
    | .error _ => none
  | .cancel orderId =>
    match (Router.cancel orderId d.chain.router).1 with
    | .ok () => (d.tracked.find? orderId).map (·.withStatus .pendingCancel d.now)
    | .error _ => none

/-- Whether an event is one that is journaled whatever the router says: a command, or the reject of a new order. -/
def Aside (d : Desk ω ρ σ) (q : Request) (e : Event) : Prop :=
  (∃ command, e = .command command) ∨ ∃ o r, q = .send o ∧ e = .orderReject (o.withStatus .rejected d.now) r

/-- Whether the stages of a chain are those of the desk, after they have checked a new order if there is one. -/
def Staged [StageKind σ] (d : Desk ω ρ σ) (q : Request) (c : Chain ρ σ) : Prop :=
  c.stages = d.chain.stages ∨ ∃ o, q = .send o ∧ c.stages = d.chain.checked o d.now

/-- What is known of a request that the router is not asked or does not accept. -/
structure Fruitless [StageKind σ] (d : Desk ω ρ σ) (q : Request) (e : Option (Failure DeskError)) (c : Chain ρ σ)
    (actions : List DeskAction) : Prop where
  aside : ∀ ev ∈ events actions, q.Aside d ev
  /-- Unless the request fails, the reject of a new order is journaled. -/
  rejected : ∀ o, q = .send o → e = none → ∃ r, .orderReject (o.withStatus .rejected d.now) r ∈ events actions
  staged : q.Staged d c

namespace Fruitless

variable [StageKind σ] {d : Desk ω ρ σ} {q : Request} {e : Option (Failure DeskError)} {c : Chain ρ σ}
  {actions : List DeskAction}

/-- A request that leaves nothing in the journal; a new order fails then. -/
theorem of_silent (nothing : events actions = []) (fails : ∀ o, q = .send o → e ≠ none)
    (stages : c.stages = d.chain.stages) : q.Fruitless d e c actions := by
  refine ⟨fun ev hev => ?_, fun o same done => absurd done (fails o same), .inl stages⟩
  rw [nothing] at hev
  cases hev

/-- A new order that is rejected. -/
theorem of_rejected {o : Order} {r : Reject}
    (first : events actions <+: [.orderReject (o.withStatus .rejected d.now) r])
    (all : e = none → events actions = [.orderReject (o.withStatus .rejected d.now) r])
    (staged : (Request.send o).Staged d c) : (Request.send o).Fruitless d e c actions := by
  refine ⟨fun ev hev => .inr ⟨o, r, rfl, List.mem_singleton.mp (first.subset hev)⟩, ?_, staged⟩
  intro o' same done
  cases same
  exact ⟨r, by rw [all done]; exact List.mem_singleton_self _⟩

theorem commanded (h : q.Fruitless d e c actions) (command : Command) :
    q.Fruitless d e c (taken (.command command) :: actions) := by
  refine ⟨?_, fun o same done => ?_, h.staged⟩
  · rw [events_taken_cons, List.forall_mem_cons]
    exact ⟨.inl ⟨command, rfl⟩, h.aside⟩
  · obtain ⟨r, hr⟩ := h.rejected o same done
    exact ⟨r, List.mem_cons_of_mem _ hr⟩

end Fruitless

end Request

section Requests

variable [JournalAccess ω] [Router ρ] [StageKind σ]

/-- What becomes of a desk that is asked for something, with the failure if it refuses. -/
def Desk.ask (d : Desk ω ρ σ) : Request → Option (Failure DeskError) × Desk ω ρ σ
  | .send o => left ((sendNew o).run d)
  | .modify orderId quantity limitPrice => left ((modifyOrder orderId quantity limitPrice).run d)
  | .cancel orderId => left ((cancelOrder orderId).run d)

/-- How it may go with a request. -/
inductive Asking (d : Desk ω ρ σ) (q : Request) : Option (Failure DeskError) × Desk ω ρ σ → Prop
  /-- The router is not asked, as the request is not granted or as the journal refuses the command. -/
  | held {e : Option (Failure DeskError)} {j : ω} {c : Chain ρ σ} {m : Metrics} {actions : List DeskAction} :
      Quiet actions → q.Fruitless d e c actions →
      (q.Granted d → ∀ command, q.command? d = some command →
        refused (.command command) ∈ actions ∧ ¬d.Takes (.command command)) →
      Asking d q (e, d.went j c m actions)
  /-- The router does not accept the request. -/
  | declined {command : Command} {e : Option (Failure DeskError)} {j : ω} {c : Chain ρ σ} {m : Metrics}
      {actions : List DeskAction} :
      q.Granted d → q.command? d = some command → q.accepted? d = none → Quiet actions →
      q.Fruitless d e c actions → d.Takes (.command command) →
      Asking d q (e, d.went j c m ([taken (.command command), .route q.call] ++ actions))
  /-- The router accepts the request, and the journal takes the order as it is now. -/
  | settled {command : Command} {o : Order} {j : ω} {c : Chain ρ σ} {m : Metrics} :
      q.Granted d → q.command? d = some command → q.accepted? d = some o → q.Staged d c →
      d.Takes (.command command) →
      Asking d q (none, (d.went j c m [taken (.command command), .route q.call, taken (.order o)]).track o)
  /-- The router accepts the request, but the journal refuses the order as it is now. -/
  | lost {command : Command} {o : Order} {cause : JournalError} {j : ω} {c : Chain ρ σ} {m : Metrics} :
      q.Granted d → q.command? d = some command → q.accepted? d = some o → q.Staged d c →
      d.Takes (.command command) →
      Asking d q (some (.reported (.journal cause)),
        d.went j c m [taken (.command command), .route q.call, refused (.order o)])

namespace Desk

open DeskOp

variable (d : Desk ω ρ σ)

/-- A desk that refuses at once has done nothing. -/
theorem asking_unchanged {q : Request} (e : Failure DeskError) (idle : q.Granted d → q.command? d = none) :
    Asking d q (some e, d) := by
  have held : Asking d q (some e, d.went d.journal d.chain d.metrics []) := by
    refine .held askOnly_nil (.of_silent rfl (fun _ _ => nofun) rfl) fun granted command commanded => ?_
    exact absurd ((idle granted).symm.trans commanded) nofun
  rwa [went_nil] at held

/-- The journal refuses the command. -/
theorem asking_unheard {q : Request} {command : Command} (commanded : q.command? d = some command)
    (refuses : ¬d.Takes (.command command)) (e : Failure DeskError) (j : ω) :
    Asking d q (some e, d.went j d.chain d.metrics [refused (.command command)]) := by
  refine .held (quiet_refused _) (.of_silent rfl (fun _ _ => nofun) rfl) fun _ command' commanded' => ?_
  obtain rfl := Option.some.inj (commanded.symm.trans commanded')
  exact ⟨List.mem_singleton_self _, refuses⟩

/-- A new order that is admitted and journaled is put to the router if it passes the stages. -/
theorem asking_admitted {o : Order} (ready : d.ready = true) (known : d.knows o.strategy = true) (admits : d.Admits)
    (takes : d.Takes (.command (.new o d.now))) (j : ω) : Asking d (.send o) (left ((do
      let outcome ← DeskOp.send o
      match outcome with
      | .accepted sent =>
        DeskOp.persist (.order sent)
        modify (·.track sent)
      | .rejected reject => deliverReject o reject
      modify (·.count .sendLatency)
      return outcome : DeskOp ω ρ σ RouteOutcome).run
        (d.went j d.chain d.metrics [taken (.command (.new o d.now))]))) := by
  rcases send_cases (d.went j d.chain d.metrics [taken (.command (.new o d.now))]) o with
    ⟨r, c, m, fails, stages, vetoed⟩ | ⟨c, passes, stages, sent⟩
  · rw [went_went, went_journal, List.append_nil] at vetoed
    rw [bind_ok vetoed]
    obtain ⟨e, j', m', actions, rejected, quiet, first, all⟩ := deliverReject_quiet
      (d.went j c m [taken (.command (.new o d.now))]) o r _ (counted_quiet (RouteOutcome.rejected r))
    simp only
    rw [rejected, went_went]
    have fruitless : (Request.send o).Fruitless d e c actions := .of_rejected first all (.inr ⟨o, rfl, stages⟩)
    exact .held ((quiet_taken [_]).append quiet) (fruitless.commanded _) fun granted => absurd granted.2.2.2 fails
  · let asked := d.went j c d.metrics [taken (.command (.new o d.now)), .route (.send o)]
    have sent : (DeskOp.send o).run (d.went j d.chain d.metrics [taken (.command (.new o d.now))]) =
        .ok (Router.send o d.now d.chain.router).1 asked := sent.trans (by rw [went_went]; rfl)
    have granted : (Request.send o).Granted d := ⟨ready, known, admits, passes⟩
    have staged : (Request.send o).Staged d c := .inr ⟨o, rfl, stages⟩
    cases answer : (Router.send o d.now d.chain.router).1 with
    | rejected r =>
      rw [answer] at sent
      obtain ⟨e, j', m', actions, rejected, quiet, first, all⟩ :=
        deliverReject_quiet asked o r _ (counted_quiet (RouteOutcome.rejected r))
      rw [bind_ok sent]
      simp only
      rw [rejected, went_went]
      have fruitless : (Request.send o).Fruitless d e c actions := .of_rejected first all staged
      exact .declined granted rfl (by rw [Request.accepted?, answer]) quiet fruitless takes
    | accepted o' =>
      rw [answer] at sent
      have accepted : (Request.send o).accepted? d = some o' := by rw [Request.accepted?, answer]
      rw [bind_ok sent]
      rcases persist_cases asked (.order o') with ⟨-, j', ordered⟩ | ⟨-, cause, j', ordered⟩
      · simp only
        rw [bind_ok ordered, bind_ok (modify_run _ _), bind_ok (modify_run _ _), went_went]
        exact .settled (m := d.metrics.add .sendLatency 1) granted rfl accepted staged takes
      · simp only
        rw [bind_error ordered, went_went]
        exact .lost granted rfl accepted staged takes

theorem asking_sendNew (o : Order) : Asking d (.send o) (left ((sendNew o).run d)) := by
  rw [sendNew]
  cases ready : d.ready with
  | false =>
    rw [bind_error (by rw [needReady_run, ready]; rfl)]
    exact asking_unchanged d _ fun granted => absurd (ready.symm.trans granted.1) Bool.false_ne_true
  | true =>
    rw [bind_ok (by rw [needReady_run, ready]; rfl)]
    cases known : d.knows o.strategy with
    | false =>
      rw [bind_error (by rw [needStrategy_run, known]; rfl)]
      exact asking_unchanged d _ fun granted => absurd (known.symm.trans granted.2.1) Bool.false_ne_true
    | true =>
      rw [bind_ok (by rw [needStrategy_run, known]; rfl)]
      rcases admissionRefusal_cases d with ⟨admits, admission⟩ | ⟨full, reason, m, admission⟩
      · rw [bind_ok admission]
        simp only
        rw [bind_ok (get_run d)]
        rcases persist_cases d (.command (.new o d.now)) with ⟨takes, j, commanded⟩ | ⟨refuses, c, j, commanded⟩
        · rw [bind_ok commanded]
          exact asking_admitted d ready known admits takes j
        · rw [bind_error commanded]
          exact asking_unheard d rfl refuses _ j
      · rw [bind_ok admission]
        simp only
        rw [bind_ok (get_run _)]
        let d' := d.went d.journal d.chain m []
        let r := Reject.ofOrder .locally o reason.rejectReason d'.now
        obtain ⟨e, j, m', actions, rejected, quiet, first, all⟩ :=
          deliverReject_quiet d' o r _ (pure_quiet (RouteOutcome.rejected r))
        rw [rejected, went_went]
        exact .held quiet (.of_rejected first all (.inl rfl)) fun granted => absurd granted.2.2.1 full

/-- A request that is granted is journaled, put to the router and journaled again. -/
theorem asking_granted {q : Request} {command : Command} (granted : q.Granted d)
    (commanded : q.command? d = some command) (routed : DeskOp ω ρ σ (Except String Unit))
    (result : Except String Unit) (c : Chain ρ σ)
    (stages : c.stages = d.chain.stages)
    (asked : ∀ j actions, routed.run (d.went j d.chain d.metrics actions) =
      .ok result (d.went j c d.metrics (actions ++ [.route q.call])))
    (snapshot : Instant → Order) (accepted : q.accepted? d = result.toOption.map fun _ => snapshot d.now)
    (finish : Order → DeskOp ω ρ σ α)
    (finished : ∀ (o : Order) (d' : Desk ω ρ σ), left ((finish o).run d') = (none, d'.track o)) :
    Asking d q (left ((do
      DeskOp.persist (.command command)
      needRouted (← routed)
      let d' ← get
      DeskOp.persist (.order (snapshot d'.now))
      finish (snapshot d'.now)).run d)) := by
  rcases persist_cases d (.command command) with ⟨takes, j, first⟩ | ⟨refuses, cause, j, first⟩
  · have asked : routed.run (d.went j d.chain d.metrics [taken (.command command)]) =
        .ok result (d.went j c d.metrics [taken (.command command), .route q.call]) := asked j _
    rw [bind_ok first, bind_ok asked]
    cases result with
    | error reason =>
      rw [bind_error (needRouted_error _ reason)]
      have declined := Asking.declined (e := some (.reported (.router reason))) (j := j) (c := c) (m := d.metrics)
        granted commanded accepted askOnly_nil (.of_silent rfl (fun _ _ => nofun) stages) takes
      exact declined
    | ok =>
      rw [bind_ok (needRouted_ok _), bind_ok (get_run _)]
      let d' := d.went j c d.metrics [taken (.command command), .route q.call]
      rcases persist_cases d' (.order (snapshot d'.now)) with ⟨-, j', second⟩ | ⟨-, cause, j', second⟩
      · rw [bind_ok second, finished, went_went]
        exact .settled granted commanded accepted (.inl stages) takes
      · rw [bind_error second, went_went]
        exact .lost granted commanded accepted (.inl stages) takes
  · rw [bind_error first]
    exact asking_unheard d commanded refuses _ j

theorem asking_modifyOrder (orderId : OrderId) (quantity : Decimal) (limitPrice : Option Decimal) :
    Asking d (.modify orderId quantity limitPrice) (left ((modifyOrder orderId quantity limitPrice).run d)) := by
  rw [modifyOrder]
  cases ready : d.ready with
  | false =>
    rw [bind_error (by rw [needReady_run, ready]; rfl)]
    exact asking_unchanged d _ fun granted => absurd (ready.symm.trans granted.1) Bool.false_ne_true
  | true =>
    rw [bind_ok (by rw [needReady_run, ready]; rfl)]
    cases found : d.tracked.find? orderId with
    | none =>
      rw [bind_error (by rw [needOrder_run, found])]
      refine asking_unchanged d _ fun _ => ?_
      rw [Request.command?, found]
      rfl
    | some o =>
      rw [bind_ok (by rw [needOrder_run, found])]
      rcases admissionRefusal_cases d with ⟨admits, admission⟩ | ⟨full, reason, m, admission⟩
      · rw [bind_ok admission]
        simp only
        rw [bind_ok (get_run d)]
        let q : Request := .modify orderId quantity limitPrice
        let updated (now : Instant) : Order := { o.withStatus o.status now with quantity, limitPrice }
        let answer := Router.modify orderId quantity limitPrice d.chain.router
        have commanded : q.command? d = some (.modify o quantity limitPrice d.now) := by
          rw [Request.command?, found]
          rfl
        have asked (j : ω) (actions : List DeskAction) :
            (modifyAtRouter orderId quantity limitPrice).run (d.went j d.chain d.metrics actions) =
              .ok answer.1 (d.went j { d.chain with router := answer.2 } d.metrics (actions ++ [.route q.call])) := by
          rw [modifyAtRouter_eq, went_went]
          rfl
        have accepted : q.accepted? d = answer.1.toOption.map fun _ => updated d.now := by
          rw [Request.accepted?, found]
          cases answer.1 <;> rfl
        have way := asking_granted d (q := q) ⟨ready, admits⟩ commanded _ _ { d.chain with router := answer.2 } rfl
          asked updated accepted
          (fun updated => do
            modify (·.track updated)
            return RouteOutcome.accepted updated) (fun _ _ => rfl)
        exact way
      · rw [bind_ok admission]
        have idle : (Request.modify orderId quantity limitPrice).Fruitless d none d.chain [] :=
          .of_silent rfl (by intro o same; cases same) rfl
        exact .held askOnly_nil idle fun granted => absurd granted.2 full

theorem asking_cancelOrder (orderId : OrderId) :
    Asking d (.cancel orderId) (left ((cancelOrder orderId).run d)) := by
  rw [cancelOrder]
  cases found : d.tracked.find? orderId with
  | none =>
    rw [bind_error (by rw [needOrder_run, found])]
    refine asking_unchanged d _ fun _ => ?_
    rw [Request.command?, found]
    rfl
  | some o =>
    rw [bind_ok (by rw [needOrder_run, found]), bind_ok (get_run d)]
    let q : Request := .cancel orderId
    let pending (now : Instant) : Order := o.withStatus .pendingCancel now
    let answer := Router.cancel orderId d.chain.router
    have commanded : q.command? d = some (.cancel o d.now) := by
      rw [Request.command?, found]
      rfl
    have asked (j : ω) (actions : List DeskAction) :
        (cancelAtRouter orderId).run (d.went j d.chain d.metrics actions) =
          .ok answer.1 (d.went j { d.chain with router := answer.2 } d.metrics (actions ++ [.route q.call])) := by
      rw [cancelAtRouter_eq, went_went]
      rfl
    have accepted : q.accepted? d = answer.1.toOption.map fun _ => pending d.now := by
      rw [Request.accepted?, found]
      cases answer.1 <;> rfl
    have way := asking_granted d (q := q) trivial commanded _ _ { d.chain with router := answer.2 } rfl asked
      pending accepted
      (fun pending => modify (·.track pending)) (fun _ _ => rfl)
    exact way

/-- A request goes one of the ways of `Asking`, whatever the stages, the router and the journal answer. -/
theorem ask_cases (q : Request) : Asking d q (d.ask q) := by
  cases q with
  | send o => exact asking_sendNew d o
  | modify orderId quantity limitPrice => exact asking_modifyOrder d orderId quantity limitPrice
  | cancel orderId => exact asking_cancelOrder d orderId

/-! ## Requests that the router accepts -/

/-- After a request that the router accepts, the order is tracked as accepted if the journal takes it, and what is
tracked is what was tracked before if the journal refuses it. -/
theorem tracked_iff_journaled {d d' : Desk ω ρ σ} {q : Request} {e : Option (Failure DeskError)} {o : Order}
    {actions : List DeskAction} (asked : d.ask q = (e, d')) (trace : d'.trace = d.trace ++ actions)
    (routed : .route q.call ∈ actions) (accepted : q.accepted? d = some o) :
    (e = none ∧ taken (.order o) ∈ actions ∧ d'.tracked = d.tracked.insert o.orderId o) ∨
      ∃ cause, e = some (.reported (.journal cause)) ∧ refused (.order o) ∈ actions ∧ d'.tracked = d.tracked := by
  have way := ask_cases d q
  generalize d.ask q = result at asked way
  cases way with
  | held quiet =>
    obtain ⟨rfl, rfl⟩ := Prod.mk.inj asked
    obtain rfl := List.append_cancel_left trace
    exact (quiet _ routed).elim
  | declined _ _ declined _ => exact absurd (declined.symm.trans accepted) (by simp)
  | settled _ _ accepted' =>
    obtain ⟨rfl, rfl⟩ := Prod.mk.inj asked
    obtain rfl := List.append_cancel_left trace
    obtain rfl := Option.some.inj (accepted'.symm.trans accepted)
    exact .inl ⟨rfl, by simp, rfl⟩
  | lost _ _ accepted' =>
    obtain ⟨rfl, rfl⟩ := Prod.mk.inj asked
    obtain rfl := List.append_cancel_left trace
    obtain rfl := Option.some.inj (accepted'.symm.trans accepted)
    exact .inr ⟨_, rfl, by simp, rfl⟩

end Desk

end Requests

namespace Desk

/-! ## Requests on a journal that comes to an end -/

/-- A request that finds room for both of its events is tracked. -/
theorem tracked_shortDesk :
    let after := (shortDesk 2).ask (.send fiveUnits)
    .route (.send fiveUnits) ∈ after.2.trace ∧ after.1 = none ∧
      after.2.tracked = (shortDesk 2).tracked.insert fiveUnits.orderId fiveUnits := by
  intro after
  have routed : .route (.send fiveUnits) ∈ after.2.trace := by decide +kernel
  have done : after.1 = none := by decide +kernel
  have asked : (shortDesk 2).ask (.send fiveUnits) = (after.1, after.2) := rfl
  have trace : after.2.trace = (shortDesk 2).trace ++ after.2.trace := rfl
  rcases tracked_iff_journaled (o := fiveUnits) asked trace routed (by decide +kernel) with
    ⟨-, -, tracked⟩ | ⟨cause, failed, -, -⟩
  · exact ⟨routed, done, tracked⟩
  · exact absurd (done.symm.trans failed) (by simp)

/-- When the journal takes the command only, an order that the router accepts is not tracked and a fill of it is not
known, and a change or a cancel that the router accepts is not seen in what is tracked. -/
theorem accepted_untracked :
    let sent := (shortDesk 1).ask (.send fiveUnits)
    let tracking := (shortDesk 1).track fiveUnits
    let changed := tracking.ask (.modify fiveUnits.orderId (units 4 (by decide)) none)
    let cancelled := tracking.ask (.cancel fiveUnits.orderId)
    (Request.send fiveUnits).accepted? (shortDesk 1) = some fiveUnits ∧
      .route (.send fiveUnits) ∈ sent.2.trace ∧ sent.2.tracked.find? fiveUnits.orderId = none ∧
      (left ((onReport (exampleFill fiveUnits "e1" fiveUnits.quantity)).run sent.2)).1 =
        some (.reported (.unknownOrder fiveUnits.orderId)) ∧
      .route (.modify fiveUnits.orderId (units 4 (by decide)) none) ∈ changed.2.trace ∧
      changed.2.tracked.find? fiveUnits.orderId = some fiveUnits ∧
      .route (.cancel fiveUnits.orderId) ∈ cancelled.2.trace ∧
      cancelled.2.tracked.find? fiveUnits.orderId = some fiveUnits := by
  decide +kernel

end Desk

end Blotter
