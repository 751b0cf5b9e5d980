import Mathlib
import Blotter.Desk.Session

/-!
# Desks on a journal that takes every event

On a journal that takes every event (`KeepingJournal`), what a desk does comes down to the events that get into the
journal: each operation of the desk is reduced to an equation that names the desk afterwards, up to the state of the
journal, the chain, the metrics and the trace, and says which events were added (`Adds`). What a report comes to is
said before any of it is carried out (`Desk.dispatch`), and a new order goes one of three ways (`Sending`).
-/

namespace Blotter

/-- Records to which events have been added, each under a number above all earlier ones. -/
def Adds : List Record → List Event → List Record → Prop
  | rs, [], rs' => rs' = rs
  | rs, e :: es, rs' => ∃ r, r.event = e ∧ (∀ q ∈ rs, q.seq < r.seq) ∧ Adds (rs ++ [r]) es rs'

theorem Adds.trans {rs rs' rs'' : List Record} {es es' : List Event} (h : Adds rs es rs') (h' : Adds rs' es' rs'') :
    Adds rs (es ++ es') rs'' := by
  induction es generalizing rs with
  | nil =>
    obtain rfl : rs' = rs := h
    exact h'
  | cons e es ih =>
    obtain ⟨r, hr, above, later⟩ := h
    exact ⟨r, hr, above, ih later⟩

/-- Journals that take every event, with the records that they hold. -/
class KeepingJournal (ω : Type) extends JournalAccess ω where
  records : ω → List Record
  persist_keeps : ∀ (e : Event) (toBus : Bool) (j : ω), ∃ n t j', persist e toBus j = (.ok n, j') ∧
    records j' = records j ++ [⟨n, t, toBus, e⟩] ∧ ∀ r ∈ records j, r.seq < n

/-- A journal that is nothing but its records. -/
structure Ledger where
  records : List Record
deriving DecidableEq

/-- The number of the next record. -/
def Ledger.next (l : Ledger) : Nat := (l.records.map (·.seq)).foldr max 0 + 1

theorem Ledger.seq_lt_next {l : Ledger} {r : Record} (h : r ∈ l.records) : r.seq < l.next := by
  rw [next, Nat.lt_succ_iff]
  generalize l.records = rs at h
  induction rs with
  | nil => simp at h
  | cons q rs ih =>
    rw [List.map_cons, List.foldr_cons]
    rcases List.mem_cons.mp h with rfl | h
    · exact Nat.le_max_left _ _
    · exact (ih h).trans (Nat.le_max_right _ _)

instance : KeepingJournal Ledger where
  persist e toBus l := (.ok l.next, ⟨l.records ++ [⟨l.next, .epoch, toBus, e⟩]⟩)
  canPersist _ := true
  canPersistToDatabase _ := true
  state _ := .started
  stop l := l
  records := Ledger.records
  persist_keeps _ _ l := ⟨l.next, .epoch, _, rfl, rfl, fun _ => l.seq_lt_next⟩

/-- The records in the journal of a desk. -/
def Desk.records {ω ρ σ : Type} [KeepingJournal ω] (d : Desk ω ρ σ) : List Record := KeepingJournal.records d.journal

/-- The tracked orders after orders are rebuilt. -/
def Desk.trackAll (tracked : Table OrderId Order) (orders : List Order) : Table OrderId Order :=
  orders.foldl (fun t o => t.insert o.orderId o) tracked

namespace DeskOp

variable {ω ρ σ α β : Type}

theorem bind_ok {x : DeskOp ω ρ σ α} {f : α → DeskOp ω ρ σ β} {d d' : Desk ω ρ σ} {a : α} (h : x.run d = .ok a d') :
    (x >>= f).run d = (f a).run d' := by
  rw [EStateM.run] at h
  simp only [EStateM.run, bind, EStateM.bind, h]

theorem bind_error {x : DeskOp ω ρ σ α} {f : α → DeskOp ω ρ σ β} {d d' : Desk ω ρ σ} {e : Failure DeskError}
    (h : x.run d = .error e d') : (x >>= f).run d = .error e d' := by
  rw [EStateM.run] at h
  simp only [EStateM.run, bind, EStateM.bind, h]

theorem get_run (d : Desk ω ρ σ) : (get : DeskOp ω ρ σ (Desk ω ρ σ)).run d = .ok d d := rfl

theorem modify_run (f : Desk ω ρ σ → Desk ω ρ σ) (d : Desk ω ρ σ) :
    (modify f : DeskOp ω ρ σ Unit).run d = .ok () (f d) := rfl

theorem ofJournal_run (a : α) (d : Desk ω ρ σ) : (ofJournal (.ok a)).run d = .ok a d := rfl

theorem ofOverflow_run (a : α) (d : Desk ω ρ σ) : (ofOverflow (.ok a)).run d = .ok a d := rfl

/-! ## Demands -/

section Demands

variable (d : Desk ω ρ σ)

theorem needReady_run : (needReady : DeskOp ω ρ σ Unit).run d =
    if d.ready then .ok () d else .error (.reported .notReady) d := by
  rw [needReady, bind_ok (get_run d)]
  cases d.ready <;> rfl

theorem needStrategy_run (strategy : StrategyId) (mention : StrategyMention) : (needStrategy strategy mention).run d =
    if d.knows strategy then .ok () d else .error (.reported (.unknownStrategy strategy mention)) d := by
  rw [needStrategy, bind_ok (get_run d)]
  cases d.knows strategy <;> rfl

/-- Demands for strategies change nothing, and they fail if any of the strategies is not registered. -/
theorem needStrategies_run (needs : List α) (strategy : α → StrategyId) (mention : α → StrategyMention) :
    ((∀ a ∈ needs, d.knows (strategy a) = true) ∧
      (needs.forM fun a => needStrategy (strategy a) (mention a)).run d = .ok () d) ∨
    (∃ a ∈ needs, d.knows (strategy a) = false) ∧
      ∃ e, (needs.forM fun a => needStrategy (strategy a) (mention a)).run d = .error (.reported e) d := by
  induction needs with
  | nil => exact .inl ⟨nofun, rfl⟩
  | cons a needs ih =>
    rw [List.forM]
    cases known : d.knows (strategy a) with
    | false =>
      rw [bind_error (by rw [needStrategy_run, known]; rfl)]
      exact .inr ⟨⟨a, List.mem_cons_self .., known⟩, _, rfl⟩
    | true =>
      rw [bind_ok (by rw [needStrategy_run, known]; rfl)]
      rcases ih with ⟨all, found⟩ | ⟨⟨b, hb, unknown⟩, failed⟩
      · exact .inl ⟨List.forall_mem_cons.mpr ⟨known, all⟩, found⟩
      · exact .inr ⟨⟨b, List.mem_cons_of_mem a hb, unknown⟩, failed⟩

theorem needOrder_run (orderId : OrderId) : (needOrder orderId).run d =
    match d.tracked.find? orderId with
    | some o => .ok o d
    | none => .error (.reported (.unknownOrder orderId)) d := by
  rw [needOrder, bind_ok (get_run d)]
  cases d.tracked.find? orderId <;> rfl

end Demands

/-! ## Journaling -/

section Journal

variable [KeepingJournal ω] (d : Desk ω ρ σ)

/-- An event that a desk hands to its journal is in there. -/
theorem persist_run (e : Event) : ∃ j tr, (persist e).run d = .ok () { d with journal := j, trace := tr } ∧
    Adds d.records [e] (KeepingJournal.records j) := by
  obtain ⟨n, t, j, taken, kept, above⟩ := KeepingJournal.persist_keeps e (e.kind != .command) d.journal
  refine ⟨j, d.trace ++ [.persist e (e.kind != .command) true], ?_, ⟨⟨n, t, e.kind != .command, e⟩, rfl, above, kept⟩⟩
  have tried : (tryPersist e).run d =
      .ok (.ok n) (({ d with journal := j } : Desk ω ρ σ).note (.persist e (e.kind != .command) true)) := by
    rw [tryPersist, bind_ok (get_run d)]
    simp only [taken]
    rfl
  rw [persist, bind_ok tried]
  rfl

theorem persistAll_run (es : List Event) : ∃ j tr, (persistAll es).run d = .ok () { d with journal := j, trace := tr } ∧
    Adds d.records es (KeepingJournal.records j) := by
  induction es generalizing d with
  | nil => exact ⟨d.journal, d.trace, rfl, rfl⟩
  | cons e es ih =>
    obtain ⟨j, tr, first, added⟩ := persist_run d e
    obtain ⟨j', tr', later, added'⟩ := ih { d with journal := j, trace := tr }
    refine ⟨j', tr', ?_, added.trans added'⟩
    rw [persistAll, List.forM, bind_ok first]
    exact later

theorem admissionRefusal_run : ∃ refusal m, admissionRefusal.run d = .ok refusal { d with metrics := m } := by
  rw [admissionRefusal, bind_ok (get_run d)]
  generalize (if (!JournalAccess.canPersist d.journal) = true then some AdmissionRefusal.fileBackpressure
    else if (!JournalAccess.canPersistToDatabase d.journal) = true then some .databaseBackpressure else none) = refusal
  cases refusal with
  | none => exact ⟨none, d.metrics, rfl⟩
  | some reason => exact ⟨some reason, d.metrics.add (.refused reason) 1, rfl⟩

/-- A strategy that is registered is told of an event, and what belongs to it is journaled. -/
theorem deliver_run {strategy : StrategyId} (known : d.knows strategy = true) (es : List Event) (callback : Callback) :
    ∃ j tr, (deliver strategy es callback).run d = .ok () { d with journal := j, trace := tr } ∧
      Adds d.records es (KeepingJournal.records j) := by
  have found : (needStrategy strategy .executionReport).run d = .ok () d := by rw [needStrategy_run, known, if_pos rfl]
  rw [deliver, bind_ok found, bind_ok (get_run d)]
  cases d.settings.persistOrdering with
  | callbackFirst =>
    obtain ⟨j, tr, written, added⟩ := persistAll_run (d.note (.tell strategy callback)) es
    exact ⟨j, tr, (bind_ok (modify_run _ d)).trans written, added⟩
  | persistFirst =>
    obtain ⟨j, tr, written, added⟩ := persistAll_run d es
    refine ⟨j, tr ++ [.tell strategy callback], (bind_ok written).trans ?_, added⟩
    rfl

theorem deliverReject_run {o : Order} (known : d.knows o.strategy = true) (r : Reject) :
    ∃ j tr, (deliverReject o r).run d = .ok () { d with journal := j, trace := tr } ∧
      Adds d.records [.orderReject (o.withStatus .rejected d.now) r] (KeepingJournal.records j) := by
  rw [deliverReject, bind_ok (get_run d)]
  exact deliver_run d known _ _

end Journal

/-! ## The way to the exchange -/

section Router

variable (d : Desk ω ρ σ)

theorem needRouted_ok : (needRouted (.ok ()) : DeskOp ω ρ σ Unit).run d = .ok () d := rfl

theorem needRouted_error (reason : String) : (needRouted (.error reason) : DeskOp ω ρ σ Unit).run d =
    .error (.reported (.router reason)) d := rfl

variable [Router ρ]

theorem send_run [StageKind σ] (o : Order) : ∃ c m tr, (send o).run d =
    .ok (d.chain.send o d.now).1.outcome { d with chain := c, metrics := m, trace := tr } := by
  rw [send, bind_ok (get_run d)]
  obtain ⟨⟨outcome, vetoed⟩, chain⟩ := d.chain.send o d.now
  cases vetoed with
  | true => exact ⟨chain, d.metrics.add (.refused .stageVeto) 1, d.trace, rfl⟩
  | false => exact ⟨chain, d.metrics, d.trace ++ [.route (.send o)], rfl⟩

theorem cancelAtRouter_run (orderId : OrderId) : ∃ result c tr, (cancelAtRouter orderId).run d =
    .ok result { d with chain := c, trace := tr } := ⟨_, _, _, rfl⟩

theorem modifyAtRouter_run (orderId : OrderId) (quantity : Decimal) (limitPrice : Option Decimal) :
    ∃ result c tr, (modifyAtRouter orderId quantity limitPrice).run d = .ok result { d with chain := c, trace := tr } :=
  ⟨_, _, _, rfl⟩

end Router

end DeskOp

/-! ## Reports -/

/-- What a report comes to. -/
structure Dispatch where
  /-- What is tracked afterwards. -/
  tracked : Table OrderId Order
  /-- Who is told. -/
  strategy : StrategyId
  /-- What is journaled. -/
  events : List Event
  callback : Callback

section Reports

variable {ω ρ σ : Type}

/-- What a report comes to, unless it is a fill of an order that is not tracked or that cannot be calculated. -/
def Desk.dispatch (d : Desk ω ρ σ) : ExecutionReport → Except (Failure DeskError) Dispatch
  | .ack o => .ok ⟨d.tracked.insert o.orderId o, o.strategy, [.order o], .orderAck o⟩
  | .reject o r =>
    let rejected := o.withStatus .rejected d.now
    .ok ⟨d.tracked.erase o.orderId, o.strategy, [.orderReject rejected r], .orderReject rejected r⟩
  | .canceled o => .ok ⟨d.tracked.erase o.orderId, o.strategy, [.order o], .cancel o⟩
  | .fill f =>
    match d.tracked.find? f.orderId with
    | none => .error (.reported (.unknownOrder f.orderId))
    | some o =>
      match o.applyFill f.quantity f.price d.now with
      | .error x => .error (.overflow x)
      | .ok o =>
        let tracked := if o.isOpen then d.tracked.insert o.orderId o else d.tracked.erase o.orderId
        .ok ⟨tracked, f.strategy, [.fill f, .order o], .fill o f⟩

open DeskOp

/-- A report changes what is tracked, and then its owner is told and it is journaled. -/
theorem Desk.onReport_run [JournalAccess ω] (d : Desk ω ρ σ) (report : ExecutionReport) : (onReport report).run d =
    match d.dispatch report with
    | .error e => .error e d
    | .ok x => (deliver x.strategy x.events x.callback).run { d with tracked := x.tracked } := by
  cases report with
  | ack o => rfl
  | reject o r => rfl
  | canceled o => rfl
  | fill f =>
    rw [onReport, dispatch]
    cases found : d.tracked.find? f.orderId with
    | none => rw [bind_error (by rw [needOrder_run, found])]
    | some o =>
      rw [bind_ok (by rw [needOrder_run, found]), bind_ok (get_run d)]
      cases applied : o.applyFill f.quantity f.price d.now with
      | error x => simp only [applied]; rfl
      | ok o' =>
        rw [bind_ok (ofOverflow_run o' d), bind_ok (modify_run _ d)]
        simp only [applied]
        cases o'.isOpen with
        | true => rfl
        | false => rfl

/-- A report that comes to something for a strategy that is known is carried out, if the journal takes every event. -/
theorem Desk.onReport_carried [KeepingJournal ω] {d : Desk ω ρ σ} {report : ExecutionReport} {x : Dispatch}
    (dispatched : d.dispatch report = .ok x) (known : d.knows x.strategy = true) : ∃ j tr, (onReport report).run d =
      .ok () { d with tracked := x.tracked, journal := j, trace := tr } ∧
        Adds d.records x.events (KeepingJournal.records j) := by
  have known : ({ d with tracked := x.tracked } : Desk ω ρ σ).knows x.strategy = true := known
  rw [onReport_run, dispatched]
  exact deliver_run _ known x.events x.callback

end Reports

/-! ## New orders -/

section Sending

variable {ω ρ σ : Type} [KeepingJournal ω] [Router ρ] [StageKind σ]

/-- How it may go with a new order on a journal that takes every event. -/
inductive Sending (d : Desk ω ρ σ) (o : Order) :
    EStateM.Result (Failure DeskError) (Desk ω ρ σ) RouteOutcome → Prop
  /-- Nothing has happened. -/
  | refused {e : DeskError} : Sending d o (.error (.reported e) d)
  /-- The owner is told that the order is rejected; a command is journaled before if the order was on its way. -/
  | rejected {r : Reject} (commands : List Command) {j : ω} {c : Chain ρ σ} {m : Metrics} {tr : List DeskAction} :
      Adds d.records (commands.map .command ++ [.orderReject (o.withStatus .rejected d.now) r])
        (KeepingJournal.records j) →
      Sending d o (.ok (.rejected r) { d with journal := j, chain := c, metrics := m, trace := tr })
  /-- The chain accepts the order. -/
  | accepted {sent : Order} {j : ω} {c : Chain ρ σ} {m : Metrics} {tr : List DeskAction} :
      (d.chain.send o d.now).1.outcome = .accepted sent →
      Adds d.records [.command (.new o d.now), .order sent] (KeepingJournal.records j) →
      Sending d o (.ok (.accepted sent)
        { d with journal := j, chain := c, metrics := m, trace := tr, tracked := d.tracked.insert sent.orderId sent })

open DeskOp

theorem Desk.sendNew_run (d : Desk ω ρ σ) (o : Order) : Sending d o ((sendNew o).run d) := by
  rw [sendNew]
  cases ready : d.ready with
  | false =>
    rw [bind_error (by rw [needReady_run, ready]; rfl)]
    exact .refused
  | true =>
    rw [bind_ok (by rw [needReady_run, ready]; rfl)]
    cases known : d.knows o.strategy with
    | false =>
      rw [bind_error (by rw [needStrategy_run, known]; rfl)]
      exact .refused
    | true =>
      rw [bind_ok (by rw [needStrategy_run, known]; rfl)]
      obtain ⟨refusal, m, admission⟩ := admissionRefusal_run d
      rw [bind_ok admission]
      cases refusal with
      | some reason =>
        obtain ⟨j, tr, delivered, added⟩ := deliverReject_run { d with metrics := m } known
          (Reject.ofOrder .locally o reason.rejectReason d.now)
        simp only
        rw [bind_ok (get_run _), bind_ok delivered]
        exact .rejected [] added
      | none =>
        obtain ⟨j, tr, commanded, added⟩ := persist_run { d with metrics := m } (.command (.new o d.now))
        obtain ⟨c, m', tr', sent⟩ := send_run { d with metrics := m, journal := j, trace := tr } o
        simp only
        rw [bind_ok (get_run _), bind_ok commanded, bind_ok sent]
        cases outcome : (d.chain.send o d.now).1.outcome with
        | accepted o' =>
          obtain ⟨j', tr'', ordered, added'⟩ :=
            persist_run { d with metrics := m', journal := j, chain := c, trace := tr' } (.order o')
          simp only
          rw [bind_ok ordered, bind_ok (modify_run _ _), bind_ok (modify_run _ _)]
          exact .accepted outcome (added.trans added')
        | rejected r =>
          obtain ⟨j', tr'', delivered, added'⟩ :=
            deliverReject_run { d with metrics := m', journal := j, chain := c, trace := tr' } known r
          simp only
          rw [bind_ok delivered, bind_ok (modify_run _ _)]
          exact .rejected [_] (added.trans added')

end Sending

end Blotter
