import Mathlib
import Blotter.Proofs.Desk.Orderly

/-!
# What passes from parts to the whole

Every call of a desk is put together from a few things that the desk does in one go: it fails, looks at itself, changes
without doing anything to the world, tells a strategy something, hands an event to the journal, delivers a callback with
its events, or asks its router. A property of operations that all of these have, and that two operations pass on to the
one after the other (`DeskOp.Composes`), is one of every call (`Composes.sendNew` and so on) and so of every move
(`Composes.op`).
-/

namespace Blotter

open DeskOp Desk

variable {ω ρ σ : Type}

namespace DeskOp

/-- Whether a change of a desk does nothing to the world and looks neither at the past nor at the ordering. -/
structure Silent (f : Desk ω ρ σ → Desk ω ρ σ) : Prop where
  blind : ∀ d, f d = { f d.erased with settings := d.settings, trace := d.trace }
  now : ∀ d, (f d).now = d.now
  chain : ∀ d, (f d).chain = d.chain

section Composes

variable [JournalAccess ω] [Router ρ] [StageKind σ]

/-- Whether a property of operations passes from the parts of a call to the whole. Of the events that are owed to a
callback it is only known in a delivery. -/
structure Composes (owed : Event → Prop) (P : (α : Type) → DeskOp ω ρ σ α → Prop) : Prop where
  pure : ∀ {α : Type} (a : α), P α (Pure.pure a)
  throw : ∀ {α : Type} (e : Failure DeskError), P α (throw e)
  bind : ∀ {α β : Type} {x : DeskOp ω ρ σ α} {f : α → DeskOp ω ρ σ β}, P α x → (∀ a, P β (f a)) → P β (x >>= f)
  read : ∀ {α : Type} {f : Desk ω ρ σ → DeskOp ω ρ σ α}, (∀ d, f d = f d.erased) → (∀ d, P α (f d)) →
    P α (get >>= f)
  change : ∀ {f : Desk ω ρ σ → Desk ω ρ σ}, Silent f → P Unit (modify f)
  tell : ∀ (s : StrategyId) {c : Callback}, c.events = [] → P Unit (DeskOp.tell s c)
  tryPersist : ∀ {e : Event}, ¬owed e → P _ (DeskOp.tryPersist e)
  deliver : ∀ (s : StrategyId) (c : Callback), P Unit (DeskOp.deliver s c.events c)
  send : ∀ o : Order, P _ (DeskOp.send o)
  cancelAtRouter : ∀ orderId : OrderId, P _ (DeskOp.cancelAtRouter orderId)
  modifyAtRouter : ∀ (orderId : OrderId) (quantity : Decimal) (limitPrice : Option Decimal),
    P _ (DeskOp.modifyAtRouter orderId quantity limitPrice)
  restoreAtRouter : ∀ o : Order, P _ (DeskOp.restoreAtRouter o)
  openAtRouter : P _ DeskOp.openAtRouter

namespace Composes

variable {owed : Event → Prop} {P : (α : Type) → DeskOp ω ρ σ α → Prop} (h : Composes owed P)

include h

/-! ## Parts of calls -/

theorem forM {α : Type} {f : α → DeskOp ω ρ σ Unit} (each : ∀ a, P _ (f a)) (as : List α) : P _ (as.forM f) := by
  induction as with
  | nil => exact h.pure ()
  | cons a as ih => exact h.bind (each a) fun _ => ih

theorem ofJournal {α : Type} (result : Except JournalError α) : P _ (DeskOp.ofJournal result) := by
  cases result with
  | ok a => exact h.pure a
  | error e => exact h.throw _

theorem ofOverflow {α : Type} (result : Except Overflow α) : P _ (DeskOp.ofOverflow result) := by
  cases result with
  | ok a => exact h.pure a
  | error e => exact h.throw _

theorem needRouted (result : Except String Unit) : P _ (DeskOp.needRouted result) := by
  cases result with
  | ok a => exact h.pure ()
  | error e => exact h.throw _

theorem needReady : P _ DeskOp.needReady := by
  refine h.read (fun _ => rfl) fun d => ?_
  cases d.ready with
  | true => exact h.pure ()
  | false => exact h.throw _

theorem needStrategy (s : StrategyId) (mention : StrategyMention) : P _ (DeskOp.needStrategy s mention) := by
  refine h.read (fun _ => rfl) fun d => ?_
  cases d.knows s with
  | true => exact h.pure ()
  | false => exact h.throw _

theorem needOrder (orderId : OrderId) : P _ (DeskOp.needOrder orderId) := by
  refine h.read (fun _ => rfl) fun d => ?_
  cases d.tracked.find? orderId with
  | some o => exact h.pure o
  | none => exact h.throw _

theorem track (o : Order) : P _ (modify (·.track o)) := h.change ⟨fun _ => rfl, fun _ => rfl, fun _ => rfl⟩

theorem untrack (orderId : OrderId) : P _ (modify (·.untrack orderId)) :=
  h.change ⟨fun _ => rfl, fun _ => rfl, fun _ => rfl⟩

theorem count (c : Counter) : P _ (modify (·.count c)) := h.change ⟨fun _ => rfl, fun _ => rfl, fun _ => rfl⟩

theorem persist {e : Event} (unowed : ¬owed e) : P _ (DeskOp.persist e) := by
  refine h.bind (h.tryPersist unowed) fun result => ?_
  cases result with
  | ok n => exact h.pure ()
  | error cause => exact h.throw _

theorem admissionRefusal : P _ DeskOp.admissionRefusal := by
  refine h.read (fun _ => rfl) fun d => ?_
  extract_lets refusal
  cases refusal with
  | none => exact h.pure none
  | some reason => exact h.bind (h.count _) fun _ => h.pure (some reason)

theorem deliverReject (o : Order) (r : Reject) : P _ (DeskOp.deliverReject o r) :=
  h.read (fun _ => rfl) fun d => h.deliver o.strategy (.orderReject (o.withStatus .rejected d.now) r)

/-! ## Calls -/

theorem start (reader : RecoveryReader) : P _ (Desk.start reader) := by
  have rebuildOrder (o : Order) : P _ (Desk.rebuildOrder o) :=
    h.bind (h.tell o.strategy rfl) fun _ => h.bind (h.restoreAtRouter o) fun _ => h.track o
  have rebuildPosition (p : Position) : P _ (Desk.rebuildPosition p) := h.tell p.strategy rfl
  have enable : P _ (modify fun d => { d with ready := d.settings.orderFlowEnabled }) :=
    h.change ⟨fun _ => rfl, fun _ => rfl, fun _ => rfl⟩
  refine h.read (fun _ => rfl) fun d => ?_
  split
  · exact h.throw _
  · refine h.bind (h.ofJournal _) fun orders => h.bind (h.ofJournal _) fun positions => ?_
    refine h.bind (h.forM (fun _ => h.needStrategy ..) _) fun _ => ?_
    refine h.bind (h.forM (fun _ => h.needStrategy ..) _) fun _ => ?_
    refine h.bind (h.forM rebuildOrder _) fun _ => h.bind (h.forM rebuildPosition _) fun _ => ?_
    exact h.bind enable fun _ => h.pure _

variable (commands : ∀ c, ¬owed (.command c)) (orders : ∀ o, ¬owed (.order o))

include commands

theorem drainOrder (o : Order) : P _ (Desk.drainOrder o) :=
  h.read (fun _ => rfl) fun _ => h.bind (h.tryPersist (commands _)) fun _ => h.bind (h.cancelAtRouter _) fun _ =>
    h.pure ()

theorem drain (rounds : Nat) (open_ : List Order) : P _ (Desk.drain rounds open_) := by
  induction rounds generalizing open_ with
  | zero =>
    rw [Desk.drain]
    exact h.pure _
  | succ rounds ih =>
    cases open_ with
    | nil =>
      rw [Desk.drain]
      exact h.pure _
    | cons o open_ =>
      rw [Desk.drain]
      · refine h.bind (h.forM (h.drainOrder commands) _) fun _ => h.bind h.openAtRouter fun still => ?_
        exact h.bind (ih still) fun _ => h.pure _
      · intro empty
        cases empty

theorem stop : P _ Desk.stop := by
  have halt : P _ (modify fun d => { d with ready := false }) := h.change ⟨fun _ => rfl, fun _ => rfl, fun _ => rfl⟩
  have close : P _ (modify fun d => { d with journal := JournalAccess.stop d.journal }) :=
    h.change ⟨fun _ => rfl, fun _ => rfl, fun _ => rfl⟩
  refine h.bind halt fun _ => h.read (fun _ => rfl) fun d => ?_
  extract_lets settings
  split
  · refine h.bind h.openAtRouter fun still => h.bind (h.drain commands _ still) fun _ => ?_
    exact h.bind close fun _ => h.pure _
  · exact h.bind (h.pure _) fun _ => h.bind close fun _ => h.pure _

include orders

theorem sendNew (o : Order) : P _ (Desk.sendNew o) := by
  refine h.bind h.needReady fun _ => h.bind (h.needStrategy ..) fun _ => h.bind h.admissionRefusal fun refusal => ?_
  cases refusal with
  | some refusal => exact h.read (fun _ => rfl) fun d => h.bind (h.deliverReject ..) fun _ => h.pure _
  | none =>
    refine h.read (fun _ => rfl) fun d => h.bind (h.persist (commands _)) fun _ => h.bind (h.send o) fun outcome => ?_
    cases outcome with
    | accepted sent =>
      refine h.bind (h.persist (orders sent)) fun _ => h.bind (h.track sent) fun _ => ?_
      exact h.bind (h.count _) fun _ => h.pure _
    | rejected r => exact h.bind (h.deliverReject o r) fun _ => h.bind (h.count _) fun _ => h.pure _

theorem modifyOrder (orderId : OrderId) (quantity : Decimal) (limitPrice : Option Decimal) :
    P _ (Desk.modifyOrder orderId quantity limitPrice) := by
  refine h.bind h.needReady fun _ => h.bind (h.needOrder _) fun o => h.bind h.admissionRefusal fun refusal => ?_
  cases refusal with
  | some refusal => exact h.read (fun _ => rfl) fun d => h.pure _
  | none =>
    refine h.read (fun _ => rfl) fun d => h.bind (h.persist (commands _)) fun _ => ?_
    refine h.bind (h.modifyAtRouter ..) fun routed => h.bind (h.needRouted routed) fun _ => ?_
    refine h.read (fun _ => rfl) fun d => h.bind (h.persist (orders _)) fun _ => ?_
    exact h.bind (h.track _) fun _ => h.pure _

theorem cancelOrder (orderId : OrderId) : P _ (Desk.cancelOrder orderId) := by
  refine h.bind (h.needOrder _) fun o => h.read (fun _ => rfl) fun d => h.bind (h.persist (commands _)) fun _ => ?_
  refine h.bind (h.cancelAtRouter _) fun routed => h.bind (h.needRouted routed) fun _ => ?_
  exact h.read (fun _ => rfl) fun d => h.bind (h.persist (orders _)) fun _ => h.track _

omit commands orders

theorem onReport (report : ExecutionReport) : P _ (Desk.onReport report) := by
  cases report with
  | ack o => exact h.bind (h.track o) fun _ => h.deliver o.strategy (.orderAck o)
  | reject o r => exact h.bind (h.untrack _) fun _ => h.deliverReject o r
  | canceled o => exact h.bind (h.untrack _) fun _ => h.deliver o.strategy (.cancel o)
  | fill f =>
    refine h.bind (h.needOrder _) fun o => h.read (fun _ => rfl) fun d => h.bind (h.ofOverflow _) fun o => ?_
    refine h.bind ?_ fun _ => h.deliver f.strategy (.fill o f)
    cases o.isOpen with
    | true => exact h.track o
    | false => exact h.untrack o.orderId

end Composes

end Composes

end DeskOp

/-! ## Moves -/

/-- What a desk answers. -/
inductive Answer where
  | done
  | recovered (report : RecoveryReport)
  | routed (outcome : RouteOutcome)
  | drained (report : DrainReport)
deriving DecidableEq

namespace Move

/-- Whether an event is journaled in a move because a strategy is told of it: any event of a report, and a reject. -/
def Owes : Move ω ρ → Event → Prop
  | .report _, _ => True
  | _, .orderReject _ _ => True
  | _, _ => False

/-- Whether a move gives the desk another router. -/
def Reroutes : Move ω ρ → Prop
  | .world _ _ _ => True
  | .register _ | .start _ | .ask _ | .report _ | .stop => False

variable [JournalAccess ω] [Router ρ] [StageKind σ]

/-- What a desk does in a move. -/
def op : Move ω ρ → DeskOp ω ρ σ Answer
  | .register strategy => do
    modify (·.register strategy)
    return .done
  | .world now journal router => do
    modify fun d => { d with now, journal, chain := { d.chain with router } }
    return .done
  | .start reader => return .recovered (← Desk.start reader)
  | .ask (.send o) => return .routed (← sendNew o)
  | .ask (.modify orderId quantity limitPrice) => return .routed (← modifyOrder orderId quantity limitPrice)
  | .ask (.cancel orderId) => do
    cancelOrder orderId
    return .done
  | .report r => do
    onReport r
    return .done
  | .stop => return .drained (← Desk.stop)

end Move

section Moves

variable [JournalAccess ω] [Router ρ] [StageKind σ]

omit [JournalAccess ω] [Router ρ] [StageKind σ] in
theorem silent_register (s : StrategyId) : Silent (·.register s : Desk ω ρ σ → Desk ω ρ σ) := by
  refine ⟨fun d => ?_, fun d => ?_, fun d => ?_⟩
  · rw [register, register]
    cases known : d.knows s with
    | true => rw [if_pos rfl, if_pos (by exact known)]; rfl
    | false => rw [if_neg (by simp), if_neg (by exact Bool.eq_false_iff.mp known)]; rfl
  · rw [register]
    split
    · rfl
    · rfl
  · rw [register]
    split
    · rfl
    · rfl

theorem DeskOp.Composes.op {P : (α : Type) → DeskOp ω ρ σ α → Prop} {m : Move ω ρ} (h : Composes m.Owes P)
    (same : ¬m.Reroutes) : P _ m.op := by
  cases m with
  | register strategy => exact h.bind (h.change (silent_register strategy)) fun _ => h.pure _
  | world now journal router => exact absurd trivial same
  | start reader => exact h.bind (h.start reader) fun _ => h.pure _
  | ask q =>
    cases q with
    | send o => exact h.bind (h.sendNew (fun _ => id) (fun _ => id) o) fun _ => h.pure _
    | modify orderId quantity limitPrice =>
      exact h.bind (h.modifyOrder (fun _ => id) (fun _ => id) ..) fun _ => h.pure _
    | cancel orderId => exact h.bind (h.cancelOrder (fun _ => id) (fun _ => id) _) fun _ => h.pure _
  | report report => exact h.bind (h.onReport report) fun _ => h.pure _
  | stop => exact h.bind (h.stop fun _ => id) fun _ => h.pure _

variable (d : Desk ω ρ σ)

omit [JournalAccess ω] [Router ρ] [StageKind σ] in
theorem Desk.left_bind_pure {α β : Type} {x : DeskOp ω ρ σ α} (f : α → β) :
    (left ((x >>= fun a => pure (f a)).run d)).2 = (left (x.run d)).2 := by
  cases result : x.run d with
  | ok a d' => rw [bind_ok result]; rfl
  | error e d' => rw [bind_error result]; rfl

theorem Desk.move_eq (m : Move ω ρ) : d.move m = (left (m.op.run d)).2 := by
  cases m with
  | register strategy => rfl
  | world now journal router => rfl
  | start reader => exact (left_bind_pure d _).symm
  | ask q =>
    cases q with
    | send o => exact (left_bind_pure d _).symm
    | modify orderId quantity limitPrice => exact (left_bind_pure d _).symm
    | cancel orderId => exact (left_bind_pure d _).symm
  | report report => exact (left_bind_pure d _).symm
  | stop => exact (left_bind_pure d _).symm

end Moves

end Blotter
