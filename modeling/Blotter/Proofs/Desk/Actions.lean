import Mathlib
import Blotter.Proofs.Desk.Journaling

/-!
# What a desk does to the world around it

The journal may refuse any event, and the stages and the router any order. What a desk does is brought down to the
ways it may go, each with the actions that it adds to the trace.

- A strategy is told of something, and the events that belong to it are journaled up to the first one that the journal
  refuses (`Delivery`, `deliver_cases`).
-/

namespace Blotter

namespace DeskAction

/-- The journal takes an event. -/
def taken (e : Event) : DeskAction := .persist e (e.kind != .command) true

/-- The journal refuses an event. -/
def refused (e : Event) : DeskAction := .persist e (e.kind != .command) false

/-- Whether the router is asked only for what `p` allows. -/
def AskOnly (p : RouterCall → Prop) (actions : List DeskAction) : Prop := ∀ call, .route call ∈ actions → p call

/-- Whether the router is asked for nothing. -/
def Quiet (actions : List DeskAction) : Prop := AskOnly (fun _ => False) actions

variable {p : RouterCall → Prop} {actions actions' : List DeskAction}

theorem askOnly_nil : AskOnly p [] := by
  intro call h
  cases h

theorem AskOnly.append (h : AskOnly p actions) (h' : AskOnly p actions') : AskOnly p (actions ++ actions') := by
  intro call asked
  rcases List.mem_append.mp asked with asked | asked
  · exact h call asked
  · exact h' call asked

theorem quiet_taken (es : List Event) : Quiet (es.map taken) := by
  intro call h
  obtain ⟨e, -, he⟩ := List.mem_map.mp h
  cases he

theorem quiet_refused (e : Event) : Quiet [refused e] := by
  intro call h
  cases List.mem_singleton.mp h

theorem quiet_tell (strategy : StrategyId) (callback : Callback) : Quiet [.tell strategy callback] := by
  intro call h
  cases List.mem_singleton.mp h

/-! ## Events that the journal takes -/

/-- The event that the journal takes with an action. -/
def event? : DeskAction → Option Event
  | .persist e _ true => some e
  | .persist _ _ false | .tell _ _ | .route _ => none

theorem filterMap_event?_taken (es : List Event) : (es.map taken).filterMap event? = es := by
  induction es with
  | nil => rfl
  | cons e es ih =>
    have kept : event? (taken e) = some e := rfl
    rw [List.map_cons, List.filterMap_cons_some kept, ih]

/-- The events that the journal takes with actions. -/
def events (actions : List DeskAction) : List Event := actions.filterMap event?

@[simp]
theorem events_nil : events [] = [] := rfl

@[simp]
theorem events_append (actions actions' : List DeskAction) : events (actions ++ actions') =
    events actions ++ events actions' := List.filterMap_append

@[simp]
theorem events_taken_cons (e : Event) (actions : List DeskAction) : events (taken e :: actions) = e :: events actions :=
  rfl

@[simp]
theorem events_refused_cons (e : Event) (actions : List DeskAction) : events (refused e :: actions) = events actions :=
  rfl

@[simp]
theorem events_tell_cons (strategy : StrategyId) (callback : Callback) (actions : List DeskAction) :
    events (.tell strategy callback :: actions) = events actions := rfl

@[simp]
theorem events_route_cons (call : RouterCall) (actions : List DeskAction) :
    events (.route call :: actions) = events actions := rfl

@[simp]
theorem events_map_taken (es : List Event) : events (es.map taken) = es := filterMap_event?_taken es

/-! ## Telling and journaling -/

/-- How it may go that events are journaled: all of them are, or those before the first one that the journal refuses. -/
inductive Stored (es : List Event) : Option (Failure DeskError) → List DeskAction → Prop
  | all : Stored es none (es.map taken)
  | upTo (kept rest : List Event) (e : Event) (cause : JournalError) : es = kept ++ e :: rest →
      Stored es (some (.reported (.journal cause))) (kept.map taken ++ [refused e])

/-- What is done when a strategy is told of something and its events are journaled in such a way. -/
def delivery (ordering : PersistOrdering) (s : StrategyId) (c : Callback) (failure : Option (Failure DeskError))
    (actions : List DeskAction) : List DeskAction :=
  match ordering, failure with
  | .callbackFirst, _ => .tell s c :: actions
  | .persistFirst, none => actions ++ [.tell s c]
  | .persistFirst, some _ => actions

section Deliveries

variable {es : List Event} {failure : Option (Failure DeskError)}

theorem Stored.cons (h : Stored es failure actions) (e : Event) : Stored (e :: es) failure (taken e :: actions) := by
  cases h with
  | all => exact (.all : Stored (e :: es) none ((e :: es).map taken))
  | upTo kept rest e' cause split => exact .upTo (e :: kept) rest e' cause (congrArg (List.cons e) split)

theorem Stored.quiet (h : Stored es failure actions) : Quiet actions := by
  cases h with
  | all => exact quiet_taken es
  | upTo kept rest e cause split => exact (quiet_taken kept).append (quiet_refused e)

theorem Stored.events_prefix (h : Stored es failure actions) :
    events actions <+: es ∧ (failure = none → events actions = es) := by
  cases h with
  | all => exact ⟨by rw [events_map_taken], fun _ => events_map_taken es⟩
  | upTo kept rest e cause split =>
    refine ⟨?_, nofun⟩
    rw [split]
    simp

theorem quiet_delivery (ordering : PersistOrdering) (s : StrategyId) (c : Callback)
    (failure : Option (Failure DeskError)) (quiet : Quiet actions) : Quiet (delivery ordering s c failure actions) := by
  cases ordering with
  | callbackFirst => exact (quiet_tell s c).append quiet
  | persistFirst =>
    cases failure with
    | none => exact quiet.append (quiet_tell s c)
    | some failure => exact quiet

theorem events_delivery (ordering : PersistOrdering) (s : StrategyId) (c : Callback)
    (failure : Option (Failure DeskError)) (actions : List DeskAction) :
    events (delivery ordering s c failure actions) = events actions := by
  cases ordering with
  | callbackFirst => exact events_tell_cons s c actions
  | persistFirst =>
    cases failure with
    | none => simp [delivery]
    | some failure => rfl

end Deliveries

end DeskAction

open DeskAction

section Effects

variable {ω ρ σ α β : Type}

/-- The desk after actions that may have changed its journal, its chain and its counters. -/
def Desk.went (d : Desk ω ρ σ) (j : ω) (c : Chain ρ σ) (m : Metrics) (actions : List DeskAction) : Desk ω ρ σ :=
  { d with journal := j, chain := c, metrics := m, trace := d.trace ++ actions }

section Went

variable (d : Desk ω ρ σ) (j : ω) (c : Chain ρ σ) (m : Metrics) (actions : List DeskAction)

@[simp]
theorem Desk.went_journal : (d.went j c m actions).journal = j := rfl

@[simp]
theorem Desk.went_metrics : (d.went j c m actions).metrics = m := rfl

@[simp]
theorem Desk.went_trace : (d.went j c m actions).trace = d.trace ++ actions := rfl

end Went

theorem Desk.went_went (d : Desk ω ρ σ) (j j' : ω) (c c' : Chain ρ σ) (m m' : Metrics)
    (actions actions' : List DeskAction) :
    (d.went j c m actions).went j' c' m' actions' = d.went j' c' m' (actions ++ actions') := by
  simp only [Desk.went, List.append_assoc]

theorem Desk.went_nil (d : Desk ω ρ σ) : d.went d.journal d.chain d.metrics [] = d := by
  simp only [Desk.went, List.append_nil]

/-- The desk that an operation leaves behind, with its failure if it fails. -/
def Desk.left : EStateM.Result (Failure DeskError) (Desk ω ρ σ) α → Option (Failure DeskError) × Desk ω ρ σ
  | .ok _ d => (none, d)
  | .error e d => (some e, d)

theorem Desk.eq_error_of_left {result : EStateM.Result (Failure DeskError) (Desk ω ρ σ) α} {e : Failure DeskError}
    (failed : (Desk.left result).1 = some e) : result = .error e (Desk.left result).2 := by
  cases result with
  | ok a d => cases failed
  | error e' d => cases failed; rfl

theorem Desk.eq_ok_of_left {result : EStateM.Result (Failure DeskError) (Desk ω ρ σ) Unit}
    (done : (Desk.left result).1 = none) : result = .ok () (Desk.left result).2 := by
  cases result with
  | ok a d => rfl
  | error e d => cases done

/-- Whether both gates of the journal are open. -/
def Desk.Admits [JournalAccess ω] (d : Desk ω ρ σ) : Prop :=
  JournalAccess.canPersist d.journal = true ∧ JournalAccess.canPersistToDatabase d.journal = true

/-- Whether the journal takes an event. -/
def Desk.Takes [JournalAccess ω] (d : Desk ω ρ σ) (e : Event) : Prop :=
  ∃ n, (JournalAccess.persist e (e.kind != .command) d.journal).1 = .ok n

/-- Whether an order passes all stages. -/
def Chain.Passes [StageKind σ] (c : Chain ρ σ) (o : Order) (now : Instant) : Prop :=
  ∀ s ∈ c.stages, (StageKind.check s o now.toNanos).1 = none

/-- The stages after they have checked an order. -/
def Chain.checked [StageKind σ] (c : Chain ρ σ) (o : Order) (now : Instant) : List σ :=
  (StageKind.checkAll o now.toNanos c.stages).2

theorem StageKind.checkAll_eq_none_iff [StageKind σ] (o : Order) (now : Int) (stages : List σ) :
    (checkAll o now stages).1 = none ↔ ∀ s ∈ stages, (check s o now).1 = none := by
  induction stages with
  | nil => exact ⟨fun _ => nofun, fun _ => rfl⟩
  | cons s rest ih =>
    rw [checkAll, List.forall_mem_cons]
    rcases check s o now with ⟨reason, s'⟩
    cases reason with
    | some reason => exact ⟨nofun, fun passed => absurd passed.1 (by simp)⟩
    | none => exact ⟨fun passed => ⟨rfl, ih.mp passed⟩, fun passed => ih.mpr passed.2⟩

/-- A stage keeps an order from the router, or the router gives the answer. -/
theorem Chain.send_cases [Router ρ] [StageKind σ] (c : Chain ρ σ) (o : Order) (now : Instant) :
    (∃ r c', ¬c.Passes o now ∧ c'.stages = c.checked o now ∧ c.send o now = (⟨.rejected r, true⟩, c')) ∨
      ∃ c', c.Passes o now ∧ c'.stages = c.checked o now ∧
        c.send o now = (⟨(Router.send o now c.router).1, false⟩, c') := by
  have passes : _ ↔ c.Passes o now := StageKind.checkAll_eq_none_iff o now.toNanos c.stages
  revert passes
  unfold Chain.send Chain.checked
  rcases StageKind.checkAll o now.toNanos c.stages with ⟨reason, stages⟩
  intro passes
  cases reason with
  | some reason => exact .inl ⟨_, _, fun passed => absurd (passes.mpr passed) nofun, rfl, rfl⟩
  | none => exact .inr ⟨_, passes.mp rfl, rfl, rfl⟩

namespace DeskOp

/-! ## Endings that do nothing to the world -/

theorem pure_quiet (a : α) (d' : Desk ω ρ σ) :
    ∃ m, Desk.left ((pure a : DeskOp ω ρ σ α).run d') = (none, d'.went d'.journal d'.chain m []) :=
  ⟨d'.metrics, by rw [Desk.went_nil]; rfl⟩

theorem counted_quiet (a : α) (d' : Desk ω ρ σ) :
    ∃ m, Desk.left ((modify (·.count .sendLatency) >>= fun _ => pure a : DeskOp ω ρ σ α).run d') =
      (none, d'.went d'.journal d'.chain m []) :=
  ⟨d'.metrics.add .sendLatency 1, by simp only [Desk.went, List.append_nil]; rfl⟩

/-! ## Journaling -/

section Journal

variable [JournalAccess ω] (d : Desk ω ρ σ)

/-- The journal takes an event or refuses it. -/
theorem tryPersist_cases (e : Event) :
    (d.Takes e ∧ ∃ n j, (tryPersist e).run d = .ok (.ok n) (d.went j d.chain d.metrics [taken e])) ∨
      ¬d.Takes e ∧ ∃ c j, (tryPersist e).run d = .ok (.error c) (d.went j d.chain d.metrics [refused e]) := by
  rw [tryPersist, bind_ok (get_run d), Desk.Takes]
  rcases persisted : JournalAccess.persist e (e.kind != .command) d.journal with ⟨result, j⟩
  simp only [persisted]
  cases result with
  | ok n => exact .inl ⟨⟨n, rfl⟩, n, j, rfl⟩
  | error c => exact .inr ⟨by simp, c, j, rfl⟩

theorem persist_cases (e : Event) :
    (d.Takes e ∧ ∃ j, (persist e).run d = .ok () (d.went j d.chain d.metrics [taken e])) ∨
      ¬d.Takes e ∧ ∃ c j,
        (persist e).run d = .error (.reported (.journal c)) (d.went j d.chain d.metrics [refused e]) := by
  rcases tryPersist_cases d e with ⟨takes, n, j, tried⟩ | ⟨refuses, c, j, tried⟩
  · refine .inl ⟨takes, j, ?_⟩
    rw [persist, bind_ok tried]
    rfl
  · refine .inr ⟨refuses, c, j, ?_⟩
    rw [persist, bind_ok tried]
    rfl

/-- What becomes of events that are journaled is up to the journal. -/
theorem persistAll_stored (es : List Event) (j : ω) : ∃ failure j' actions, Stored es failure actions ∧
    ∀ d : Desk ω ρ σ, d.journal = j →
      Desk.left ((persistAll es).run d) = (failure, d.went j' d.chain d.metrics actions) := by
  induction es generalizing j with
  | nil =>
    refine ⟨none, j, [], .all, fun d same => ?_⟩
    rw [← same, Desk.went_nil]
    rfl
  | cons e es ih =>
    rcases stored : JournalAccess.persist e (e.kind != .command) j with ⟨result, j₁⟩
    have tried (d : Desk ω ρ σ) (same : d.journal = j) : (tryPersist e).run d = .ok result
        (d.went j₁ d.chain d.metrics [.persist e (e.kind != .command) result.toOption.isSome]) := by
      rw [tryPersist, bind_ok (get_run d)]
      simp only [same, stored]
      rfl
    cases result with
    | error cause =>
      refine ⟨_, j₁, [refused e], .upTo [] es e cause rfl, fun d same => ?_⟩
      have failed : (persist e).run d = .error (.reported (.journal cause))
          (d.went j₁ d.chain d.metrics [refused e]) := by
        rw [persist, bind_ok (tried d same)]
        rfl
      rw [persistAll, List.forM, bind_error failed]
      rfl
    | ok n =>
      obtain ⟨failure, j', actions, kept, later⟩ := ih j₁
      refine ⟨failure, j', taken e :: actions, kept.cons e, fun d same => ?_⟩
      have first : (persist e).run d = .ok () (d.went j₁ d.chain d.metrics [taken e]) := by
        rw [persist, bind_ok (tried d same)]
        rfl
      rw [persistAll, List.forM, bind_ok first]
      exact (later _ rfl).trans (by rw [Desk.went_went]; rfl)

/-- What becomes of a delivery is up to the journal and to the ordering. -/
theorem deliver_stored (s : StrategyId) (es : List Event) (c : Callback) (j : ω) : ∃ failure j' actions,
    Stored es failure actions ∧ ∀ d : Desk ω ρ σ, d.journal = j → d.knows s = true →
      Desk.left ((deliver s es c).run d) =
        (failure, d.went j' d.chain d.metrics (delivery d.settings.persistOrdering s c failure actions)) := by
  obtain ⟨failure, j', actions, stored, persisted⟩ := persistAll_stored (ρ := ρ) (σ := σ) es j
  refine ⟨failure, j', actions, stored, fun d same known => ?_⟩
  rw [deliver, bind_ok (by rw [needStrategy_run, known]; rfl), bind_ok (get_run d)]
  cases ordering : d.settings.persistOrdering with
  | callbackFirst =>
    have told : (tell s c : DeskOp ω ρ σ Unit).run d = .ok () (d.went d.journal d.chain d.metrics [.tell s c]) := rfl
    simp only
    rw [bind_ok told, persisted (d.went d.journal d.chain d.metrics [.tell s c]) same, Desk.went_went]
    rfl
  | persistFirst =>
    have first := persisted d same
    simp only
    cases failure with
    | none =>
      rw [bind_ok (Desk.eq_ok_of_left (congrArg Prod.fst first)), first]
      exact congrArg (Prod.mk none) (Desk.went_went ..)
    | some failure =>
      rw [bind_error (Desk.eq_error_of_left (congrArg Prod.fst first)), first]
      rfl

/-- A delivery to a strategy that is not known fails. -/
theorem deliver_unknown {strategy : StrategyId} (unknown : d.knows strategy = false) (es : List Event)
    (callback : Callback) : (deliver strategy es callback).run d =
      .error (.reported (.unknownStrategy strategy .executionReport)) d := by
  rw [deliver, bind_error (by rw [needStrategy_run, unknown]; rfl)]

/-- How it may go that a strategy is told of something whose events are journaled. -/
inductive Delivery (strategy : StrategyId) (es : List Event) (callback : Callback) :
    EStateM.Result (Failure DeskError) (Desk ω ρ σ) Unit → Prop
  /-- Nobody is told, as the strategy is not known. -/
  | unknown : d.knows strategy = false →
      Delivery strategy es callback (.error (.reported (.unknownStrategy strategy .executionReport)) d)
  /-- The strategy is told, and the journal has taken everything. -/
  | told {j : ω} {actions : List DeskAction} : d.knows strategy = true → Quiet actions → events actions = es →
      Delivery strategy es callback (.ok () (d.went j d.chain d.metrics actions))
  /-- The strategy is told at once, but the journal refuses an event. -/
  | unjournaled {kept rest : List Event} {e : Event} {c : JournalError} {j : ω} : es = kept ++ e :: rest →
      Delivery strategy es callback (.error (.reported (.journal c))
        (d.went j d.chain d.metrics (.tell strategy callback :: (kept.map taken ++ [refused e]))))
  /-- The journal refuses an event before the strategy is told. -/
  | withheld {kept rest : List Event} {e : Event} {c : JournalError} {j : ω} :
      d.settings.persistOrdering = .persistFirst → es = kept ++ e :: rest →
      Delivery strategy es callback (.error (.reported (.journal c))
        (d.went j d.chain d.metrics (kept.map taken ++ [refused e])))

theorem deliver_cases (strategy : StrategyId) (es : List Event) (callback : Callback) :
    Delivery d strategy es callback ((deliver strategy es callback).run d) := by
  cases known : d.knows strategy with
  | false =>
    rw [deliver_unknown d known]
    exact .unknown known
  | true =>
    obtain ⟨failure, j, actions, stored, delivered⟩ := deliver_stored (ρ := ρ) (σ := σ) strategy es callback d.journal
    have went := delivered d rfl known
    cases stored with
    | all =>
      rw [Desk.eq_ok_of_left (congrArg Prod.fst went), went]
      refine .told known (quiet_delivery _ _ _ _ (quiet_taken es)) ?_
      rw [events_delivery, events_map_taken]
    | upTo kept rest e cause split =>
      rw [Desk.eq_error_of_left (congrArg Prod.fst went), went]
      cases ordering : d.settings.persistOrdering with
      | callbackFirst => exact .unjournaled split
      | persistFirst => exact .withheld ordering split

/-- Whoever is told of something, the router is asked for nothing, and the journal takes the events in order: all of
them, unless the delivery fails. -/
theorem deliver_quiet (strategy : StrategyId) (es : List Event) (callback : Callback) :
    ∃ e j actions, Desk.left ((deliver strategy es callback).run d) = (e, d.went j d.chain d.metrics actions) ∧
      Quiet actions ∧ events actions <+: es ∧ (e = none → events actions = es) := by
  cases known : d.knows strategy with
  | false =>
    rw [deliver_unknown d known]
    exact ⟨some _, d.journal, [], by rw [Desk.went_nil]; rfl, askOnly_nil, List.nil_prefix, nofun⟩
  | true =>
    obtain ⟨failure, j, actions, stored, delivered⟩ := deliver_stored (ρ := ρ) (σ := σ) strategy es callback d.journal
    refine ⟨failure, j, _, delivered d rfl known, quiet_delivery _ _ _ _ stored.quiet, ?_⟩
    rw [events_delivery]
    exact stored.events_prefix

/-- The journal admits new orders, or the desk counts a refusal. -/
theorem admissionRefusal_cases :
    (d.Admits ∧ admissionRefusal.run d = .ok none d) ∨
      ¬d.Admits ∧ ∃ reason m, admissionRefusal.run d = .ok (some reason) (d.went d.journal d.chain m []) := by
  rw [admissionRefusal, bind_ok (get_run d)]
  simp only [Desk.Admits, Desk.went, List.append_nil]
  cases JournalAccess.canPersist d.journal with
  | false => exact .inr ⟨by simp, _, _, rfl⟩
  | true =>
    cases JournalAccess.canPersistToDatabase d.journal with
    | false => exact .inr ⟨by simp, _, _, rfl⟩
    | true => exact .inl ⟨⟨rfl, rfl⟩, rfl⟩

/-- The same goes for a reject, if nothing but a counter changes afterwards. -/
theorem deliverReject_quiet (o : Order) (r : Reject) (f : DeskOp ω ρ σ α)
    (calm : ∀ d' : Desk ω ρ σ, ∃ m, Desk.left (f.run d') = (none, d'.went d'.journal d'.chain m [])) :
    ∃ e j m actions, Desk.left ((deliverReject o r >>= fun _ => f).run d) = (e, d.went j d.chain m actions) ∧
      Quiet actions ∧ events actions <+: [.orderReject (o.withStatus .rejected d.now) r] ∧
      (e = none → events actions = [.orderReject (o.withStatus .rejected d.now) r]) := by
  have delivered : ∃ e j actions, Desk.left ((deliverReject o r).run d) = (e, d.went j d.chain d.metrics actions) ∧
      Quiet actions ∧ events actions <+: [.orderReject (o.withStatus .rejected d.now) r] ∧
      (e = none → events actions = [.orderReject (o.withStatus .rejected d.now) r]) := by
    rw [deliverReject, bind_ok (get_run d)]
    exact deliver_quiet d _ _ _
  obtain ⟨e, j, actions, left, quiet, first, all⟩ := delivered
  cases result : (deliverReject o r).run d with
  | ok a d' =>
    rw [result] at left
    obtain ⟨rfl, rfl⟩ := Prod.mk.inj left
    obtain ⟨m, afterwards⟩ := calm (d.went j d.chain d.metrics actions)
    rw [bind_ok result, afterwards, Desk.went_went, List.append_nil]
    exact ⟨_, _, _, _, rfl, quiet, first, all⟩
  | error e' d' =>
    rw [result] at left
    obtain ⟨rfl, rfl⟩ := Prod.mk.inj left
    rw [bind_error result]
    refine ⟨_, _, _, _, rfl, quiet, first, fun done => ?_⟩
    cases done

end Journal

/-! ## The router -/

section Router

variable [Router ρ] (d : Desk ω ρ σ)

theorem send_cases [StageKind σ] (o : Order) :
    (∃ r c m, ¬d.chain.Passes o d.now ∧ c.stages = d.chain.checked o d.now ∧
      (send o).run d = .ok (.rejected r) (d.went d.journal c m [])) ∨
      ∃ c, d.chain.Passes o d.now ∧ c.stages = d.chain.checked o d.now ∧ (send o).run d =
        .ok (Router.send o d.now d.chain.router).1 (d.went d.journal c d.metrics [.route (.send o)]) := by
  rw [send, bind_ok (get_run d)]
  simp only [Desk.went, List.append_nil]
  rcases d.chain.send_cases o d.now with ⟨r, c, fails, stages, vetoed⟩ | ⟨c, passes, stages, sent⟩
  · simp only [vetoed]
    exact .inl ⟨r, c, _, fails, stages, rfl⟩
  · simp only [sent]
    exact .inr ⟨c, passes, stages, rfl⟩

theorem cancelAtRouter_eq (orderId : OrderId) : (cancelAtRouter orderId).run d =
    .ok (Router.cancel orderId d.chain.router).1 (d.went d.journal
      { d.chain with router := (Router.cancel orderId d.chain.router).2 } d.metrics [.route (.cancel orderId)]) := rfl

theorem modifyAtRouter_eq (orderId : OrderId) (quantity : Decimal) (limitPrice : Option Decimal) :
    (modifyAtRouter orderId quantity limitPrice).run d =
      .ok (Router.modify orderId quantity limitPrice d.chain.router).1 (d.went d.journal
        { d.chain with router := (Router.modify orderId quantity limitPrice d.chain.router).2 } d.metrics
        [.route (.modify orderId quantity limitPrice)]) := rfl

theorem openAtRouter_eq : (openAtRouter : DeskOp ω ρ σ (List Order)).run d =
    .ok (Router.openOrders d.chain.router).1
      (d.went d.journal { d.chain with router := (Router.openOrders d.chain.router).2 } d.metrics []) := by
  simp only [Desk.went, List.append_nil]
  rfl

end Router

end DeskOp

end Effects

end Blotter
