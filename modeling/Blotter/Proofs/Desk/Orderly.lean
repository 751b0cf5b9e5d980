import Mathlib
import Blotter.Proofs.Desk.Turns

/-!
# The two orders of telling and journaling

What a strategy is told of is journaled, and the settings say which comes first. What difference that makes is said of
operations of a desk, and of an operation that is put together from others it follows from them (`Orderly.bind`).

- What is told and what is journaled follow each other as the settings ask for (`InTurn`), whatever the journal
  refuses.
- Two desks that are the same but for the ordering and for the way in which calls, events and callbacks of their pasts
  are interleaved (`Alike`) come to the same result and stay alike, unless the journal refuses something.
-/

namespace Blotter

open DeskAction DeskOp Desk

variable {ω ρ σ α β : Type}

/-- The events that are journaled when a strategy is told of something. -/
def Callback.events : Callback → List Event
  | .orderAck o | .cancel o => [.order o]
  | .orderReject o r => [.orderReject o r]
  | .fill o f => [.fill f, .order o]
  | .rebuildOrder _ | .rebuildPosition _ => []

namespace DeskAction

/-! ## What comes first -/

/-- Whether callbacks and events follow each other as an ordering asks for: a callback comes right after all of its
events, or each event that is owed to a callback comes after it, with nothing but the events before it in between. -/
def InTurn (ordering : PersistOrdering) (owed : Event → Prop) (actions : List DeskAction) : Prop :=
  match ordering with
  | .persistFirst => ∀ earlier s c later, actions = earlier ++ .tell s c :: later → c.events.map taken <:+ earlier
  | .callbackFirst => ∀ earlier e later, actions = earlier ++ taken e :: later → owed e →
      ∃ s c done rest, c.events = done ++ e :: rest ∧ .tell s c :: done.map taken <:+ earlier

/-- Whether an action neither tells of an event nor journals one that is owed to a callback. -/
def Plain (owed : Event → Prop) : DeskAction → Prop
  | .tell _ c => c.events = []
  | .persist e _ _ => ¬owed e
  | .route _ => True

variable {ordering : PersistOrdering} {owed : Event → Prop} {actions actions' : List DeskAction}

theorem inTurn_of_plain (ordering : PersistOrdering) (plain : ∀ action ∈ actions, action.Plain owed) :
    InTurn ordering owed actions := by
  cases ordering with
  | persistFirst =>
    rintro earlier s c later rfl
    have silent : c.events = [] := plain _ (List.mem_append_right earlier (List.mem_cons_self ..))
    rw [silent]
    exact List.nil_suffix
  | callbackFirst =>
    rintro earlier e later rfl owes
    exact absurd owes (plain _ (List.mem_append_right earlier (List.mem_cons_self ..)))

/-- Two lists, one after the other, are split at an element in the first or in the second. -/
theorem append_eq_append_cons {α : Type} {xs ys before after : List α} {x : α}
    (split : xs ++ ys = before ++ x :: after) :
    (∃ rest, xs = before ++ x :: rest) ∨ ∃ front, before = xs ++ front ∧ ys = front ++ x :: after := by
  rcases List.append_eq_append_iff.mp split with ⟨front, rfl, rfl⟩ | ⟨rest, rfl, same⟩
  · exact .inr ⟨front, rfl, rfl⟩
  · cases rest with
    | nil => exact .inr ⟨[], by simp, by simpa using same.symm⟩
    | cons y rest =>
      obtain ⟨rfl, -⟩ := List.cons.inj same
      exact .inl ⟨rest, rfl⟩

theorem InTurn.append (h : InTurn ordering owed actions) (h' : InTurn ordering owed actions') :
    InTurn ordering owed (actions ++ actions') := by
  cases ordering with
  | persistFirst =>
    intro earlier s c later split
    rcases append_eq_append_cons split with ⟨rest, first⟩ | ⟨front, rfl, second⟩
    · exact h earlier s c rest first
    · exact (h' front s c later second).trans (List.suffix_append _ _)
  | callbackFirst =>
    intro earlier e later split owes
    rcases append_eq_append_cons split with ⟨rest, first⟩ | ⟨front, rfl, second⟩
    · exact h earlier e rest first owes
    · obtain ⟨s, c, done, rest, events, told⟩ := h' front e later second owes
      exact ⟨s, c, done, rest, events, told.trans (List.suffix_append _ _)⟩

/-! ## What is apart from the order -/

/-- What is asked of the router with an action. -/
def call? : DeskAction → Option RouterCall
  | .route call => some call
  | .persist _ _ _ | .tell _ _ => none

/-- Who is told what with an action. -/
def callback? : DeskAction → Option (StrategyId × Callback)
  | .tell s c => some (s, c)
  | .persist _ _ _ | .route _ => none

/-- Everything that is asked of the router. -/
def routerCalls (actions : List DeskAction) : List RouterCall := actions.filterMap call?

@[simp]
theorem routerCalls_append (actions actions' : List DeskAction) :
    routerCalls (actions ++ actions') = routerCalls actions ++ routerCalls actions' := List.filterMap_append

/-- Everything that strategies are told. -/
def callbacks (actions : List DeskAction) : List (StrategyId × Callback) := actions.filterMap callback?

/-- Whether actions are the same if calls, events and callbacks are looked at one by one. -/
structure Matches (actions actions' : List DeskAction) : Prop where
  routerCalls : routerCalls actions' = routerCalls actions
  events : events actions' = events actions
  callbacks : callbacks actions' = callbacks actions

theorem Matches.refl (actions : List DeskAction) : Matches actions actions := ⟨rfl, rfl, rfl⟩

theorem Matches.append {old old' : List DeskAction} (h : Matches old old') (h' : Matches actions actions') :
    Matches (old ++ actions) (old' ++ actions') := by
  refine ⟨?_, ?_, ?_⟩
  · simp only [routerCalls_append]
    exact congrArg₂ _ h.routerCalls h'.routerCalls
  · simp only [events_append]
    exact congrArg₂ _ h.events h'.events
  · simp only [DeskAction.callbacks, List.filterMap_append]
    exact congrArg₂ _ h.callbacks h'.callbacks

/-! ## Deliveries -/

section Deliveries

variable {s : StrategyId} {c : Callback} {es : List Event} {failure : Option (Failure DeskError)}

/-- An event that is taken is one of those that are journaled, and those before it were taken before. -/
theorem Stored.split {p later : List DeskAction} {e : Event} (h : Stored es failure (p ++ taken e :: later)) :
    ∃ done rest, es = done ++ e :: rest ∧ p = done.map taken := by
  have of_map {kept : List Event} {rest : List DeskAction} (same : kept.map taken = p ++ taken e :: rest) :
      ∃ done rest, kept = done ++ e :: rest ∧ p = done.map taken := by
    obtain ⟨done, next, rfl, rfl, tail⟩ := List.map_eq_append_iff.mp same
    obtain ⟨e', rest, rfl, he, -⟩ := List.map_eq_cons_iff.mp tail
    cases he
    exact ⟨done, rest, rfl, rfl⟩
  generalize all : p ++ taken e :: later = actions at h
  cases h with
  | all => exact of_map all.symm
  | upTo kept after e' cause split =>
    rcases append_eq_append_cons all.symm with ⟨rest, same⟩ | ⟨front, -, same⟩
    · obtain ⟨done, rest, rfl, rfl⟩ := of_map same
      exact ⟨done, rest ++ e' :: after, by rw [split]; simp, rfl⟩
    · -- the refusal at the end is not an event that is taken
      have last : taken e ∈ [refused e'] := by
        rw [same]
        exact List.mem_append_right _ (List.mem_cons_self ..)
      cases List.mem_singleton.mp last

theorem Stored.tell_not_mem (h : Stored es failure actions) : .tell s c ∉ actions := by
  cases h with
  | all => simp [taken]
  | upTo kept rest e cause split => simp [taken, refused]

theorem Stored.of_unrefused (h : Stored es failure actions) (unrefused : Unrefused actions) :
    failure = none ∧ actions = es.map taken := by
  cases h with
  | all => exact ⟨rfl, rfl⟩
  | upTo kept rest e cause split =>
    exact absurd (List.mem_append_right _ (List.mem_singleton_self _)) (unrefused.refused_not_mem e)

/-- What is told and what is journaled follow each other as the ordering asks for. -/
theorem inTurn_delivery (ordering : PersistOrdering) (s : StrategyId) (stored : Stored c.events failure actions) :
    InTurn ordering owed (delivery ordering s c failure actions) := by
  cases ordering with
  | callbackFirst =>
    intro earlier e later split _
    cases earlier with
    | nil => cases split
    | cons first p =>
      obtain ⟨rfl, rfl⟩ := List.cons.inj split
      obtain ⟨done, rest, events, rfl⟩ := stored.split
      exact ⟨s, c, done, rest, events, List.suffix_rfl⟩
  | persistFirst =>
    intro earlier s' c' later split
    cases failure with
    | none =>
      rcases concat_eq_append_cons.mp split with ⟨rfl, same, -⟩ | ⟨rest, -, rfl⟩
      · cases same
        cases stored
        exact List.suffix_rfl
      · exact absurd (List.mem_append_right _ (List.mem_cons_self ..)) stored.tell_not_mem
    | some failure =>
      rw [delivery] at split
      subst split
      exact absurd (List.mem_append_right _ (List.mem_cons_self ..)) stored.tell_not_mem

/-- Without a refusal, nothing is asked of the router in a delivery, and the events are journaled and the strategy is
told in either ordering. -/
theorem delivery_parts (ordering : PersistOrdering) (s : StrategyId) (c : Callback) (es : List Event) :
    routerCalls (delivery ordering s c none (es.map taken)) = [] ∧
      events (delivery ordering s c none (es.map taken)) = es ∧
      callbacks (delivery ordering s c none (es.map taken)) = [(s, c)] := by
  have quiet : routerCalls (es.map taken) = [] := by simp [routerCalls, call?, taken]
  have untold : callbacks (es.map taken) = [] := by simp [callbacks, callback?, taken]
  cases ordering with
  | callbackFirst => exact ⟨quiet, events_map_taken es, congrArg (List.cons (s, c)) untold⟩
  | persistFirst =>
    rw [routerCalls] at quiet
    rw [callbacks] at untold
    refine ⟨?_, ?_, ?_⟩
    · rw [delivery, routerCalls, List.filterMap_append, quiet]
      rfl
    · rw [delivery, events_append, events_map_taken]
      exact List.append_nil es
    · rw [delivery, callbacks, List.filterMap_append, untold]
      rfl

theorem matches_delivery (ordering ordering' : PersistOrdering) (s : StrategyId) (c : Callback) (es : List Event) :
    Matches (delivery ordering s c none (es.map taken)) (delivery ordering' s c none (es.map taken)) := by
  obtain ⟨calls, events, callbacks⟩ := delivery_parts ordering s c es
  obtain ⟨calls', events', callbacks'⟩ := delivery_parts ordering' s c es
  exact ⟨calls'.trans calls.symm, events'.trans events.symm, callbacks'.trans callbacks.symm⟩

theorem unrefused_of_delivery (unrefused : Unrefused (delivery ordering s c failure actions)) : Unrefused actions := by
  cases ordering with
  | callbackFirst => exact fun action done => unrefused action (List.mem_cons_of_mem _ done)
  | persistFirst =>
    cases failure with
    | none => exact unrefused.of_append.1
    | some failure => exact unrefused

end Deliveries

end DeskAction

namespace Desk

/-- The desk without what it has done and without the ordering that its settings ask for. -/
def erased (d : Desk ω ρ σ) : Desk ω ρ σ :=
  { d with settings := { d.settings with persistOrdering := .callbackFirst }, trace := [] }

/-- Whether two desks are the same but for the ordering and for the order of what they have done. -/
structure Alike (d d' : Desk ω ρ σ) : Prop where
  erased : d'.erased = d.erased
  trace : Matches d.trace d'.trace

namespace Alike

variable {d d' : Desk ω ρ σ}

theorem knows (h : Alike d d') (s : StrategyId) : d'.knows s = d.knows s := by
  have strategies : d'.erased.strategies = d.erased.strategies := by rw [h.erased]
  exact congrArg (·.contains s) strategies

theorem journal (h : Alike d d') : d'.journal = d.journal := by
  have journal : d'.erased.journal = d.erased.journal := by rw [h.erased]
  exact journal

theorem went (h : Alike d d') (j : ω) {actions actions' : List DeskAction} (same : Matches actions actions') :
    Alike (d.went j d.chain d.metrics actions) (d'.went j d'.chain d'.metrics actions') := by
  refine ⟨?_, h.trace.append same⟩
  have erased : ({ d'.erased with journal := j } : Desk ω ρ σ) = { d.erased with journal := j } := by rw [h.erased]
  exact erased

end Alike

/-- Whether two desks have come to the same result and are alike. -/
inductive Agree : EStateM.Result (Failure DeskError) (Desk ω ρ σ) α →
    EStateM.Result (Failure DeskError) (Desk ω ρ σ) α → Prop
  | ok {a : α} {d d' : Desk ω ρ σ} : Alike d d' → Agree (.ok a d) (.ok a d')
  | error {e : Failure DeskError} {d d' : Desk ω ρ σ} : Alike d d' → Agree (.error e d) (.error e d')

end Desk

namespace DeskOp

/-- Whether a desk goes over into another one by actions that keep to its ordering. -/
structure Acts (owed : Event → Prop) (d d' : Desk ω ρ σ) (actions : List DeskAction) : Prop where
  settings : d'.settings = d.settings
  trace : d'.trace = d.trace ++ actions
  inTurn : InTurn d.settings.persistOrdering owed actions

theorem Acts.trans {owed : Event → Prop} {d d' d'' : Desk ω ρ σ} {actions actions' : List DeskAction}
    (h : Acts owed d d' actions) (h' : Acts owed d' d'' actions') : Acts owed d d'' (actions ++ actions') where
  settings := h'.settings.trans h.settings
  trace := by rw [h'.trace, h.trace, List.append_assoc]
  inTurn := h.inTurn.append (h.settings ▸ h'.inTurn)

/-- Whether the ordering makes no difference to an operation but the one that it is meant to make. -/
structure Orderly (owed : Event → Prop) (x : DeskOp ω ρ σ α) : Prop where
  acts : ∀ d, ∃ actions, Acts owed d (left (x.run d)).2 actions
  agree : ∀ d d' actions, Alike d d' → (left (x.run d)).2.trace = d.trace ++ actions → Unrefused actions →
    Agree (x.run d) (x.run d')

variable {owed : Event → Prop} {x : DeskOp ω ρ σ α} {f : α → DeskOp ω ρ σ β}

namespace Orderly

/-- An operation that changes a desk without a look at its past and at the ordering, and does only plain things. -/
theorem step (result : Desk ω ρ σ → Except (Failure DeskError) α) (change : Desk ω ρ σ → Desk ω ρ σ)
    (actions : Desk ω ρ σ → List DeskAction)
    (run : ∀ d, x.run d =
      let d' := { change d.erased with settings := d.settings, trace := d.trace ++ actions d.erased }
      match result d.erased with
      | .ok a => .ok a d'
      | .error e => .error e d')
    (plain : ∀ d, ∀ action ∈ actions d, action.Plain owed) : Orderly owed x := by
  let after (d : Desk ω ρ σ) : Desk ω ρ σ :=
    { change d.erased with settings := d.settings, trace := d.trace ++ actions d.erased }
  have left_eq (d : Desk ω ρ σ) : (left (x.run d)).2 = after d := by
    rw [run]
    cases result d.erased <;> rfl
  refine ⟨fun d => ⟨actions d.erased, ?_⟩, fun d d' _ alike _ _ => ?_⟩
  · rw [left_eq]
    exact ⟨rfl, rfl, inTurn_of_plain _ (plain _)⟩
  · have alike' : Alike (after d) (after d') := by
      have settings : d'.erased.settings = d.erased.settings := by rw [alike.erased]
      simp only [Desk.erased] at settings
      simp only [after, alike.erased]
      refine ⟨?_, alike.trace.append (.refl _)⟩
      simp only [Desk.erased, settings]
    rw [run, run, alike.erased]
    simp only [after, alike.erased] at alike'
    cases result d.erased with
    | ok a => exact .ok alike'
    | error e => exact .error alike'

/-- An operation that changes a desk without a look at its past and at the ordering, and does nothing to the world. -/
theorem silent (result : Desk ω ρ σ → Except (Failure DeskError) α) (change : Desk ω ρ σ → Desk ω ρ σ)
    (run : ∀ d, x.run d =
      let d' := { change d.erased with settings := d.settings, trace := d.trace }
      match result d.erased with
      | .ok a => .ok a d'
      | .error e => .error e d') : Orderly owed x := by
  refine step result change (fun _ => []) (fun d => ?_) fun _ => List.forall_mem_nil _
  simp only [List.append_nil]
  exact run d

theorem pure (a : α) : Orderly owed (Pure.pure a : DeskOp ω ρ σ α) := silent (fun _ => .ok a) id fun _ => rfl

theorem throw (e : Failure DeskError) : Orderly owed (throw e : DeskOp ω ρ σ α) :=
  silent (fun _ => .error e) id fun _ => rfl

/-- One operation after the other. -/
theorem bind (first : Orderly owed x) (next : ∀ a, Orderly owed (f a)) : Orderly owed (x >>= f) := by
  refine ⟨fun d => ?_, fun d d' all alike trace unrefused => ?_⟩
  · obtain ⟨actions, acts⟩ := first.acts d
    cases result : x.run d with
    | ok a e =>
      rw [result] at acts
      obtain ⟨actions', acts'⟩ := (next a).acts e
      rw [bind_ok result]
      exact ⟨actions ++ actions', Acts.trans acts acts'⟩
    | error failure e =>
      rw [result] at acts
      rw [bind_error result]
      exact ⟨actions, acts⟩
  · obtain ⟨actions, acts⟩ := first.acts d
    have agree := first.agree d d' actions alike acts.trace
    cases result : x.run d with
    | ok a e =>
      rw [result] at acts agree
      rw [bind_ok result] at trace ⊢
      obtain ⟨actions', acts'⟩ := (next a).acts e
      -- what the whole does is what its two parts do
      obtain rfl : all = actions ++ actions' := List.append_cancel_left (trace.symm.trans (Acts.trans acts acts').trace)
      have agreed := agree unrefused.of_append.1
      cases result' : x.run d' with
      | ok a' e' =>
        rw [result'] at agreed
        obtain ⟨alike⟩ := agreed
        rw [bind_ok result']
        exact (next a).agree e e' actions' alike acts'.trace unrefused.of_append.2
      | error _ _ =>
        rw [result'] at agreed
        cases agreed
    | error failure e =>
      rw [result] at acts agree
      rw [bind_error result] at trace ⊢
      obtain rfl : all = actions := List.append_cancel_left (trace.symm.trans acts.trace)
      have agreed := agree unrefused
      cases result' : x.run d' with
      | ok _ _ =>
        rw [result'] at agreed
        cases agreed
      | error failure' e' =>
        rw [result'] at agreed
        rw [bind_error result']
        cases agreed with
        | error alike => exact .error alike

/-- An operation that looks at a desk, but neither at its past nor at the ordering. -/
theorem read {f : Desk ω ρ σ → DeskOp ω ρ σ α} (same : ∀ d, f d = f d.erased) (next : ∀ d, Orderly owed (f d)) :
    Orderly owed (get >>= f) := by
  have run (d : Desk ω ρ σ) : (get >>= f).run d = (f d).run d := bind_ok (get_run d)
  refine ⟨fun d => ?_, fun d d' actions alike trace unrefused => ?_⟩
  · rw [run]
    exact (next d).acts d
  · rw [run] at trace ⊢
    rw [run, same d', alike.erased, ← same d]
    exact (next d).agree d d' actions alike trace unrefused

end Orderly

/-! ## Journaling -/

section Journal

variable [JournalAccess ω]

namespace Orderly

theorem tryPersist {e : Event} (unowed : ¬owed e) :
    Orderly owed (DeskOp.tryPersist e : DeskOp ω ρ σ (Except JournalError Nat)) := by
  let stored (d : Desk ω ρ σ) := JournalAccess.persist e (e.kind != .command) d.journal
  refine step (fun d => .ok (stored d).1) (fun d => { d with journal := (stored d).2 })
    (fun d => [.persist e (e.kind != .command) (stored d).1.toOption.isSome]) (fun _ => rfl) fun d action done => ?_
  rw [List.mem_singleton.mp done]
  exact unowed

/-- A delivery is the one thing in which the ordering makes a difference. -/
theorem deliver (s : StrategyId) (c : Callback) :
    Orderly owed (DeskOp.deliver s c.events c : DeskOp ω ρ σ Unit) := by
  refine ⟨fun d => ?_, fun d d' all alike trace unrefused => ?_⟩
  · cases known : d.knows s with
    | false =>
      rw [deliver_unknown d known]
      exact ⟨[], rfl, (List.append_nil _).symm, inTurn_of_plain _ (List.forall_mem_nil _)⟩
    | true =>
      obtain ⟨failure, j', actions, stored, delivered⟩ := deliver_stored (ρ := ρ) (σ := σ) s c.events c d.journal
      rw [delivered d rfl known]
      exact ⟨_, rfl, rfl, inTurn_delivery _ s stored⟩
  · have known' : d'.knows s = d.knows s := alike.knows s
    cases known : d.knows s with
    | false =>
      rw [deliver_unknown d known, deliver_unknown d' (known'.trans known)]
      exact .error alike
    | true =>
      obtain ⟨failure, j', actions, stored, delivered⟩ := deliver_stored (ρ := ρ) (σ := σ) s c.events c d.journal
      have done := delivered d rfl known
      have done' := delivered d' alike.journal (known'.trans known)
      rw [done] at trace
      obtain rfl := List.append_cancel_left trace
      obtain ⟨rfl, rfl⟩ := stored.of_unrefused (unrefused_of_delivery unrefused)
      rw [eq_ok_of_left (congrArg Prod.fst done), eq_ok_of_left (congrArg Prod.fst done'), done, done']
      exact .ok (alike.went j' (matches_delivery ..))

end Orderly

end Journal

end DeskOp

end Blotter
