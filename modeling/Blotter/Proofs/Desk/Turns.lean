import Mathlib
import Blotter.Proofs.Desk.Gating

/-!
# Orders that stand

What a run does to the tracked orders and to the journal is what its moves do, one after the other.

- Whatever a run has done, one of its moves has done (`Desk.mem_trace_moves`).
- On a journal that has refused nothing, what a move makes of the tracked orders and which events it journals is said
  once (`Turn`, `Desk.turn`).
- So an order is tracked if a move has opened it and no later one has closed it (`Desk.tracked_iff_standing`).
-/

namespace Blotter

open DeskAction DeskOp

variable {ω ρ σ : Type}

namespace DeskAction

/-- Whether the journal does not take an event. -/
def isRefusal : DeskAction → Bool
  | .persist _ _ taken => !taken
  | .tell _ _ | .route _ => false

/-- Whether the journal takes every event. -/
def Unrefused (actions : List DeskAction) : Prop := ∀ action ∈ actions, action.isRefusal = false

instance (actions : List DeskAction) : Decidable (Unrefused actions) :=
  inferInstanceAs (Decidable (∀ action ∈ actions, action.isRefusal = false))

theorem Unrefused.of_append {actions actions' : List DeskAction} (h : Unrefused (actions ++ actions')) :
    Unrefused actions ∧ Unrefused actions' :=
  ⟨fun action old => h action (List.mem_append_left _ old), fun action new => h action (List.mem_append_right _ new)⟩

theorem Unrefused.refused_not_mem {actions : List DeskAction} (h : Unrefused actions) (e : Event) :
    refused e ∉ actions := by
  intro member
  cases h _ member

end DeskAction

namespace Desk

variable [JournalAccess ω] [Router ρ] [StageKind σ] {d d' : Desk ω ρ σ} {m : Move ω ρ} {ms : List (Move ω ρ)}

/-! ## What a move adds -/

/-- What a move adds to the trace. -/
def actions (d : Desk ω ρ σ) (m : Move ω ρ) : List DeskAction := (d.move m).trace.drop d.trace.length

theorem actions_eq {actions : List DeskAction} (trace : (d.move m).trace = d.trace ++ actions) :
    d.actions m = actions := by
  unfold Desk.actions
  rw [trace, List.drop_left]

theorem trace_move (d : Desk ω ρ σ) (m : Move ω ρ) : (d.move m).trace = d.trace ++ d.actions m := by
  obtain ⟨actions, trace, -⟩ := (moved d m).permitted
  rw [actions_eq trace, trace]

theorem allPermitted_actions (keyed : Keyed d.tracked) (m : Move ω ρ) : AllPermitted d m (d.actions m) := by
  obtain ⟨actions, trace, permitted⟩ := (moved d m).permitted
  rw [actions_eq trace]
  exact permitted keyed

theorem journaled_move (d : Desk ω ρ σ) (m : Move ω ρ) :
    (d.move m).journaled = d.journaled ++ events (d.actions m) := by
  unfold journaled
  rw [trace_move, List.filterMap_append]
  rfl

/-- What is in the trace after moves was there before, or one of the moves has added it. -/
theorem mem_trace_moves {action : DeskAction} : action ∈ (d.moves ms).trace ↔
    action ∈ d.trace ∨ ∃ before m after, ms = before ++ m :: after ∧ action ∈ (d.moves before).actions m := by
  induction ms using List.reverseRecOn with
  | nil =>
    constructor
    · exact .inl
    · rintro (old | ⟨before, m, after, split, -⟩)
      · exact old
      · simp at split
  | append_singleton ms m ih =>
    rw [moves_concat, trace_move, List.mem_append, ih]
    constructor
    · rintro ((old | ⟨before, m', after, rfl, new⟩) | new)
      · exact .inl old
      · exact .inr ⟨before, m', after ++ [m], by simp, new⟩
      · exact .inr ⟨ms, m, [], rfl, new⟩
    · rintro (old | ⟨before, m', after, split, new⟩)
      · exact .inl (.inl old)
      · rcases concat_eq_append_cons.mp split with ⟨rfl, rfl, -⟩ | ⟨rest, -, rfl⟩
        · exact .inr new
        · exact .inl (.inr ⟨before, m', rest, rfl, new⟩)

theorem unrefused_of_move (h : Unrefused (d.move m).trace) : Unrefused d.trace ∧ Unrefused (d.actions m) := by
  rw [trace_move] at h
  exact h.of_append

theorem unrefused_of_moves (ms : List (Move ω ρ)) (h : Unrefused (d.moves ms).trace) : Unrefused d.trace := by
  induction ms using List.reverseRecOn with
  | nil => exact h
  | append_singleton ms m ih =>
    rw [moves_concat] at h
    exact ih (unrefused_of_move h).1

/-! ## Moves that open and close orders -/

/-- Whether a move opens an order: the router accepts it, the exchange acknowledges it, or a start recovers it. -/
def Opens (k : OrderId) (d : Desk ω ρ σ) : Move ω ρ → Prop
  | .ask (.send o) => (Request.send o).Granted d ∧ ∃ sent, (Request.send o).accepted? d = some sent ∧ sent.orderId = k
  | .report (.ack o) => o.orderId = k
  | .start reader => d.Starts (.start reader) ∧
      ∃ orders, reader.openOrders d.account = .ok orders ∧ k ∈ orders.map (·.orderId)
  | .register _ | .world _ _ _ | .ask (.modify _ _ _) | .ask (.cancel _) | .report (.reject _ _)
  | .report (.canceled _) | .report (.fill _) | .stop => False

/-- Whether a move closes an order: the exchange rejects it, cancels it, or fills what was left of it. -/
def Closes (k : OrderId) (d : Desk ω ρ σ) : Move ω ρ → Prop
  | .report (.reject o _) => o.orderId = k
  | .report (.canceled o) => o.orderId = k
  | .report (.fill f) => f.orderId = k ∧ ∃ o o', d.tracked.find? k = some o ∧
      o.applyFill f.quantity f.price d.now = .ok o' ∧ o'.isOpen = false
  | .register _ | .world _ _ _ | .start _ | .ask _ | .report (.ack _) | .stop => False

/-- Whether a move of a run does something that no later move undoes. -/
def Since (does undoes : Desk ω ρ σ → Move ω ρ → Prop) (d : Desk ω ρ σ) (ms : List (Move ω ρ)) : Prop :=
  ∃ earlier m later, ms = earlier ++ m :: later ∧ does (d.moves earlier) m ∧
    ∀ between m' rest, later = between ++ m' :: rest → ¬undoes (d.moves (earlier ++ m :: between)) m'

theorem not_since_nil {does undoes : Desk ω ρ σ → Move ω ρ → Prop} : ¬Since does undoes d [] := by
  rintro ⟨earlier, m, later, split, -⟩
  simp at split

/-- A last move does it, or it was done before and the last move does not undo it. -/
theorem since_concat {does undoes : Desk ω ρ σ → Move ω ρ → Prop} (ms : List (Move ω ρ)) (m : Move ω ρ) :
    Since does undoes d (ms ++ [m]) ↔
      does (d.moves ms) m ∨ Since does undoes d ms ∧ ¬undoes (d.moves ms) m := by
  constructor
  · rintro ⟨earlier, m', later, split, done, kept⟩
    rcases concat_eq_append_cons.mp split with ⟨rfl, rfl, -⟩ | ⟨rest, rfl, rfl⟩
    · exact .inl done
    · refine .inr ⟨⟨earlier, m', rest, rfl, done, ?_⟩, kept rest m [] rfl⟩
      rintro between m'' after rfl
      exact kept between m'' (after ++ [m]) (by simp)
  · rintro (done | ⟨⟨earlier, m', later, rfl, done, kept⟩, still⟩)
    · refine ⟨ms, m, [], rfl, done, ?_⟩
      intro between m' rest split
      simp at split
    · refine ⟨earlier, m', later ++ [m], by simp, done, ?_⟩
      intro between m'' rest split
      rcases concat_eq_append_cons.mp split with ⟨rfl, rfl, -⟩ | ⟨after, -, rfl⟩
      · exact still
      · exact kept between m'' after rfl

/-- Whether a move of a run has opened an order and no later one has closed it. -/
def Standing (k : OrderId) (d : Desk ω ρ σ) (ms : List (Move ω ρ)) : Prop := Since (Opens k) (Closes k) d ms

end Desk

open Desk

/-! ## One move -/

section Turns

variable [JournalAccess ω] [Router ρ] [StageKind σ]

/-- What a move makes of the tracked orders, and the events that it journals, if the journal refuses nothing. -/
inductive Turn (d : Desk ω ρ σ) : Move ω ρ → Table OrderId Order → List Event → Prop
  /-- Neither a request nor a report nor a start that succeeds: nothing is journaled but the cancels of a stop. -/
  | idle {m : Move ω ρ} {es : List Event} : (∀ q, m ≠ .ask q) → (∀ report, m ≠ .report report) → ¬d.Starts m →
      (∀ e ∈ es, ∃ command, e = .command command) → Turn d m d.tracked es
  /-- The open orders are recovered. -/
  | started {reader : RecoveryReader} {orders : List Order} : d.Starts (.start reader) →
      reader.openOrders d.account = .ok orders → Turn d (.start reader) (trackAll d.tracked orders) []
  /-- A request is not granted, or the router does not accept it. -/
  | declined {q : Request} {es : List Event} : ¬(q.Granted d ∧ (q.accepted? d).isSome) → (∀ e ∈ es, q.Aside d e) →
      Turn d (.ask q) d.tracked es
  /-- The router accepts a request. -/
  | accepted {q : Request} {command : Command} {o : Order} : q.Granted d → q.accepted? d = some o →
      Turn d (.ask q) (d.tracked.insert o.orderId o) [.command command, .order o]
  /-- A fill is of an order that is not tracked, or it cannot be calculated. -/
  | ignored {report : ExecutionReport} {e : Failure DeskError} : d.dispatch report = .error e →
      Turn d (.report report) d.tracked []
  /-- A report is carried out; it is journaled unless it names a strategy that is not known. -/
  | reported {report : ExecutionReport} {x : Dispatch} : d.dispatch report = .ok x →
      Turn d (.report report) x.tracked (if d.knows x.strategy then x.events else [])

variable {d d' : Desk ω ρ σ} {m : Move ω ρ} {actions : List DeskAction}

omit [JournalAccess ω] [StageKind σ] in
/-- What the router accepts that is not a new order is a tracked order, which stays open if it is. -/
theorem Request.tracked_of_accepted {q : Request} {o : Order} (accepted : q.accepted? d = some o)
    (unsent : ∀ sent, q ≠ .send sent) : ∃ k o' command, d.tracked.find? k = some o' ∧ o.orderId = o'.orderId ∧
      (o'.isOpen = true → o.isOpen = true) ∧ q.command? d = some command := by
  cases q with
  | send sent => exact absurd rfl (unsent sent)
  | modify orderId quantity limitPrice =>
    rw [Request.accepted?] at accepted
    split at accepted
    · obtain ⟨o', found, rfl⟩ := Option.map_eq_some_iff.mp accepted
      exact ⟨orderId, o', _, found, rfl, id, Option.map_eq_some_iff.mpr ⟨o', found, rfl⟩⟩
    · cases accepted
  | cancel orderId =>
    rw [Request.accepted?] at accepted
    split at accepted
    · obtain ⟨o', found, rfl⟩ := Option.map_eq_some_iff.mp accepted
      exact ⟨orderId, o', _, found, rfl, fun _ => rfl, Option.map_eq_some_iff.mpr ⟨o', found, rfl⟩⟩
    · cases accepted

omit [JournalAccess ω] [StageKind σ] in
/-- A request that the router would accept is one that can be journaled. -/
theorem Request.exists_command {q : Request} {o : Order} (accepted : q.accepted? d = some o) :
    ∃ command, q.command? d = some command := by
  by_cases new : ∃ sent, q = .send sent
  · obtain ⟨sent, rfl⟩ := new
    exact ⟨_, rfl⟩
  · obtain ⟨k, o', command, -, -, -, commanded⟩ :=
      Request.tracked_of_accepted accepted fun sent same => new ⟨sent, same⟩
    exact ⟨command, commanded⟩

theorem turn_ask {q : Request} (move : (d.ask q).2 = d') (trace : d'.trace = d.trace ++ actions)
    (unrefused : Unrefused actions) : Turn d (.ask q) d'.tracked (events actions) := by
  have way := d.ask_cases q
  generalize d.ask q = result at way move
  cases way with
  | held _ fruitless unheard =>
    obtain rfl := move
    obtain rfl := List.append_cancel_left trace
    refine .declined ?_ fruitless.aside
    rintro ⟨granted, accepted⟩
    -- what is granted and would be accepted is held only where the journal refuses the command
    obtain ⟨o, accepted⟩ := Option.isSome_iff_exists.mp accepted
    obtain ⟨command, commanded⟩ := Request.exists_command accepted
    exact unrefused.refused_not_mem _ (unheard granted command commanded).1
  | @declined command _ _ _ _ _ granted commanded declined _ fruitless =>
    obtain rfl := move
    obtain rfl := List.append_cancel_left trace
    refine .declined ?_ (fruitless.commanded command).aside
    rintro ⟨-, accepted⟩
    rw [declined] at accepted
    cases accepted
  | settled granted _ accepted =>
    obtain rfl := move
    obtain rfl := List.append_cancel_left trace
    exact .accepted granted accepted
  | @lost command o _ _ _ _ _ _ _ =>
    obtain rfl := move
    obtain rfl := List.append_cancel_left trace
    exact (unrefused.refused_not_mem (.order o) (by simp)).elim

theorem turn_report {report : ExecutionReport} (move : (left ((onReport report).run d)).2 = d')
    (trace : d'.trace = d.trace ++ actions) (unrefused : Unrefused actions) :
    Turn d (.report report) d'.tracked (events actions) := by
  rw [onReport_run] at move
  cases dispatched : d.dispatch report with
  | error e =>
    rw [dispatched] at move
    obtain rfl := move
    obtain rfl := List.append_cancel_left (trace.symm.trans (List.append_nil _).symm)
    exact .ignored dispatched
  | ok x =>
    simp only [dispatched] at move
    have turn : Turn d (.report report) x.tracked (if d.knows x.strategy then x.events else []) := .reported dispatched
    have way := deliver_cases { d with tracked := x.tracked } x.strategy x.events x.callback
    generalize (deliver x.strategy x.events x.callback).run { d with tracked := x.tracked } = result at way move
    cases way with
    | unknown unknown =>
      have unknown : d.knows x.strategy = false := unknown
      obtain rfl := move
      obtain rfl := List.append_cancel_left (trace.symm.trans (List.append_nil _).symm)
      rwa [if_neg (ne_true_of_eq_false unknown)] at turn
    | told known _ all =>
      have known : d.knows x.strategy = true := known
      obtain rfl := move
      obtain rfl := List.append_cancel_left trace
      rw [all]
      rwa [if_pos known] at turn
    | @unjournaled _ _ e =>
      obtain rfl := move
      obtain rfl := List.append_cancel_left trace
      exact (unrefused.refused_not_mem e (by simp)).elim
    | @withheld _ _ e =>
      obtain rfl := move
      obtain rfl := List.append_cancel_left trace
      exact (unrefused.refused_not_mem e (by simp)).elim

theorem turn_start {reader : RecoveryReader} (move : d.move (.start reader) = d')
    (trace : d'.trace = d.trace ++ actions) : Turn d (.start reader) d'.tracked (events actions) := by
  rw [Desk.move] at move
  rcases d.start_cases reader with ⟨e, failed⟩ | ⟨report, orders, c, started', read, started, -, nothing, -⟩
  · rw [failed] at move
    obtain rfl := move
    obtain rfl := List.append_cancel_left (trace.symm.trans (List.append_nil _).symm)
    refine .idle (by simp) (by simp) ?_ (by simp)
    rintro ⟨reader', report, d', same, started⟩
    cases same
    cases failed.symm.trans started
  · rw [started] at move
    obtain rfl := move
    obtain rfl := List.append_cancel_left trace
    rw [nothing]
    exact .started ⟨reader, report, _, rfl, started⟩ read

omit [StageKind σ] in
theorem Desk.not_starts (other : ∀ reader, m ≠ .start reader) : ¬d.Starts m := by
  rintro ⟨reader, report, d', same, -⟩
  exact other reader same

/-- What a move that the journal does not stand in the way of makes of a desk. -/
theorem Desk.turn (d : Desk ω ρ σ) (m : Move ω ρ) (unrefused : Unrefused (d.actions m)) :
    Turn d m (d.move m).tracked (events (d.actions m)) := by
  have trace := d.trace_move m
  cases m with
  | register strategy =>
    have still : (d.register strategy).tracked = d.tracked ∧ (d.register strategy).trace = d.trace := by
      unfold Desk.register
      split
      · exact ⟨rfl, rfl⟩
      · exact ⟨rfl, rfl⟩
    have nothing : d.actions (.register strategy) = [] := actions_eq (still.2.trans (List.append_nil _).symm)
    rw [nothing, Desk.move, still.1]
    exact .idle (by simp) (by simp) (not_starts (by simp)) (by simp)
  | world now journal router =>
    have nothing : d.actions (.world now journal router) = [] := actions_eq (List.append_nil _).symm
    rw [nothing]
    exact .idle (by simp) (by simp) (not_starts (by simp)) (by simp)
  | start reader => exact turn_start rfl trace
  | ask q => exact turn_ask rfl trace unrefused
  | report report => exact turn_report rfl trace unrefused
  | stop =>
    obtain ⟨report, j, c, actions, stopped, drains⟩ := d.stop_run
    have after : d.move .stop = { d with ready := false }.went j c d.metrics actions := by
      rw [Desk.move, stopped]
      rfl
    have added : d.actions .stop = actions := actions_eq (by rw [after]; rfl)
    rw [added, after]
    exact .idle (by simp) (by simp) (not_starts (by simp)) drains.commands

/-! ## What is tracked -/

theorem isSome_find?_trackAll (tracked : Table OrderId Order) (orders : List Order) (k : OrderId) :
    ((trackAll tracked orders).find? k).isSome ↔ k ∈ orders.map (·.orderId) ∨ (tracked.find? k).isSome := by
  induction orders generalizing tracked with
  | nil => simp [trackAll]
  | cons o orders ih =>
    have rest : trackAll tracked (o :: orders) = trackAll (tracked.insert o.orderId o) orders := rfl
    rw [rest, ih, Table.isSome_find?_insert, List.map_cons, List.mem_cons]
    constructor
    · rintro (later | rfl | old)
      · exact .inl (.inr later)
      · exact .inl (.inl rfl)
      · exact .inr old
    · rintro ((rfl | later) | old)
      · exact .inr (.inl rfl)
      · exact .inl later
      · exact .inr (.inr old)

omit [JournalAccess ω] [Router ρ] [StageKind σ] in
/-- A fill that is dispatched is of a tracked order, and closes it if nothing is left. -/
theorem dispatch_fill {f : Fill} {x : Dispatch} (dispatched : d.dispatch (.fill f) = .ok x) :
    ∃ o o', d.tracked.find? f.orderId = some o ∧ o.applyFill f.quantity f.price d.now = .ok o' ∧
      x = ⟨if o'.isOpen then d.tracked.insert o'.orderId o' else d.tracked.erase o'.orderId, f.strategy,
        [.fill f, .order o'], .fill o' f⟩ := by
  rw [Desk.dispatch] at dispatched
  split at dispatched
  · cases dispatched
  · rename_i o found
    split at dispatched
    · cases dispatched
    · rename_i o' applied
      cases dispatched
      exact ⟨o, o', found, applied, rfl⟩

/-- What a report makes of the tracked orders. -/
theorem isSome_find?_dispatch {report : ExecutionReport} {x : Dispatch} (keyed : Keyed d.tracked)
    (dispatched : d.dispatch report = .ok x) (k : OrderId) : (x.tracked.find? k).isSome ↔
      Opens k d (.report report) ∨ (d.tracked.find? k).isSome ∧ ¬Closes k d (.report report) := by
  cases report with
  | ack o =>
    cases dispatched
    rw [Table.isSome_find?_insert]
    simp only [Opens, Closes, not_false_eq_true, and_true]
  | reject o r =>
    cases dispatched
    rw [Table.isSome_find?_erase]
    simp only [Opens, Closes, false_or]
  | canceled o =>
    cases dispatched
    rw [Table.isSome_find?_erase]
    simp only [Opens, Closes, false_or]
  | fill f =>
    obtain ⟨o, o', found, applied, rfl⟩ := dispatch_fill dispatched
    have name : o'.orderId = f.orderId := (applyFill_same applied).2.trans (keyed f.orderId o found)
    have closes : Closes k d (.report (.fill f)) ↔ f.orderId = k ∧ o'.isOpen = false := by
      constructor
      · rintro ⟨rfl, p, p', found', applied', closed⟩
        obtain rfl := Option.some.inj (found.symm.trans found')
        obtain rfl := Except.ok.inj (applied.symm.trans applied')
        exact ⟨rfl, closed⟩
      · rintro ⟨rfl, closed⟩
        exact ⟨rfl, o, o', found, applied, closed⟩
    rw [closes, name]
    cases opens : o'.isOpen with
    | true =>
      rw [if_pos rfl, Table.isSome_find?_insert]
      have known : f.orderId = k → (d.tracked.find? k).isSome := by
        rintro rfl
        rw [found]
        rfl
      simpa [Opens] using known
    | false =>
      rw [if_neg Bool.false_ne_true, Table.isSome_find?_erase]
      simp [Opens]

/-- After a move an order is tracked if the move opens it, or if it was tracked before and the move does not close
it. -/
theorem Turn.isSome_find? {tracked : Table OrderId Order} {es : List Event} (turn : Turn d m tracked es)
    (keyed : Keyed d.tracked) (k : OrderId) :
    (tracked.find? k).isSome ↔ Opens k d m ∨ (d.tracked.find? k).isSome ∧ ¬Closes k d m := by
  cases turn with
  | idle unasked unreported unstarted =>
    cases m with
    | register strategy => simp [Opens, Closes]
    | world now journal router => simp [Opens, Closes]
    | start reader => simp [Opens, Closes, unstarted]
    | ask q => exact absurd rfl (unasked q)
    | report report => exact absurd rfl (unreported report)
    | stop => simp [Opens, Closes]
  | started starts read =>
    rw [isSome_find?_trackAll]
    simp [Opens, Closes, starts, read]
  | @declined q es declined =>
    cases q with
    | send o =>
      have unopened : ¬Opens k d (.ask (.send o)) := by
        rintro ⟨granted, sent, accepted, -⟩
        exact declined ⟨granted, by rw [accepted]; rfl⟩
      simp [unopened, Closes]
    | modify orderId quantity limitPrice => simp [Opens, Closes]
    | cancel orderId => simp [Opens, Closes]
  | @accepted q command o granted accepted =>
    rw [Table.isSome_find?_insert]
    have known (unsent : ∀ sent, q ≠ .send sent) : o.orderId = k → (d.tracked.find? k).isSome := by
      obtain ⟨k', o', command, found, same, -⟩ := Request.tracked_of_accepted accepted unsent
      rintro rfl
      rw [same, keyed k' o' found, found]
      rfl
    cases q with
    | send sent => simp [Opens, Closes, granted, accepted]
    | modify orderId quantity limitPrice => simpa [Opens, Closes] using known (by simp)
    | cancel orderId => simpa [Opens, Closes] using known (by simp)
  | @ignored report e failed =>
    cases report with
    | ack o => cases failed
    | reject o r => cases failed
    | canceled o => cases failed
    | fill f =>
      have open' : ¬Closes k d (.report (.fill f)) := by
        rintro ⟨rfl, o, o', found, applied, -⟩
        simp [Desk.dispatch, found, applied] at failed
      simp [Opens, open']
  | reported dispatched => exact isSome_find?_dispatch keyed dispatched k

/-! ## Runs -/

namespace Desk

variable {ms : List (Move ω ρ)}

/-- An order is tracked if a move has opened it and no later one has closed it, as long as the journal refuses
nothing. -/
theorem tracked_iff_standing (new : d.tracked = .empty) (unrefused : Unrefused (d.moves ms).trace) (k : OrderId) :
    ((d.moves ms).tracked.find? k).isSome ↔ Standing k d ms := by
  induction ms using List.reverseRecOn with
  | nil =>
    have nothing : ((d.moves []).tracked.find? k).isSome = false := by
      show (d.tracked.find? k).isSome = false
      rw [new]
      rfl
    rw [nothing]
    exact ⟨nofun, fun standing => absurd standing not_since_nil⟩
  | append_singleton ms m ih =>
    rw [moves_concat] at unrefused ⊢
    obtain ⟨before, quiet⟩ := unrefused_of_move unrefused
    have keyed : Keyed (d.moves ms).tracked := moves_keyed (new ▸ .empty) ms
    rw [(turn (d.moves ms) m quiet).isSome_find? keyed k, ih before]
    exact (since_concat ms m).symm

end Desk

end Turns

/-- A desk on a journal that takes every event. -/
def Desk.steadyDesk : Desk ScriptedJournal ScriptedRouter := Desk.new ⟨"A"⟩ {} {} ⟨[], {}⟩ .epoch

end Blotter
