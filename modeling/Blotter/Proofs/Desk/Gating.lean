import Mathlib
import Blotter.Proofs.Desk.Draining
import Blotter.Proofs.Desk.Reports
import Blotter.Proofs.Desk.Requests

/-!
# What a router is asked for

No order goes to the exchange, is changed or is cancelled there before the journal has taken the command, except when a
desk stops. Between the calls of a desk its journal, its router and the time may change in any way (`Move.world`), the
journal may refuse any event, and a call may fail.

- Orders are tracked under their own names (`Keyed`).
- What a call asks the router for is permitted by the kind of call, by the desk as the call found it and by what the
  call has done before (`Permitted`, `moved`).
- Orders flow if a start has succeeded, with the flow of orders enabled, and no stop has followed (`Desk.ready_iff`).
- So in every run of a desk each question to the router is permitted (`Desk.routed_permitted`).
-/

namespace Blotter

open DeskAction DeskOp

variable {ω ρ σ : Type}

/-- Whether the tracked orders stand under their names. -/
def Keyed (tracked : Table OrderId Order) : Prop := ∀ k o, tracked.find? k = some o → o.orderId = k

namespace Keyed

variable {tracked : Table OrderId Order}

theorem empty : Keyed .empty := by
  intro k o found
  cases found

theorem insert (h : Keyed tracked) (o : Order) : Keyed (tracked.insert o.orderId o) := by
  intro k q found
  rw [Table.find?_insert] at found
  split at found
  · rename_i hk
    rw [hk, Option.some.inj found]
  · exact h k q found

theorem erase (h : Keyed tracked) (orderId : OrderId) : Keyed (tracked.erase orderId) := by
  intro k q found
  rw [Table.find?_erase] at found
  split at found
  · cases found
  · exact h k q found

theorem trackAll (h : Keyed tracked) (orders : List Order) : Keyed (Desk.trackAll tracked orders) := by
  induction orders generalizing tracked with
  | nil => exact h
  | cons o orders ih => exact ih (h.insert o)

theorem dispatch {d : Desk ω ρ σ} {report : ExecutionReport} {x : Dispatch} (h : Keyed d.tracked)
    (dispatched : d.dispatch report = .ok x) : Keyed x.tracked := by
  cases report with
  | ack o =>
    cases dispatched
    exact h.insert o
  | reject o r =>
    cases dispatched
    exact h.erase o.orderId
  | canceled o =>
    cases dispatched
    exact h.erase o.orderId
  | fill f =>
    rw [Desk.dispatch] at dispatched
    split at dispatched
    · cases dispatched
    · split at dispatched
      · cases dispatched
      · cases dispatched
        simp only
        split
        · exact h.insert _
        · exact h.erase _

end Keyed

/-- What may happen to a desk and to the world around it. -/
inductive Move (ω ρ : Type) where
  | register (strategy : StrategyId)
  /-- Time goes by, and the journal and the router become something else. -/
  | world (now : Instant) (journal : ω) (router : ρ)
  | start (reader : RecoveryReader)
  | ask (q : Request)
  | report (report : ExecutionReport)
  | stop

/-- Whether a move neither starts nor stops a desk. -/
def Move.Neutral {ω ρ : Type} : Move ω ρ → Prop
  | .start _ | .stop => False
  | .register _ | .world _ _ _ | .ask _ | .report _ => True

/-- A command that is journaled and the question that follows are the only ones of their move. -/
theorem route_unique {e : Event} {asked call : RouterCall} {actions done later : List DeskAction}
    (quiet : Quiet actions) (split : taken e :: .route asked :: actions = done ++ .route call :: later) :
    done = [taken e] ∧ call = asked := by
  cases done with
  | nil => cases split
  | cons first done =>
    obtain ⟨rfl, tail⟩ := List.cons.inj split
    cases done with
    | nil =>
      cases tail
      exact ⟨rfl, rfl⟩
    | cons second done =>
      obtain ⟨-, rfl⟩ := List.cons.inj tail
      exact (quiet call (List.mem_append_right done (List.mem_cons_self ..))).elim

section Moves

variable [JournalAccess ω] [Router ρ] [StageKind σ]

namespace Desk

/-- The desk after a move, whether it fails or not. -/
def move (d : Desk ω ρ σ) : Move ω ρ → Desk ω ρ σ
  | .register strategy => d.register strategy
  | .world now journal router => { d with now, journal, chain := { d.chain with router } }
  | .start reader => (left ((start reader).run d)).2
  | .ask q => (d.ask q).2
  | .report report => (left ((onReport report).run d)).2
  | .stop => (left (stop.run d)).2

/-- The desk after moves, one after the other. -/
def moves (d : Desk ω ρ σ) (ms : List (Move ω ρ)) : Desk ω ρ σ := ms.foldl move d

theorem moves_concat (d : Desk ω ρ σ) (ms : List (Move ω ρ)) (m : Move ω ρ) :
    d.moves (ms ++ [m]) = (d.moves ms).move m := by
  rw [moves, List.foldl_concat]
  rfl

end Desk

/-! ## What is permitted -/

/-- Whether a desk may ask the router for something in a move in which it has already done something. -/
def Permitted (d : Desk ω ρ σ) (m : Move ω ρ) (done : List DeskAction) : RouterCall → Prop
  | .send o => m = .ask (.send o) ∧ d.ready = true ∧ d.knows o.strategy = true ∧ d.Admits ∧ d.chain.Passes o d.now ∧
      done = [taken (.command (.new o d.now))]
  | .modify orderId quantity limitPrice =>
      m = .ask (.modify orderId quantity limitPrice) ∧ d.ready = true ∧ d.Admits ∧
        ∃ o, d.tracked.find? orderId = some o ∧ o.orderId = orderId ∧
          done = [taken (.command (.modify o quantity limitPrice d.now))]
  | .cancel orderId => m = .stop ∨ m = .ask (.cancel orderId) ∧
      ∃ o, d.tracked.find? orderId = some o ∧ o.orderId = orderId ∧ done = [taken (.command (.cancel o d.now))]
  | .restore _ => ∃ reader, m = .start reader

/-- Whether everything that the router is asked for in the actions of a move is permitted. -/
def AllPermitted (d : Desk ω ρ σ) (m : Move ω ρ) (actions : List DeskAction) : Prop :=
  ∀ done call later, actions = done ++ .route call :: later → Permitted d m done call

/-- Whether a move is a start that succeeds. -/
def Desk.Starts (d : Desk ω ρ σ) (m : Move ω ρ) : Prop :=
  ∃ reader report d', m = .start reader ∧ (start reader).run d = .ok report d'

/-- What a move makes of a desk. -/
structure Moved (d : Desk ω ρ σ) (m : Move ω ρ) (d' : Desk ω ρ σ) : Prop where
  settings : d'.settings = d.settings
  keyed : Keyed d.tracked → Keyed d'.tracked
  ready_started : d.Starts m → d'.ready = d.settings.orderFlowEnabled
  ready_stopped : m = .stop → d'.ready = false
  ready_same : ¬d.Starts m → m ≠ .stop → d'.ready = d.ready
  permitted : ∃ actions, d'.trace = d.trace ++ actions ∧ (Keyed d.tracked → AllPermitted d m actions)

/-! ## One move -/

section Steps

variable {d d' : Desk ω ρ σ} {m : Move ω ρ}

omit [Router ρ] in
/-- A request that is granted is permitted once its command is journaled. -/
theorem Permitted.of_granted {q : Request} {command : Command} (keyed : Keyed d.tracked) (granted : q.Granted d)
    (commanded : q.command? d = some command) : Permitted d (.ask q) [taken (.command command)] q.call := by
  cases q with
  | send o =>
    obtain ⟨ready, known, admits, passes⟩ := granted
    obtain rfl := Option.some.inj commanded
    exact ⟨rfl, ready, known, admits, passes, rfl⟩
  | modify orderId quantity limitPrice =>
    obtain ⟨ready, admits⟩ := granted
    obtain ⟨o, found, rfl⟩ := Option.map_eq_some_iff.mp commanded
    exact ⟨rfl, ready, admits, o, found, keyed orderId o found, rfl⟩
  | cancel orderId =>
    obtain ⟨o, found, rfl⟩ := Option.map_eq_some_iff.mp commanded
    exact .inr ⟨rfl, o, found, keyed orderId o found, rfl⟩

omit [Router ρ] in
theorem Permitted.of_start {reader : RecoveryReader} {done : List DeskAction} {call : RouterCall}
    (h : Permitted d (.start reader) done call) : ∃ o, call = .restore o := by
  cases call with
  | send o => cases h.1
  | modify orderId quantity limitPrice => cases h.1
  | cancel orderId =>
    rcases h with stops | ⟨asks, -⟩
    · cases stops
    · cases asks
  | restore o => exact ⟨o, rfl⟩

/-- A move that is neither a start nor a stop leaves the flow of orders as it is. -/
theorem Moved.of_neutral (neutral : m.Neutral) (settings : d'.settings = d.settings) (ready : d'.ready = d.ready)
    (keyed : Keyed d.tracked → Keyed d'.tracked) {actions : List DeskAction}
    (trace : d'.trace = d.trace ++ actions) (permitted : Keyed d.tracked → AllPermitted d m actions) :
    Moved d m d' where
  settings := settings
  keyed := keyed
  ready_started := by
    rintro ⟨reader, -, -, rfl, -⟩
    exact neutral.elim
  ready_stopped := by
    rintro rfl
    exact neutral.elim
  ready_same _ _ := ready
  permitted := ⟨actions, trace, permitted⟩

omit [Router ρ] in
/-- A call that asks the router only for what its kind of move permits. -/
theorem DeskAction.AskOnly.permitted {p : RouterCall → Prop} {actions : List DeskAction} (asked : AskOnly p actions)
    (permits : ∀ done call, p call → Permitted d m done call) : AllPermitted d m actions := by
  rintro done call later rfl
  exact permits done call (asked call (List.mem_append_right done (List.mem_cons_self ..)))

omit [Router ρ] in
theorem allPermitted_nil : AllPermitted d m [] := by
  intro done call later split
  simp at split

theorem moved_ask (q : Request) : Moved d (.ask q) (d.move (.ask q)) := by
  have way := d.ask_cases q
  rw [Desk.move]
  generalize d.ask q = result at way
  cases way with
  | held quiet =>
    exact .of_neutral trivial rfl rfl id rfl fun _ => quiet.permitted fun _ _ => False.elim
  | declined granted commanded _ quiet =>
    refine .of_neutral trivial rfl rfl id rfl fun keyed done call later split => ?_
    obtain ⟨rfl, rfl⟩ := route_unique quiet split
    exact .of_granted keyed granted commanded
  | @settled _ o _ _ _ granted commanded accepted =>
    refine .of_neutral trivial rfl rfl (·.insert o) rfl fun keyed done call later split => ?_
    obtain ⟨rfl, rfl⟩ := route_unique (quiet_taken [_]) split
    exact .of_granted keyed granted commanded
  | lost granted commanded accepted =>
    refine .of_neutral trivial rfl rfl id rfl fun keyed done call later split => ?_
    obtain ⟨rfl, rfl⟩ := route_unique (quiet_refused _) split
    exact .of_granted keyed granted commanded

theorem moved_report (report : ExecutionReport) : Moved d (.report report) (d.move (.report report)) := by
  rw [Desk.move, Desk.onReport_run]
  cases dispatched : d.dispatch report with
  | error e =>
    exact .of_neutral trivial rfl rfl id (List.append_nil _).symm fun _ => allPermitted_nil
  | ok x =>
    obtain ⟨e, j, actions, left, quiet, -⟩ := deliver_quiet { d with tracked := x.tracked } x.strategy x.events x.callback
    simp only
    rw [left]
    exact .of_neutral trivial rfl rfl (·.dispatch dispatched) rfl fun _ =>
      quiet.permitted fun _ _ => False.elim

theorem moved_start (reader : RecoveryReader) : Moved d (.start reader) (d.move (.start reader)) := by
  rcases d.start_cases reader with ⟨e, failed⟩ | ⟨report, orders, c, actions, -, started, asked, -⟩
  · have still : d.move (.start reader) = d := by rw [Desk.move, failed]; rfl
    rw [still]
    exact {
      settings := rfl
      keyed := id
      ready_started := by
        rintro ⟨_, report, d', same, started⟩
        cases same
        cases failed.symm.trans started
      ready_stopped := fun stops => by cases stops
      ready_same := fun _ _ => rfl
      permitted := ⟨[], (List.append_nil _).symm, fun _ => allPermitted_nil⟩ }
  · rw [Desk.move, started]
    exact {
      settings := rfl
      keyed := fun keyed => keyed.trackAll orders
      ready_started := fun _ => rfl
      ready_stopped := fun stops => by cases stops
      ready_same := fun idle => absurd ⟨reader, report, _, rfl, started⟩ idle
      permitted := ⟨actions, rfl, fun _ => asked.permitted fun _ _ restored => by
        obtain ⟨o, rfl⟩ := restored
        exact ⟨reader, rfl⟩⟩ }

theorem moved_stop : Moved d .stop (d.move .stop) := by
  obtain ⟨report, j, c, actions, stopped, drains⟩ := d.stop_run
  rw [Desk.move, stopped]
  exact {
    settings := rfl
    keyed := id
    ready_started := by
      rintro ⟨_, _, _, same, -⟩
      cases same
    ready_stopped := fun _ => rfl
    ready_same := fun _ running => absurd rfl running
    permitted := ⟨actions, rfl, fun _ => drains.asked.permitted fun _ _ cancelled => by
      obtain ⟨orderId, rfl⟩ := cancelled
      exact .inl rfl⟩ }

/-- The desk after a move is what `Moved` says. -/
theorem moved (d : Desk ω ρ σ) (m : Move ω ρ) : Moved d m (d.move m) := by
  cases m with
  | register strategy =>
    rw [Desk.move, Desk.register]
    split
    · exact .of_neutral trivial rfl rfl id (List.append_nil _).symm fun _ => allPermitted_nil
    · exact .of_neutral trivial rfl rfl id (List.append_nil _).symm fun _ => allPermitted_nil
  | world now journal router =>
    exact .of_neutral trivial rfl rfl id (List.append_nil _).symm fun _ => allPermitted_nil
  | start reader => exact moved_start reader
  | ask q => exact moved_ask q
  | report report => exact moved_report report
  | stop => exact moved_stop

end Steps

/-! ## Runs -/

namespace Desk

/-- Whether the flow of orders is enabled and, among moves that begin with a desk, a start has succeeded and no stop has
followed. -/
def Opened (d : Desk ω ρ σ) (ms : List (Move ω ρ)) : Prop :=
  d.settings.orderFlowEnabled = true ∧ ∃ earlier m later, ms = earlier ++ m :: later ∧
    (d.moves earlier).Starts m ∧ .stop ∉ later

variable {d : Desk ω ρ σ}

theorem not_opened_nil : ¬d.Opened [] := by
  rintro ⟨-, earlier, m, later, split, -⟩
  simp at split

/-- What is split at an element of it is split at its last element, or it is split before that. -/
theorem concat_eq_append_cons {α : Type} {xs before after : List α} {last x : α} :
    xs ++ [last] = before ++ x :: after ↔
      (before = xs ∧ x = last ∧ after = []) ∨ ∃ rest, after = rest ++ [last] ∧ xs = before ++ x :: rest := by
  constructor
  · intro split
    rcases List.eq_nil_or_concat after with rfl | ⟨rest, y, rfl⟩
    · obtain ⟨rfl, same⟩ := List.append_inj' split rfl
      cases same
      exact .inl ⟨rfl, rfl, rfl⟩
    · rw [List.concat_eq_append, ← List.cons_append, ← List.append_assoc] at split
      obtain ⟨rfl, same⟩ := List.append_inj' split rfl
      cases same
      exact .inr ⟨rest, List.concat_eq_append, rfl⟩
  · rintro (⟨rfl, rfl, rfl⟩ | ⟨rest, rfl, rfl⟩)
    · rfl
    · simp

/-- A last move keeps the flow of orders open unless it is a stop, and opens it if it is a start that succeeds. -/
theorem opened_concat (ms : List (Move ω ρ)) (m : Move ω ρ) : d.Opened (ms ++ [m]) ↔
    (d.settings.orderFlowEnabled = true ∧ (d.moves ms).Starts m) ∨ m ≠ .stop ∧ d.Opened ms := by
  constructor
  · rintro ⟨flows, earlier, start, later, split, starts, unstopped⟩
    rcases concat_eq_append_cons.mp split with ⟨rfl, rfl, -⟩ | ⟨later, rfl, rfl⟩
    · exact .inl ⟨flows, starts⟩
    · rw [List.mem_append, not_or] at unstopped
      refine .inr ⟨?_, flows, earlier, start, later, rfl, starts, unstopped.1⟩
      rintro rfl
      exact unstopped.2 (List.mem_singleton_self _)
  · rintro (⟨flows, starts⟩ | ⟨running, flows, earlier, start, later, rfl, starts, unstopped⟩)
    · exact ⟨flows, ms, m, [], rfl, starts, List.not_mem_nil⟩
    · refine ⟨flows, earlier, start, later ++ [m], by simp, starts, ?_⟩
      rw [List.mem_append, not_or, List.mem_singleton]
      exact ⟨unstopped, running.symm⟩

theorem moves_settings (ms : List (Move ω ρ)) : (d.moves ms).settings = d.settings := by
  induction ms using List.reverseRecOn with
  | nil => rfl
  | append_singleton ms m ih => rw [moves_concat, (moved _ m).settings, ih]

theorem moves_keyed (keyed : Keyed d.tracked) (ms : List (Move ω ρ)) : Keyed (d.moves ms).tracked := by
  induction ms using List.reverseRecOn with
  | nil => exact keyed
  | append_singleton ms m ih =>
    rw [moves_concat]
    exact (moved _ m).keyed ih

/-- Orders flow when a start has succeeded, with the flow of orders enabled, and no stop has followed. -/
theorem ready_iff (closed : d.ready = false) (ms : List (Move ω ρ)) : (d.moves ms).ready = true ↔ d.Opened ms := by
  induction ms using List.reverseRecOn with
  | nil =>
    show d.ready = true ↔ _
    rw [closed]
    exact ⟨nofun, fun opened => absurd opened not_opened_nil⟩
  | append_singleton ms m ih =>
    have step := moved (d.moves ms) m
    rw [moves_concat, opened_concat]
    by_cases starts : (d.moves ms).Starts m
    · rw [step.ready_started starts, moves_settings]
      refine ⟨fun flows => .inl ⟨flows, starts⟩, ?_⟩
      rintro (⟨flows, -⟩ | ⟨-, flows, -⟩)
      · exact flows
      · exact flows
    · by_cases stops : m = .stop
      · rw [step.ready_stopped stops]
        refine ⟨nofun, ?_⟩
        rintro (⟨-, starts'⟩ | ⟨running, -⟩)
        · exact absurd starts' starts
        · exact absurd stops running
      · rw [step.ready_same starts stops, ih]
        refine ⟨fun opened => .inr ⟨stops, opened⟩, ?_⟩
        rintro (⟨-, starts'⟩ | ⟨-, opened⟩)
        · exact absurd starts' starts
        · exact opened

/-- Whether a question to the router is asked in one of the moves that begin with a desk, after it has done something,
and that move is permitted to ask it; the move finds the desk ready if a start has opened it and no stop has followed. A
start asks the router to keep orders in mind and nothing else. -/
def Accounted (d : Desk ω ρ σ) (ms : List (Move ω ρ)) (earlier : List DeskAction) (call : RouterCall) : Prop :=
  ∃ before m after done, ms = before ++ m :: after ∧ earlier = (d.moves before).trace ++ done ∧
    (∃ rest, ((d.moves before).move m).trace = earlier ++ .route call :: rest) ∧
    Permitted (d.moves before) m done call ∧ ((d.moves before).ready = true ↔ d.Opened before) ∧
    ∀ reader, m = .start reader → ∃ o, call = .restore o

/-- In every run of a new desk, whatever becomes of its journal and its router on the way, each question to the router
is permitted in the call that asks it. -/
theorem routed_permitted (account : AccountId) (settings : DeskSettings) (journal : ω) (chain : Chain ρ σ)
    (now : Instant) (ms : List (Move ω ρ)) {earlier later : List DeskAction} {call : RouterCall}
    (routed : ((new account settings journal chain now).moves ms).trace = earlier ++ .route call :: later) :
    (new account settings journal chain now).Accounted ms earlier call := by
  induction ms using List.reverseRecOn generalizing later with
  | nil =>
    have nothing : ([] : List DeskAction) = earlier ++ .route call :: later := routed
    simp at nothing
  | append_singleton ms m ih =>
    generalize reached : (new account settings journal chain now).moves ms = d at ih
    obtain ⟨actions, trace, permitted⟩ := (moved d m).permitted
    rw [moves_concat, reached, trace] at routed
    have last (done : List DeskAction) (begins : earlier = d.trace ++ done)
        (split : actions = done ++ .route call :: later) :
        (new account settings journal chain now).Accounted (ms ++ [m]) earlier call := by
      subst reached
      have permitted := permitted (moves_keyed .empty ms) done call later split
      refine ⟨ms, m, [], done, rfl, begins, ⟨later, ?_⟩, permitted, ready_iff rfl ms, ?_⟩
      · rw [trace, begins, split, List.append_assoc]
      · rintro reader rfl
        exact permitted.of_start
    -- The question is one of the last move, or one of a move before.
    rcases List.append_eq_append_iff.mp routed with ⟨done, begins, split⟩ | ⟨rest, begins, split⟩
    · exact last done begins split
    · cases rest with
      | nil =>
        rw [List.append_nil] at begins
        exact last [] (by rw [begins, List.append_nil]) split.symm
      | cons first rest =>
        obtain ⟨rfl, -⟩ := List.cons.inj split
        obtain ⟨before, m', after, done, rfl, found⟩ := ih begins
        exact ⟨before, m', after ++ [m], done, by simp, found⟩

end Desk

end Moves

namespace Desk

/-- A run in which a journal is full for a while and refuses an event later on. -/
def exampleMoves : List (Move ScriptedJournal ScriptedRouter) :=
  let nothing : RecoveryReader :=
    ⟨fun _ => .ok [], fun _ => .ok [], fun _ _ => .ok [], fun _ => .ok none⟩
  let change (quantity : Decimal) : Move ScriptedJournal ScriptedRouter :=
    .ask (.modify fiveUnits.orderId quantity none)
  [.register ⟨"S"⟩, .ask (.send fiveUnits), .start nothing, .world .epoch { fileFull := true } {},
    .ask (.send fiveUnits), .world .epoch {} {}, .ask (.send fiveUnits), .report (.ack fiveUnits),
    .world .epoch { budget := some 0 } {}, change twoUnits.price, .world .epoch {} {},
    change twoUnits.quantity, .ask (.cancel fiveUnits.orderId), .stop]

theorem routed_permitted_exampleMoves :
    let d : Desk ScriptedJournal ScriptedRouter := new ⟨"A"⟩ {} {} ⟨[.perSecond 1], {}⟩ .epoch
    let call : RouterCall := .modify fiveUnits.orderId twoUnits.quantity none
    ∃ earlier later, (d.moves exampleMoves).trace = earlier ++ .route call :: later ∧
      d.Accounted exampleMoves earlier call := by
  intro d call
  have asked : .route call ∈ (d.moves exampleMoves).trace := by decide +kernel
  obtain ⟨earlier, later, split⟩ := List.append_of_mem asked
  exact ⟨earlier, later, split, routed_permitted _ _ _ _ _ exampleMoves split⟩

end Desk

end Blotter
