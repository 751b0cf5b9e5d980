import Mathlib
import Blotter.Proofs.Desk.Replaying
import Blotter.Proofs.Desk.Turns

/-!
# Closed orders

Orders come to a desk with a status: from the router, from the exchange and from a recovery. The desk takes the status
as it comes and looks at it nowhere but when it counts a fill. So whether closed orders are closed everywhere is up to
those who name the status.

- If they name the status that goes with what they say (`Desk.Proper`), every tracked order is open, and an order that
  was closed is neither tracked nor open in a replay of the journal, until the router accepts it or the exchange
  acknowledges it again (`Desk.closed_everywhere`).
- If they do not, orders are tracked that are closed, and orders are recovered that were cancelled; and an
  acknowledgement that comes late brings a cancelled order back (`Desk.closed_orders_return`).
-/

namespace Blotter

open DeskAction DeskOp

namespace Desk

section Closing

variable {ω ρ σ : Type} [JournalAccess ω] [Router ρ] [StageKind σ] {d : Desk ω ρ σ} {m : Move ω ρ}
  {ms : List (Move ω ρ)} {rs₀ : List Record} {tracked : Table OrderId Order} {es : List Event} {k : OrderId}

/-- Whether the orders of a move have the status that goes with it: the router accepts open orders, the exchange
acknowledges open orders and reports cancels of closed ones, and a start reads what a replay of the journal answers. -/
def Proper (rs₀ : List Record) (d : Desk ω ρ σ) : Move ω ρ → Prop
  | .ask (.send o) => ∀ sent, (Router.send o d.now d.chain.router).1 = .accepted sent → sent.isOpen = true
  | .report (.ack o) => o.isOpen = true
  | .report (.canceled o) => o.isOpen = false
  | .start reader => ∀ orders, reader.openOrders d.account = .ok orders →
      ∃ rs s, Adds rs₀ d.journaled rs ∧ Replay.ofRecords rs = .ok s ∧ orders = s.openOrders d.account
  | .register _ | .world _ _ _ | .ask (.modify _ _ _) | .ask (.cancel _) | .report (.reject _ _)
  | .report (.fill _) | .stop => True

/-- Whether the orders of all moves have the status that goes with them. -/
def AllProper (rs₀ : List Record) (d : Desk ω ρ σ) : List (Move ω ρ) → Prop
  | [] => True
  | m :: ms => Proper rs₀ d m ∧ AllProper rs₀ (d.move m) ms

theorem allProper_concat (ms : List (Move ω ρ)) (m : Move ω ρ) :
    AllProper rs₀ d (ms ++ [m]) ↔ AllProper rs₀ d ms ∧ Proper rs₀ (d.moves ms) m := by
  induction ms generalizing d with
  | nil =>
    show Proper rs₀ d m ∧ True ↔ True ∧ Proper rs₀ d m
    rw [and_comm]
  | cons m' ms ih =>
    rw [List.cons_append, AllProper, AllProper, ih, and_assoc]
    rfl

/-! ## Tracked orders are open -/

/-- Whether all tracked orders are open. -/
def AllOpen (tracked : Table OrderId Order) : Prop := ∀ k o, tracked.find? k = some o → o.isOpen = true

theorem AllOpen.insert (h : AllOpen tracked) {o : Order} (isOpen : o.isOpen = true) (k : OrderId) :
    AllOpen (tracked.insert k o) := by
  intro k' q found
  rcases Table.eq_or_of_find?_insert found with rfl | old
  · exact isOpen
  · exact h k' q old

theorem AllOpen.erase (h : AllOpen tracked) (k : OrderId) : AllOpen (tracked.erase k) := by
  intro k' q found
  exact h k' q (Table.of_find?_erase found)

theorem AllOpen.trackAll (h : AllOpen tracked) {orders : List Order} (isOpen : ∀ o ∈ orders, o.isOpen = true) :
    AllOpen (trackAll tracked orders) := by
  induction orders generalizing tracked with
  | nil => exact h
  | cons o orders ih =>
    obtain ⟨first, later⟩ := List.forall_mem_cons.mp isOpen
    exact ih (h.insert first o.orderId) later

omit [JournalAccess ω] [StageKind σ] in
theorem AllOpen.dispatch (h : AllOpen d.tracked) {report : ExecutionReport} {x : Dispatch}
    (proper : Proper rs₀ d (.report report)) (dispatched : d.dispatch report = .ok x) : AllOpen x.tracked := by
  cases report with
  | ack o =>
    cases dispatched
    exact h.insert proper o.orderId
  | reject o r =>
    cases dispatched
    exact h.erase o.orderId
  | canceled o =>
    cases dispatched
    exact h.erase o.orderId
  | fill f =>
    obtain ⟨o, o', -, -, rfl⟩ := dispatch_fill dispatched
    simp only
    split
    · rename_i isOpen
      exact h.insert isOpen _
    · exact h.erase _

/-- A proper move keeps tracked orders open. -/
theorem AllOpen.turn (h : AllOpen d.tracked) (proper : Proper rs₀ d m) (turn : Turn d m tracked es) :
    AllOpen tracked := by
  cases turn with
  | idle => exact h
  | started _ read =>
    obtain ⟨rs, s, -, replayed, rfl⟩ := proper _ read
    refine h.trackAll fun o ho => ?_
    exact ((Replay.mem_openOrders_iff (Replay.wellFormed_of_ofRecords replayed)).mp ho).2.2
  | declined => exact h
  | @accepted q command o _ accepted =>
    refine h.insert ?_ o.orderId
    have changed (unsent : ∀ sent, q ≠ .send sent) : o.isOpen = true := by
      obtain ⟨k, o', command, found, -, stays, -⟩ := Request.tracked_of_accepted accepted unsent
      exact stays (h k o' found)
    cases q with
    | send sent =>
      rw [Request.accepted?] at accepted
      split at accepted
      · rename_i answer
        exact Option.some.inj accepted ▸ proper _ answer
      · cases accepted
    | modify orderId quantity limitPrice => exact changed (by simp)
    | cancel orderId => exact changed (by simp)
  | ignored => exact h
  | reported dispatched => exact h.dispatch proper dispatched

/-! ## Closed orders stay closed -/

/-- Whether a move closes an order and does not fail. -/
def Settles (k : OrderId) (d : Desk ω ρ σ) (m : Move ω ρ) : Prop :=
  Closes k d m ∧ ∃ report d', m = .report report ∧ (onReport report).run d = .ok () d'

/-- Whether the router accepts an order or the exchange acknowledges it in a move. -/
def Reopens (k : OrderId) (d : Desk ω ρ σ) (m : Move ω ρ) : Prop := Opens k d m ∧ ∀ reader, m ≠ .start reader

/-- Whether an order is not tracked, and closed in the last snapshot of it among events. -/
def Closed (k : OrderId) (tracked : Table OrderId Order) (es : List Event) : Prop :=
  tracked.find? k = none ∧ ∃ o, lastSnapshot? k es = some o ∧ o.isOpen = false

/-- A closed order is not found in a replay. -/
theorem Closed.not_mem_openOrders (closed : Closed k tracked es) {rs rs' : List Record} {s s' : Replay}
    (replayed : Replay.ofRecords rs = .ok s) (added : Adds rs es rs') (replayed' : Replay.ofRecords rs' = .ok s')
    {account : AccountId} {o : Order} (open' : o ∈ s'.openOrders account) : o.orderId ≠ k := by
  rintro rfl
  obtain ⟨-, p, last, isClosed⟩ := closed
  obtain ⟨latest, -, isOpen⟩ := (Replay.mem_openOrders_iff (Replay.wellFormed_of_ofRecords replayed')).mp open'
  rw [Replay.latest?_of_adds replayed added replayed', last] at latest
  obtain rfl : p = o := Option.some.inj latest
  exact absurd (isOpen.symm.trans isClosed) (by simp)

omit [Router ρ] [StageKind σ] in
/-- A report that is carried out without a failure is journaled. -/
theorem knows_of_onReport {report : ExecutionReport} {x : Dispatch} {d' : Desk ω ρ σ}
    (dispatched : d.dispatch report = .ok x) (done : (onReport report).run d = .ok () d') :
    d.knows x.strategy = true := by
  rw [onReport_run, dispatched] at done
  simp only at done
  have way := deliver_cases { d with tracked := x.tracked } x.strategy x.events x.callback
  rw [done] at way
  cases way with
  | told known _ _ => exact known

omit [JournalAccess ω] [StageKind σ] in
/-- A report that closes an order carries it as closed. -/
theorem lastSnapshot?_of_dispatch {report : ExecutionReport} {x : Dispatch} (keyed : Keyed d.tracked)
    (proper : Proper rs₀ d (.report report)) (dispatched : d.dispatch report = .ok x)
    (closes : Closes k d (.report report)) : ∃ o, lastSnapshot? k x.events = some o ∧ o.isOpen = false := by
  cases report with
  | ack o => exact closes.elim
  | reject o r =>
    cases dispatched
    have name : o.orderId = k := closes
    exact ⟨_, lastSnapshot?_of_snapshot [] rfl name, rfl⟩
  | canceled o =>
    cases dispatched
    have name : o.orderId = k := closes
    exact ⟨o, lastSnapshot?_of_snapshot [] rfl name, proper⟩
  | fill f =>
    obtain ⟨o, o', found, applied, rfl⟩ := dispatch_fill dispatched
    obtain ⟨rfl, p, p', found', applied', isClosed⟩ := closes
    obtain rfl := Option.some.inj (found.symm.trans found')
    obtain rfl := Except.ok.inj (applied.symm.trans applied')
    have name : o'.orderId = f.orderId := (applyFill_same applied).2.trans (keyed f.orderId o found)
    exact ⟨o', lastSnapshot?_of_snapshot [.fill f] rfl name, isClosed⟩

/-- A move that closes an order journals it as closed. -/
theorem closed_of_settles (keyed : Keyed d.tracked) (proper : Proper rs₀ d m) (turn : Turn d m tracked es)
    (settles : Settles k d m) : Closed k tracked es := by
  obtain ⟨closes, report, d', rfl, done⟩ := settles
  have unopened : ¬Opens k d (.report report) := by
    cases report with
    | ack o => exact closes.elim
    | reject o r => exact id
    | canceled o => exact id
    | fill f => exact id
  refine ⟨?_, ?_⟩
  · rw [← Option.not_isSome_iff_eq_none, turn.isSome_find? keyed k]
    rintro (opens | ⟨-, unclosed⟩)
    · exact unopened opens
    · exact unclosed closes
  · cases turn with
    | idle _ unreported => exact absurd rfl (unreported report)
    | @ignored _ e failed =>
      rw [onReport_run, failed] at done
      cases done
    | @reported _ x dispatched =>
      rw [if_pos (knows_of_onReport dispatched done)]
      exact lastSnapshot?_of_dispatch keyed proper dispatched closes

omit [JournalAccess ω] [Router ρ] [StageKind σ] in
/-- An order of the name of a tracked one is not of a name that is not tracked. -/
theorem orderId_ne_of_untracked (keyed : Keyed d.tracked) (untracked : d.tracked.find? k = none) {k' : OrderId}
    {o o' : Order} (found : d.tracked.find? k' = some o) (same : o'.orderId = o.orderId) : o'.orderId ≠ k := by
  rintro rfl
  rw [same, keyed k' o found, found] at untracked
  cases untracked

/-- A report that does not open an order carries it as closed, if it is not tracked. -/
theorem isClosed_of_dispatch {report : ExecutionReport} {x : Dispatch} (keyed : Keyed d.tracked)
    (untracked : d.tracked.find? k = none) (proper : Proper rs₀ d (.report report))
    (unopened : ¬Opens k d (.report report)) (dispatched : d.dispatch report = .ok x) {e : Event} (he : e ∈ x.events)
    {p : Order} (snapshot : e.snapshot? = some p) (name : p.orderId = k) : p.isOpen = false := by
  cases report with
  | ack o =>
    cases dispatched
    obtain rfl := List.mem_singleton.mp he
    obtain rfl : o = p := Option.some.inj snapshot
    exact absurd name unopened
  | reject o r =>
    cases dispatched
    obtain rfl := List.mem_singleton.mp he
    exact Option.some.inj snapshot ▸ rfl
  | canceled o =>
    cases dispatched
    obtain rfl := List.mem_singleton.mp he
    obtain rfl : o = p := Option.some.inj snapshot
    exact proper
  | fill f =>
    obtain ⟨o, o', found, applied, rfl⟩ := dispatch_fill dispatched
    rcases List.mem_pair.mp he with rfl | rfl
    · cases snapshot
    · obtain rfl : o' = p := Option.some.inj snapshot
      exact absurd name (orderId_ne_of_untracked keyed untracked found (applyFill_same applied).2)

/-- While an order is not tracked and no move opens it, all that is journaled of it is that it is closed. -/
theorem isClosed_of_turn (keyed : Keyed d.tracked) (untracked : d.tracked.find? k = none) (proper : Proper rs₀ d m)
    (unopened : ¬Opens k d m) (turn : Turn d m tracked es) {e : Event} (he : e ∈ es) {p : Order}
    (snapshot : e.snapshot? = some p) (name : p.orderId = k) : p.isOpen = false := by
  cases turn with
  | idle _ _ _ commands =>
    obtain ⟨command, rfl⟩ := commands e he
    cases snapshot
  | started => cases he
  | declined _ aside =>
    rcases aside e he with ⟨command, rfl⟩ | ⟨o, r, -, rfl⟩
    · cases snapshot
    · exact Option.some.inj snapshot ▸ rfl
  | @accepted q command o granted accepted =>
    rcases List.mem_pair.mp he with rfl | rfl
    · cases snapshot
    · obtain rfl : o = p := Option.some.inj snapshot
      have changed (unsent : ∀ sent, q ≠ .send sent) : False := by
        obtain ⟨k', o', command, found, same, -⟩ := Request.tracked_of_accepted accepted unsent
        exact orderId_ne_of_untracked keyed untracked found same name
      cases q with
      | send sent => exact absurd ⟨granted, o, accepted, name⟩ unopened
      | modify orderId quantity limitPrice => exact (changed (by simp)).elim
      | cancel orderId => exact (changed (by simp)).elim
  | ignored => cases he
  | reported dispatched =>
    split at he
    · exact isClosed_of_dispatch keyed untracked proper unopened dispatched he snapshot name
    · cases he

/-- A start that reads what a replay of the journal answers does not open a closed order. -/
theorem Closed.not_opens_start (closed : Closed k d.tracked d.journaled) {s₀ : Replay}
    (replayed₀ : Replay.ofRecords rs₀ = .ok s₀) {reader : RecoveryReader} (proper : Proper rs₀ d (.start reader)) :
    ¬Opens k d (.start reader) := by
  rintro ⟨-, orders, read, member⟩
  obtain ⟨rs, s, added, replayed, rfl⟩ := proper orders read
  obtain ⟨o, ho, name⟩ := List.mem_map.mp member
  exact closed.not_mem_openOrders replayed₀ added replayed ho name

/-- A closed order stays closed unless a move opens it. -/
theorem Closed.turn (closed : Closed k d.tracked d.journaled) (keyed : Keyed d.tracked) (proper : Proper rs₀ d m)
    (unopened : ¬Opens k d m) (turn : Turn d m tracked es) : Closed k tracked (d.journaled ++ es) := by
  obtain ⟨untracked, o, last, isClosed⟩ := closed
  refine ⟨?_, ?_⟩
  · rw [← Option.not_isSome_iff_eq_none, turn.isSome_find? keyed k, untracked]
    rintro (opens | ⟨known, -⟩)
    · exact unopened opens
    · cases known
  · rw [lastSnapshot?_append]
    cases new : lastSnapshot? k es with
    | none => exact ⟨o, last, isClosed⟩
    | some p =>
      obtain ⟨e, he, snapshot, name⟩ := exists_of_lastSnapshot? new
      exact ⟨p, rfl, isClosed_of_turn keyed untracked proper unopened turn he snapshot name⟩

/-! ## Runs -/

/-- In every run of a desk without orders, if the journal refuses nothing and orders come with the status that goes with
them, all tracked orders are open. An order that a move has closed without failing is not tracked, and it is not among
the open orders in a replay of the journal, until the router accepts it or the exchange acknowledges it again. -/
theorem closed_everywhere {account : AccountId} {settings : DeskSettings} {journal : ω} {chain : Chain ρ σ}
    {now : Instant} {s₀ : Replay} (isNew : d = new account settings journal chain now)
    (unrefused : Unrefused (d.moves ms).trace) (replayed₀ : Replay.ofRecords rs₀ = .ok s₀)
    (proper : AllProper rs₀ d ms) :
    (∀ k o, (d.moves ms).tracked.find? k = some o → o.isOpen = true) ∧
      ∀ k, Since (Settles k) (Reopens k) d ms → (d.moves ms).tracked.find? k = none ∧
        ∀ rs s, Adds rs₀ (d.moves ms).journaled rs → Replay.ofRecords rs = .ok s →
          ∀ account, ∀ o ∈ s.openOrders account, o.orderId ≠ k := by
  have run : AllOpen (d.moves ms).tracked ∧ ∀ k, Since (Settles k) (Reopens k) d ms →
      Closed k (d.moves ms).tracked (d.moves ms).journaled := by
    induction ms using List.reverseRecOn with
    | nil =>
      refine ⟨fun k o found => ?_, fun k since => absurd since not_since_nil⟩
      rw [isNew] at found
      cases found
    | append_singleton ms m ih =>
      rw [moves_concat] at unrefused ⊢
      obtain ⟨before, last⟩ := (allProper_concat ms m).mp proper
      obtain ⟨earlier, quiet⟩ := unrefused_of_move unrefused
      obtain ⟨allOpen, closed⟩ := ih earlier before
      have keyed : Keyed (d.moves ms).tracked := moves_keyed (isNew ▸ .empty) ms
      have turn := (d.moves ms).turn m quiet
      refine ⟨allOpen.turn last turn, fun k since => ?_⟩
      rw [journaled_move]
      rcases (since_concat ms m).mp since with settles | ⟨past, unopened⟩
      · obtain ⟨untracked, o, new, isClosed⟩ := closed_of_settles keyed last turn settles
        exact ⟨untracked, o, by rw [lastSnapshot?_append, new]; rfl, isClosed⟩
      · refine (closed k past).turn keyed last (fun opens => ?_) turn
        -- a start opens orders too, but none that the journal knows as closed
        by_cases starts : ∃ reader, m = .start reader
        · obtain ⟨reader, rfl⟩ := starts
          exact (closed k past).not_opens_start replayed₀ last opens
        · exact unopened ⟨opens, fun reader same => starts ⟨reader, same⟩⟩
  refine ⟨run.1, fun k since => ⟨(run.2 k since).1, ?_⟩⟩
  intro rs s added replayed account o open'
  exact (run.2 k since).not_mem_openOrders replayed₀ added replayed open'

end Closing

/-! ## Runs with orders in another status -/

/-- A report that an order of five units is cancelled. -/
def cancelled : Move ScriptedJournal ScriptedRouter := .report (.canceled (fiveUnits.withStatus .canceled .epoch))

/-- A run in which an order is sent and cancelled. -/
def cancelledMoves : List (Move ScriptedJournal ScriptedRouter) :=
  [.register ⟨"S"⟩, .start (.ofReplay .empty), .ask (.send fiveUnits), cancelled]

theorem closed_everywhere_cancelledMoves :
    (steadyDesk.moves cancelledMoves).tracked.find? fiveUnits.orderId = none ∧
      ∀ s, Replay.ofRecords (numbered (steadyDesk.moves cancelledMoves).journaled) = .ok s →
        ∀ o ∈ s.openOrders ⟨"A"⟩, o.orderId ≠ fiveUnits.orderId := by
  have isNew : steadyDesk = new ⟨"A"⟩ {} {} ⟨[], {}⟩ .epoch := rfl
  have proper : AllProper [] steadyDesk cancelledMoves := by
    refine ⟨trivial, ?_, ?_, rfl, trivial⟩
    · intro orders read
      exact ⟨[], .empty, rfl, rfl, (Except.ok.inj read).symm⟩
    · intro sent accepted
      let d := steadyDesk.moves (cancelledMoves.take 2)
      have answer : (Router.send fiveUnits d.now d.chain.router).1 = .accepted fiveUnits := by decide +kernel
      obtain rfl := RouteOutcome.accepted.inj (answer.symm.trans accepted)
      rfl
  have settles : Settles fiveUnits.orderId (steadyDesk.moves (cancelledMoves.take 3)) cancelled := by
    have done : (left ((onReport (.canceled (fiveUnits.withStatus .canceled .epoch))).run
        (steadyDesk.moves (cancelledMoves.take 3)))).1 = none := by decide +kernel
    refine ⟨rfl, _, _, rfl, eq_ok_of_left done⟩
  have since : Since (Settles fiveUnits.orderId) (Reopens fiveUnits.orderId) steadyDesk cancelledMoves :=
    ⟨cancelledMoves.take 3, _, [], rfl, settles, fun between m' rest split => by simp at split⟩
  -- the run stays a variable: only the decision below evaluates it
  generalize same : cancelledMoves = ms at proper since ⊢
  have unrefused : Unrefused (steadyDesk.moves ms).trace := by
    rw [← same]
    decide +kernel
  obtain ⟨untracked, unrecovered⟩ := (closed_everywhere isNew unrefused Replay.ofRecords_nil proper).2 _ since
  exact ⟨untracked, fun s replayed => unrecovered _ s (adds_numbered_nil _) replayed ⟨"A"⟩⟩

/-- An order that the router accepts as filled and one that the exchange acknowledges as filled are tracked. An order
that is reported as cancelled with the status of an open one is recovered, and an order that is cancelled is tracked
again when an acknowledgement of it comes late. -/
theorem closed_orders_return :
    let accepted := steadyDesk.moves [.register ⟨"S"⟩, .start (.ofReplay .empty),
      .world .epoch {} { acceptStatus := some .filled }, .ask (.send fiveUnits)]
    let acknowledged := steadyDesk.moves [.register ⟨"S"⟩, .report (.ack (fiveUnits.withStatus .filled .epoch))]
    let reopened := steadyDesk.moves [.register ⟨"S"⟩, .start (.ofReplay .empty), .ask (.send fiveUnits),
      .report (.canceled fiveUnits)]
    let late := steadyDesk.moves (cancelledMoves ++ [.report fiveUnitsAck])
    let isOpen (d : Desk ScriptedJournal ScriptedRouter) := (d.tracked.find? fiveUnits.orderId).map (·.isOpen)
    let opens (d : Desk ScriptedJournal ScriptedRouter) :=
      (Replay.ofRecords (numbered d.journaled)).map fun s => (s.openOrders ⟨"A"⟩).map (·.orderId)
    (∀ d ∈ [accepted, acknowledged, reopened, late], Unrefused d.trace) ∧
      isOpen accepted = some false ∧ isOpen acknowledged = some false ∧
      (isOpen reopened = none ∧ opens reopened = .ok [fiveUnits.orderId]) ∧
      (isOpen late = some true ∧ opens late = .ok [fiveUnits.orderId]) := by
  decide +kernel

end Desk

end Blotter
