import Mathlib
import Blotter.Proofs.Desk.Replaying
import Blotter.Proofs.Desk.Turns

/-!
# Executions that count

A fill counts if its order is tracked when the report of it comes; otherwise the report is refused and nothing of it
remains. Which orders are tracked is a matter of the reports before: an order that was cancelled while a fill of it was
on its way is tracked no longer.

- The fills in the journal are those that have counted (`Desk.filterMap_fill?_journaled`).
- So the recovered quantity of each position is the sum of the distinct executions that have counted, and those that
  have not are fills of orders that no longer stood (`Desk.recovered_eq_net`). A fill that crosses with the cancel of
  its order is lost (`Desk.late_fill_lost`).
-/

namespace Blotter

open DeskAction DeskOp

/-- The fill that a move reports. -/
def Move.fill? {ω ρ : Type} : Move ω ρ → Option Fill
  | .report (.fill f) => some f
  | .register _ | .world _ _ _ | .start _ | .ask _ | .report (.ack _) | .report (.reject _ _)
  | .report (.canceled _) | .stop => none

namespace Desk

section Executions

variable {ω ρ σ : Type} [JournalAccess ω] [Router ρ] [StageKind σ] {d : Desk ω ρ σ} {m : Move ω ρ}
  {ms : List (Move ω ρ)}

/-- The fill that a move reports, if its order is tracked. -/
def executed (d : Desk ω ρ σ) (m : Move ω ρ) : List Fill :=
  (m.fill?.filter fun f => (d.tracked.find? f.orderId).isSome).toList

/-- The fills that moves report of orders that are tracked when the report comes. -/
def executions (d : Desk ω ρ σ) : List (Move ω ρ) → List Fill
  | [] => []
  | m :: ms => d.executed m ++ (d.move m).executions ms

theorem executions_append (d : Desk ω ρ σ) (ms ms' : List (Move ω ρ)) :
    d.executions (ms ++ ms') = d.executions ms ++ (d.moves ms).executions ms' := by
  induction ms generalizing d with
  | nil => rfl
  | cons m ms ih =>
    rw [List.cons_append, executions, executions, ih, List.append_assoc]
    rfl

/-- Whether a fill that is reported is one of a known strategy and can be added to what is filled of its order. -/
def Countable (d : Desk ω ρ σ) : Move ω ρ → Prop
  | .report (.fill f) => d.knows f.strategy = true ∧
      ∀ o ∈ d.tracked.find? f.orderId, (o.applyFill f.quantity f.price d.now).isOk = true
  | .register _ | .world _ _ _ | .start _ | .ask _ | .report (.ack _) | .report (.reject _ _)
  | .report (.canceled _) | .stop => True

/-- Whether all fills that are reported are countable when the report comes. -/
def AllCountable (d : Desk ω ρ σ) : List (Move ω ρ) → Prop
  | [] => True
  | m :: ms => d.Countable m ∧ (d.move m).AllCountable ms

instance (d : Desk ω ρ σ) : (m : Move ω ρ) → Decidable (d.Countable m)
  | .report (.fill f) => inferInstanceAs <| Decidable <| d.knows f.strategy = true ∧
      ∀ o ∈ d.tracked.find? f.orderId, (o.applyFill f.quantity f.price d.now).isOk = true
  | .register _ | .world _ _ _ | .start _ | .ask _ | .report (.ack _) | .report (.reject _ _)
  | .report (.canceled _) | .stop => .isTrue trivial

instance decidableAllCountable : (d : Desk ω ρ σ) → (ms : List (Move ω ρ)) → Decidable (d.AllCountable ms)
  | _, [] => .isTrue trivial
  | d, m :: ms =>
    have : Decidable ((d.move m).AllCountable ms) := decidableAllCountable (d.move m) ms
    inferInstanceAs (Decidable (d.Countable m ∧ (d.move m).AllCountable ms))

omit [JournalAccess ω] [Router ρ] [StageKind σ] in
/-- Of a report only the fill is journaled as a fill. -/
theorem filterMap_fill?_dispatch {report : ExecutionReport} {x : Dispatch} (dispatched : d.dispatch report = .ok x)
    (countable : d.Countable (.report report)) :
    (if d.knows x.strategy then x.events else []).filterMap Event.fill? = d.executed (.report report) := by
  cases report with
  | ack o =>
    cases dispatched
    simp only
    split
    · rfl
    · rfl
  | reject o r =>
    cases dispatched
    simp only
    split
    · rfl
    · rfl
  | canceled o =>
    cases dispatched
    simp only
    split
    · rfl
    · rfl
  | fill f =>
    obtain ⟨o, o', found, -, rfl⟩ := dispatch_fill dispatched
    have counts : d.executed (.report (.fill f)) = [f] := by
      simp [executed, Move.fill?, Option.filter, found]
    rw [counts]
    simp only
    rw [if_pos countable.1]
    rfl

/-- The fills that a move journals are those that count. -/
theorem filterMap_fill?_turn {tracked : Table OrderId Order} {es : List Event} (turn : Turn d m tracked es)
    (countable : d.Countable m) : es.filterMap Event.fill? = d.executed m := by
  cases turn with
  | idle unasked unreported _ commands =>
    have none : es.filterMap Event.fill? = [] := by
      rw [List.filterMap_eq_nil_iff]
      intro e he
      obtain ⟨command, rfl⟩ := commands e he
      rfl
    rw [none]
    cases m with
    | report report => exact absurd rfl (unreported report)
    | _ => rfl
  | started => rfl
  | declined _ aside =>
    show _ = []
    rw [List.filterMap_eq_nil_iff]
    intro e he
    exact (aside e he).unfilled
  | accepted => rfl
  | @ignored report e failed =>
    cases report with
    | ack o => cases failed
    | reject o r => cases failed
    | canceled o => cases failed
    | fill f =>
      cases found : d.tracked.find? f.orderId with
      | none => simp [executed, Move.fill?, Option.filter, found]
      | some o =>
        have counted := countable.2 o found
        rw [Desk.dispatch, found] at failed
        simp only at failed
        split at failed
        · rename_i overflow
          rw [overflow] at counted
          cases counted
        · cases failed
  | reported dispatched => exact filterMap_fill?_dispatch dispatched countable

/-- The fills that a run journals are those that count. -/
theorem filterMap_fill?_journaled (unrefused : Unrefused (d.moves ms).trace) (countable : d.AllCountable ms) :
    (d.moves ms).journaled.filterMap Event.fill? = d.journaled.filterMap Event.fill? ++ d.executions ms := by
  induction ms generalizing d with
  | nil => exact (List.append_nil _).symm
  | cons m ms ih =>
    obtain ⟨first, later⟩ := countable
    have quiet := (unrefused_of_move (unrefused_of_moves ms unrefused)).2
    have rest := ih unrefused later
    rw [journaled_move, List.filterMap_append, filterMap_fill?_turn (d.turn m quiet) first] at rest
    rw [executions, ← List.append_assoc]
    exact rest

omit [Router ρ] [StageKind σ] in
/-- A fill is refused if its order is not tracked, and that is all. -/
theorem onReport_untracked {f : Fill} (untracked : d.tracked.find? f.orderId = none) :
    (onReport (.fill f)).run d = .error (.reported (.unknownOrder f.orderId)) d := by
  rw [onReport_run, dispatch, untracked]

/-- In a run of a new desk on a journal that refuses nothing, the quantity of each position that is recovered from the
journal is the sum of the distinct executions among the fills before the run and those of the run that count. A fill of
the run counts if its order stands when the report comes; otherwise it is refused and changes nothing. -/
theorem recovered_eq_net {account : AccountId} {settings : DeskSettings} {journal : ω} {chain : Chain ρ σ}
    {now : Instant} {rs₀ rs : List Record} {s₀ s : Replay} (isNew : d = new account settings journal chain now)
    (unrefused : Unrefused (d.moves ms).trace) (countable : d.AllCountable ms)
    (replayed₀ : Replay.ofRecords rs₀ = .ok s₀) (added : Adds rs₀ (d.moves ms).journaled rs)
    (replayed : Replay.ofRecords rs = .ok s) (exact : Replay.AllSumExactly .empty rs) :
    let fills := Fill.distinct (s₀.fills ++ d.executions ms)
    (∀ k, (s.position k).quantity.toRat = Fill.net k fills) ∧
      (∀ p ∈ s.openPositions account, p.account = account ∧ p.quantity.toRat = Fill.net p.key fills) ∧
      (∀ k, k.account = account → Fill.net k fills ≠ 0 → ∃ p ∈ s.openPositions account, p.key = k) ∧
      ∀ before f after, ms = before ++ .report (.fill f) :: after →
        (Standing f.orderId d before ∧ f ∈ d.executions ms) ∨
          ¬Standing f.orderId d before ∧ (onReport (.fill f)).run (d.moves before) =
            .error (.reported (.unknownOrder f.orderId)) (d.moves before) := by
  intro fills
  have known : s.fills = fills := by
    rw [Replay.fills_of_adds replayed₀ added replayed, filterMap_fill?_journaled unrefused countable]
    have fresh : d.journaled = [] := by rw [isNew]; rfl
    rw [fresh, List.filterMap_nil, List.nil_append]
    show _ = (s₀.fills ++ d.executions ms).foldl Fill.keep []
    -- the fills from before the run are distinct as they are
    rw [List.foldl_append]
    congr 1
    exact (Fill.distinct_of_nodup (Replay.nodup_execIds replayed₀)).symm
  have booked := Replay.booked_of_ofRecords exact replayed
  have positions := booked.openPositions account
  have quantity := booked.quantity
  rw [known] at positions quantity
  refine ⟨quantity, positions.1, positions.2, ?_⟩
  rintro before f after rfl
  have quiet : Unrefused (d.moves before).trace := by
    refine unrefused_of_moves (.report (.fill f) :: after) ?_
    rw [moves, moves, ← List.foldl_append]
    exact unrefused
  rw [← tracked_iff_standing (by rw [isNew]; rfl) quiet]
  cases found : (d.moves before).tracked.find? f.orderId with
  | none => exact .inr ⟨by simp, onReport_untracked found⟩
  | some o =>
    refine .inl ⟨rfl, ?_⟩
    simp [executions_append, executions, executed, Move.fill?, Option.filter, found]

end Executions

/-! ## A fill that crosses with a cancel -/

/-- A fill of one of five units. -/
def lateUnit : Fill := .ofOrder fiveUnits ⟨"e2"⟩ (units 1 (by decide)) (units 1 Decimal.one_lt_limit) .epoch

/-- A run in which an order of five units is filled in part and cancelled; the fill is reported twice, and a second one
after the cancel. -/
def crossingMoves : List (Move ScriptedJournal ScriptedRouter) :=
  [.register ⟨"S"⟩, .start (.ofReplay .empty), .ask (.send fiveUnits), .report fiveUnitsAck, .report (.fill twoUnits),
    .report (.fill twoUnits), .report (.canceled (fiveUnits.withStatus .canceled .epoch)), .report (.fill lateUnit)]

theorem recovered_eq_net_crossingMoves : ∃ s,
    Replay.ofRecords (numbered (steadyDesk.moves crossingMoves).journaled) = .ok s ∧
    (s.position twoUnits.positionKey).quantity.toRat = 2 ∧
    ¬Standing lateUnit.orderId steadyDesk (crossingMoves.take 7) := by
  have split : crossingMoves = crossingMoves.take 7 ++ .report (.fill lateUnit) :: [] := rfl
  -- the run stays a variable: only the decisions below evaluate it
  generalize same : crossingMoves = ms at split ⊢
  have isNew : steadyDesk = new ⟨"A"⟩ {} {} ⟨[], {}⟩ .epoch := rfl
  have unrefused : Unrefused (steadyDesk.moves ms).trace := by
    rw [← same]
    decide +kernel
  have countable : steadyDesk.AllCountable ms := by
    rw [← same]
    decide +kernel
  have exact : Replay.AllSumExactly .empty (numbered (steadyDesk.moves ms).journaled) := by
    rw [← same]
    decide +kernel
  have sum : Fill.net twoUnits.positionKey (Fill.distinct (Replay.empty.fills ++ steadyDesk.executions ms)) = 2 := by
    rw [← same]
    decide +kernel
  have uncounted : lateUnit ∉ steadyDesk.executions ms := by
    rw [← same]
    decide +kernel
  have ok : (Replay.ofRecords (numbered (steadyDesk.moves ms).journaled)).isOk = true := by
    rw [← same]
    decide +kernel
  obtain ⟨s, replayed⟩ := exists_of_isOk ok
  obtain ⟨quantity, -, -, counts⟩ := recovered_eq_net isNew unrefused countable Replay.ofRecords_nil
    (adds_numbered_nil _) replayed exact
  refine ⟨s, replayed, (quantity _).trans sum, ?_⟩
  rcases counts (ms.take 7) lateUnit [] split with ⟨-, counted⟩ | ⟨fallen, -⟩
  · exact absurd counted uncounted
  · exact fallen

/-- The executions that are reported come to three units, but two are recovered. -/
theorem late_fill_lost :
    let d := steadyDesk.moves crossingMoves
    Unrefused d.trace ∧
      Fill.net twoUnits.positionKey (Fill.distinct (crossingMoves.filterMap Move.fill?)) = 3 ∧
      (Replay.ofRecords (numbered d.journaled)).toOption.map
        (fun s => (s.position twoUnits.positionKey).quantity.toRat) = some 2 := by
  decide +kernel

end Desk

end Blotter
