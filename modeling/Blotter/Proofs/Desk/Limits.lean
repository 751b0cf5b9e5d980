import Mathlib
import Blotter.Proofs.Decimal.Value
import Blotter.Proofs.Desk.Turns

/-!
# Quantities on the way to the exchange

The settings of a desk name the largest quantity of an order. A stage looks at it when a new order is sent; a change of
an order does not pass the stages.

- The stage lets only positive quantities up to the limit pass (`Stage.within_of_check`), and it stays among the stages
  in every run (`Desk.quantityLimit_mem_moves`).
- So every order that is sent to the exchange has a positive quantity up to the limit. A change is put to the exchange
  whatever its quantity, if the desk is ready, the order is tracked and the journal takes the command
  (`Desk.quantities_routed`): an order can be changed to any quantity once it has been checked
  (`Desk.changed_beyond_limit`).
-/

namespace Blotter

open DeskAction DeskOp

/-! ## The stage -/

namespace Stage

variable {most : Decimal} {o : Order} {now : Int}

/-- An order that the stage lets pass has a positive quantity up to the limit. -/
theorem within_of_check (passed : (StageKind.check (quantityLimit most) o now).1 = none) :
    0 < o.quantity.toRat ∧ o.quantity.toRat ≤ most.toRat := by
  have passed : ((quantityLimit most).check o now).1 = none := Option.map_eq_none_iff.mp passed
  unfold Stage.check at passed
  simp only at passed
  split at passed
  · cases passed
  · rename_i positive
    split at passed
    · cases passed
    · rename_i below
      rw [Decimal.le_iff, Decimal.toRat_zero, not_le] at positive
      rw [Decimal.lt_iff, not_lt] at below
      exact ⟨positive, below⟩

/-- The stage does not change. -/
theorem check_quantityLimit (most : Decimal) (o : Order) (now : Int) :
    (StageKind.check (quantityLimit most) o now).2 = quantityLimit most := by
  show ((quantityLimit most).check o now).2 = quantityLimit most
  unfold Stage.check
  simp only
  split
  · rfl
  · split
    · rfl
    · rfl

/-- A check of all stages leaves the stage among them. -/
theorem quantityLimit_mem_checkAll {stages : List Stage} (h : quantityLimit most ∈ stages) :
    quantityLimit most ∈ (StageKind.checkAll o now stages).2 := by
  induction stages with
  | nil => cases h
  | cons s rest ih =>
    rw [StageKind.checkAll]
    rcases checked : StageKind.check s o now with ⟨reason, s'⟩
    have same : s = quantityLimit most → s' = quantityLimit most := by
      rintro rfl
      have kept := check_quantityLimit most o now
      rwa [checked] at kept
    cases reason with
    | some reason =>
      rcases List.mem_cons.mp h with first | later
      · exact List.mem_cons.mpr (.inl (same first.symm).symm)
      · exact List.mem_cons_of_mem _ later
    | none =>
      rcases List.mem_cons.mp h with first | later
      · exact List.mem_cons.mpr (.inl (same first.symm).symm)
      · exact List.mem_cons_of_mem _ (ih later)

end Stage

namespace Desk

section Stages

variable {ω ρ σ : Type} [JournalAccess ω] [Router ρ] [StageKind σ]

/-- A move leaves the stages as they are, or as they are after a check of the order that it sends. -/
theorem stages_move (d : Desk ω ρ σ) (m : Move ω ρ) : (d.move m).chain.stages = d.chain.stages ∨
    ∃ o, m = .ask (.send o) ∧ (d.move m).chain.stages = d.chain.checked o d.now := by
  cases m with
  | register strategy =>
    rw [Desk.move, Desk.register]
    split
    · exact .inl rfl
    · exact .inl rfl
  | world now journal router => exact .inl rfl
  | start reader =>
    rw [Desk.move]
    rcases d.start_cases reader with ⟨e, failed⟩ | ⟨report, orders, c, actions, -, started, -, -, stages⟩
    · rw [failed]
      exact .inl rfl
    · rw [started]
      exact .inl stages
  | ask q =>
    have staged {c : Chain ρ σ} (staged : q.Staged d c) : c.stages = d.chain.stages ∨
        ∃ o, Move.ask q = (.ask (.send o) : Move ω ρ) ∧ c.stages = d.chain.checked o d.now := by
      rcases staged with same | ⟨o, rfl, checked⟩
      · exact .inl same
      · exact .inr ⟨o, rfl, checked⟩
    have way := d.ask_cases q
    rw [Desk.move]
    generalize d.ask q = result at way
    cases way with
    | held _ fruitless => exact staged fruitless.staged
    | declined _ _ _ _ fruitless => exact staged fruitless.staged
    | settled _ _ _ checked => exact staged checked
    | lost _ _ _ checked => exact staged checked
  | report report =>
    rw [Desk.move, Desk.onReport_run]
    cases dispatched : d.dispatch report with
    | error e => exact .inl rfl
    | ok x =>
      obtain ⟨e, j, actions, left, -⟩ := deliver_quiet { d with tracked := x.tracked } x.strategy x.events x.callback
      simp only
      rw [left]
      exact .inl rfl
  | stop =>
    obtain ⟨report, j, c, actions, stopped, drains⟩ := d.stop_run
    rw [Desk.move, stopped]
    exact .inl drains.stages

/-! ## Changes -/

/-- Whether a desk puts a change of an order to the router. -/
def Changes (d : Desk ω ρ σ) (orderId : OrderId) (quantity : Decimal) (limitPrice : Option Decimal) : Prop :=
  d.ready = true ∧ d.Admits ∧
    ∃ o, d.tracked.find? orderId = some o ∧ d.Takes (.command (.modify o quantity limitPrice d.now))

variable {d : Desk ω ρ σ} {orderId : OrderId} {quantity : Decimal} {limitPrice : Option Decimal}

/-- A desk that is asked for a change puts it to the router if it takes it on. -/
theorem modify_mem_actions_ask : .route (.modify orderId quantity limitPrice) ∈
    d.actions (.ask (.modify orderId quantity limitPrice)) ↔ d.Changes orderId quantity limitPrice := by
  let q : Request := .modify orderId quantity limitPrice
  have changes {command : Command} (granted : q.Granted d) (commanded : q.command? d = some command)
      (takes : d.Takes (.command command)) : d.Changes orderId quantity limitPrice := by
    obtain ⟨o, found, rfl⟩ := Option.map_eq_some_iff.mp commanded
    exact ⟨granted.1, granted.2, o, found, takes⟩
  have trace := d.trace_move (.ask q)
  have way := d.ask_cases q
  rw [Desk.move] at trace
  show .route q.call ∈ d.actions (.ask q) ↔ _
  generalize d.ask q = result at way trace
  cases way with
  | held quiet _ unheard =>
    rw [← List.append_cancel_left trace]
    constructor
    · intro routed
      exact (quiet _ routed).elim
    · rintro ⟨ready, admits, o, found, takes⟩
      have commanded : q.command? d = some (.modify o quantity limitPrice d.now) :=
        Option.map_eq_some_iff.mpr ⟨o, found, rfl⟩
      exact absurd takes (unheard ⟨ready, admits⟩ _ commanded).2
  | declined granted commanded _ _ _ takes =>
    rw [← List.append_cancel_left trace]
    exact ⟨fun _ => changes granted commanded takes, fun _ => by simp⟩
  | settled granted commanded _ _ takes =>
    rw [← List.append_cancel_left trace]
    exact ⟨fun _ => changes granted commanded takes, fun _ => by simp⟩
  | lost granted commanded _ _ takes =>
    rw [← List.append_cancel_left trace]
    exact ⟨fun _ => changes granted commanded takes, fun _ => by simp⟩

/-- A change is put to the router in a move that asks for it, if the desk takes it on. -/
theorem modify_mem_actions (keyed : Keyed d.tracked) (m : Move ω ρ) :
    .route (.modify orderId quantity limitPrice) ∈ d.actions m ↔
      m = .ask (.modify orderId quantity limitPrice) ∧ d.Changes orderId quantity limitPrice := by
  constructor
  · intro routed
    obtain ⟨done, later, split⟩ := List.append_of_mem routed
    obtain ⟨rfl, -⟩ := allPermitted_actions keyed m done _ later split
    exact ⟨rfl, modify_mem_actions_ask.mp routed⟩
  · rintro ⟨rfl, changes⟩
    exact modify_mem_actions_ask.mpr changes

end Stages

/-! ## Runs -/

section Runs

variable {ω ρ : Type} [JournalAccess ω] [Router ρ] {d : Desk ω ρ} {most : Decimal}

theorem quantityLimit_mem_moves (limited : .quantityLimit most ∈ d.chain.stages) (ms : List (Move ω ρ)) :
    .quantityLimit most ∈ (d.moves ms).chain.stages := by
  induction ms using List.reverseRecOn with
  | nil => exact limited
  | append_singleton ms m ih =>
    rw [moves_concat]
    rcases stages_move (d.moves ms) m with same | ⟨o, -, checked⟩
    · rw [same]
      exact ih
    · rw [checked]
      exact Stage.quantityLimit_mem_checkAll ih

/-- In every run of a new desk with the stages that its settings ask for, an order that is sent to the exchange has a
positive quantity up to the limit. A change is put to the exchange in the moves that ask for it and that the desk takes
on, and its quantity has no part in that. -/
theorem quantities_routed (account : AccountId) (settings : DeskSettings) (journal : ω) (router : ρ) (now : Instant)
    (ms : List (Move ω ρ)) :
    let d : Desk ω ρ := new account settings journal (Chain.ofSettings router settings) now
    (∀ o, .route (.send o) ∈ (d.moves ms).trace →
      0 < o.quantity.toRat ∧ o.quantity.toRat ≤ settings.maxOrderQuantity.toRat) ∧
    ∀ orderId quantity limitPrice, .route (.modify orderId quantity limitPrice) ∈ (d.moves ms).trace ↔
      ∃ before after, ms = before ++ .ask (.modify orderId quantity limitPrice) :: after ∧
        (d.moves before).Changes orderId quantity limitPrice := by
  intro d
  have keyed (before : List (Move ω ρ)) : Keyed (d.moves before).tracked := moves_keyed .empty before
  have begins (action : DeskAction) : action ∉ d.trace := List.not_mem_nil
  constructor
  · intro o routed
    rcases mem_trace_moves.mp routed with old | ⟨before, m, after, rfl, new⟩
    · exact absurd old (begins _)
    · have limited : .quantityLimit settings.maxOrderQuantity ∈ (d.moves before).chain.stages :=
        quantityLimit_mem_moves (List.mem_cons_self ..) before
      obtain ⟨done, later, split⟩ := List.append_of_mem new
      obtain ⟨-, -, -, -, passes, -⟩ := allPermitted_actions (keyed before) m done _ later split
      exact Stage.within_of_check (passes _ limited)
  · intro orderId quantity limitPrice
    rw [mem_trace_moves]
    constructor
    · rintro (old | ⟨before, m, after, rfl, new⟩)
      · exact absurd old (begins _)
      · obtain ⟨rfl, changes⟩ := (modify_mem_actions (keyed before) m).mp new
        exact ⟨before, after, rfl, changes⟩
    · rintro ⟨before, after, rfl, changes⟩
      exact .inr ⟨before, _, after, rfl, (modify_mem_actions (keyed before) _).mpr ⟨rfl, changes⟩⟩

end Runs

/-- A run in which an order of five units is sent and then changed to a thousand units and to none. -/
def growingMoves : List (Move ScriptedJournal ScriptedRouter) :=
  [.register ⟨"S"⟩, .start (.ofReplay .empty), .ask (.send fiveUnits),
    .ask (.modify fiveUnits.orderId (units 1000 (by decide)) none),
    .ask (.modify fiveUnits.orderId (units 0 (by decide)) none)]

/-- With a limit of ten units, quantities above the limit and quantities of zero reach the router. -/
theorem changed_beyond_limit :
    let settings : DeskSettings := { maxOrderQuantity := units 10 (by decide) }
    let d : Desk ScriptedJournal ScriptedRouter := new ⟨"A"⟩ settings {} (Chain.ofSettings {} settings) .epoch
    let most := units 1000 (by decide)
    let least := units 0 (by decide)
    (.route (.modify fiveUnits.orderId most none) ∈ (d.moves growingMoves).trace ∧
      ¬most.toRat ≤ settings.maxOrderQuantity.toRat) ∧
    (.route (.modify fiveUnits.orderId least none) ∈ (d.moves growingMoves).trace ∧ ¬0 < least.toRat) := by
  decide +kernel

end Desk

end Blotter
