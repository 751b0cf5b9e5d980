import Mathlib
import Blotter.Proofs.Desk.Actions

/-!
# How a desk recovers its state

A start looks at everything before it does anything: at the state of the journal, at both answers of the reader, and at
the strategies of all orders and of all positions that are held (`Desk.Recovers`). If anything stands against it, then
nothing has happened. Otherwise the orders are rebuilt one after the other and the positions after them, and the desk
afterwards is known in full (`Desk.recovered`).

- Of these two ways a start goes one (`start_run_cases`), so it succeeds exactly when nothing stands against it
  (`start_fails_closed`).
- A start asks the router for nothing but to keep orders in mind, journals nothing and sets no stage in motion
  (`start_cases`).
-/

namespace Blotter

open DeskAction DeskOp

variable {ω ρ σ : Type}

/-- The router after it was asked to keep some orders in mind. -/
def Router.restoreAll [Router ρ] (orders : List Order) (r : ρ) : ρ := orders.foldl (fun r o => restore o r) r

namespace Desk

/-- The positions in which something is held. -/
def held (positions : List Position) : List Position := positions.filter (!·.isFlat)

/-- Whether nothing stands against a start for which the reader finds such orders and positions. -/
structure Recovers [JournalAccess ω] (d : Desk ω ρ σ) (reader : RecoveryReader) (orders : List Order)
    (positions : List Position) : Prop where
  started : JournalAccess.state d.journal = .started
  readsOrders : reader.openOrders d.account = .ok orders
  readsPositions : reader.openPositions d.account = .ok positions
  ownsOrders : ∀ o ∈ orders, d.knows o.strategy = true
  ownsPositions : ∀ p ∈ positions, p.isFlat = false → d.knows p.strategy = true

/-- What is done to rebuild an order. -/
def rebuildingOrder (o : Order) : List DeskAction := [.tell o.strategy (.rebuildOrder o), .route (.restore o)]

/-- What is done to rebuild a position. -/
def rebuildingPosition (p : Position) : List DeskAction := [.tell p.strategy (.rebuildPosition p)]

/-- The desk after orders and then positions are rebuilt. -/
def rebuilt [Router ρ] (d : Desk ω ρ σ) (orders : List Order) (positions : List Position) : Desk ω ρ σ :=
  { d with
    tracked := trackAll d.tracked orders
    chain := { d.chain with router := Router.restoreAll orders d.chain.router }
    trace := d.trace ++ (orders.flatMap rebuildingOrder ++ positions.flatMap rebuildingPosition) }

/-- The desk after a start that has rebuilt orders and then positions. -/
def recovered [Router ρ] (d : Desk ω ρ σ) (orders : List Order) (positions : List Position) : Desk ω ρ σ :=
  { d.rebuilt orders positions with ready := d.settings.orderFlowEnabled }

theorem mem_held {positions : List Position} {p : Position} :
    p ∈ held positions ↔ p ∈ positions ∧ p.isFlat = false := by
  rw [held, List.mem_filter, Bool.not_eq_true']

theorem ownsPositions_iff {d : Desk ω ρ σ} {positions : List Position} :
    (∀ p ∈ held positions, d.knows p.strategy = true) ↔
      ∀ p ∈ positions, p.isFlat = false → d.knows p.strategy = true := by
  simp only [mem_held, and_imp]

/-! ## Rebuilding -/

section Rebuilding

variable [Router ρ] (d : Desk ω ρ σ)

theorem rebuildOrders_run (orders : List Order) :
    (orders.forM rebuildOrder).run d = .ok () (d.rebuilt orders []) := by
  induction orders generalizing d with
  | nil =>
    unfold rebuilt
    rw [List.forM, List.flatMap_nil, List.flatMap_nil, List.append_nil, List.append_nil]
    rfl
  | cons o orders ih =>
    have first : (rebuildOrder o).run d = .ok () (d.rebuilt [o] []) := by
      have actions : d.trace ++ rebuildingOrder o =
          d.trace ++ [.tell o.strategy (.rebuildOrder o)] ++ [.route (.restore o)] := by simp [rebuildingOrder]
      simp only [rebuilt, List.flatMap_cons, List.flatMap_nil, List.append_nil, actions]
      rfl
    rw [List.forM, bind_ok first, ih]
    simp [rebuilt, trackAll, Router.restoreAll]

theorem rebuildPositions_run (positions : List Position) :
    (positions.forM rebuildPosition).run d = .ok () (d.rebuilt [] positions) := by
  induction positions generalizing d with
  | nil =>
    unfold rebuilt
    rw [List.forM, List.flatMap_nil, List.flatMap_nil, List.append_nil, List.append_nil]
    rfl
  | cons p positions ih =>
    have first : (rebuildPosition p).run d = .ok () (d.rebuilt [] [p]) := rfl
    rw [List.forM, bind_ok first, ih]
    simp [rebuilt, trackAll, Router.restoreAll]

theorem rebuilt_rebuilt (orders : List Order) (positions : List Position) :
    (d.rebuilt orders []).rebuilt [] positions = d.rebuilt orders positions := by
  simp [rebuilt, trackAll, Router.restoreAll]

omit [Router ρ] in
theorem events_rebuilding (orders : List Order) (positions : List Position) :
    events (orders.flatMap rebuildingOrder ++ positions.flatMap rebuildingPosition) = [] := by
  rw [events, List.filterMap_eq_nil_iff]
  intro action done
  rcases List.mem_append.mp done with done | done
  · obtain ⟨o, -, ho⟩ := List.mem_flatMap.mp done
    rcases List.mem_pair.mp ho with rfl | rfl
    · rfl
    · rfl
  · obtain ⟨p, -, hp⟩ := List.mem_flatMap.mp done
    cases List.mem_singleton.mp hp
    rfl

theorem askOnly_rebuilding (orders : List Order) (positions : List Position) :
    AskOnly (∃ o, · = .restore o) (orders.flatMap rebuildingOrder ++ positions.flatMap rebuildingPosition) := by
  refine AskOnly.append ?_ ?_
  · intro call asked
    obtain ⟨o, -, ho⟩ := List.mem_flatMap.mp asked
    rcases List.mem_pair.mp ho with told | restored
    · cases told
    · exact ⟨o, DeskAction.route.inj restored⟩
  · intro call asked
    obtain ⟨p, -, hp⟩ := List.mem_flatMap.mp asked
    cases List.mem_singleton.mp hp

end Rebuilding

/-! ## Starting -/

section Starting

variable [JournalAccess ω] [Router ρ] (d : Desk ω ρ σ) (reader : RecoveryReader)

/-- Nothing stands against a start and everything is rebuilt, or something does and nothing has changed. -/
theorem start_run_cases :
    (∃ orders positions, d.Recovers reader orders positions ∧ (start reader).run d =
      .ok ⟨orders.length, (held positions).length⟩ (d.recovered orders (held positions))) ∨
    (¬∃ orders positions, d.Recovers reader orders positions) ∧
      ∃ e, (start reader).run d = .error (.reported e) d := by
  rw [start, bind_ok (get_run d)]
  by_cases started : JournalAccess.state d.journal = .started
  case neg =>
    rw [if_pos (by simpa using started)]
    exact .inr ⟨fun ⟨_, _, recovers⟩ => started recovers.started, _, rfl⟩
  rw [if_neg (by simpa using started)]
  cases readOrders : reader.openOrders d.account with
  | error e =>
    refine .inr ⟨fun ⟨_, _, recovers⟩ => ?_, _, rfl⟩
    cases readOrders.symm.trans recovers.readsOrders
  | ok orders =>
    rw [bind_ok (ofJournal_run orders d)]
    cases readPositions : reader.openPositions d.account with
    | error e =>
      refine .inr ⟨fun ⟨_, _, recovers⟩ => ?_, _, rfl⟩
      cases readPositions.symm.trans recovers.readsPositions
    | ok positions =>
      rw [bind_ok (ofJournal_run positions d), ← held]
      rcases needStrategies_run d orders (·.strategy) fun o => .openOrder o.orderId with
        ⟨ownsOrders, found⟩ | ⟨⟨o, listed, unknown⟩, e, failed⟩
      · rw [bind_ok found]
        rcases needStrategies_run d (held positions) (·.strategy) fun p => .position p.instrument with
          ⟨ownsPositions, found⟩ | ⟨⟨p, listed, unknown⟩, e, failed⟩
        · have owned := ownsPositions_iff.mp ownsPositions
          refine .inl ⟨orders, positions, ⟨started, readOrders, readPositions, ownsOrders, owned⟩, ?_⟩
          rw [bind_ok found, bind_ok (rebuildOrders_run d orders), bind_ok (rebuildPositions_run _ _),
            bind_ok (modify_run _ _), rebuilt_rebuilt]
          rfl
        · rw [bind_error failed]
          refine .inr ⟨fun ⟨_, _, recovers⟩ => ?_, _, rfl⟩
          cases readPositions.symm.trans recovers.readsPositions
          exact absurd (unknown.symm.trans (ownsPositions_iff.mpr recovers.ownsPositions p listed)) nofun
      · rw [bind_error failed]
        refine .inr ⟨fun ⟨_, _, recovers⟩ => ?_, _, rfl⟩
        cases readOrders.symm.trans recovers.readsOrders
        exact absurd (unknown.symm.trans (recovers.ownsOrders o listed)) nofun

/-- A start fails and changes nothing, or it tracks the open orders, and orders flow if the settings say so. -/
theorem start_cases : (∃ e, (start reader).run d = .error (.reported e) d) ∨
    ∃ report orders c actions, reader.openOrders d.account = .ok orders ∧
      (start reader).run d = .ok report
        ({ d with tracked := trackAll d.tracked orders, ready := d.settings.orderFlowEnabled }.went d.journal c
          d.metrics actions) ∧
      AskOnly (∃ o, · = .restore o) actions ∧ events actions = [] ∧ c.stages = d.chain.stages := by
  rcases start_run_cases d reader with ⟨orders, positions, recovers, started⟩ | ⟨-, failed⟩
  · exact .inr ⟨_, orders, _, _, recovers.readsOrders, started, askOnly_rebuilding orders _,
      events_rebuilding orders _, rfl⟩
  · exact .inl failed

/-- A start succeeds exactly when the journal is started, both answers of the reader are there, and every order and
every position that is held belongs to a strategy that is registered. A start that fails changes nothing. One that
succeeds rebuilds the orders and then the positions that are held, each in the order of the answers: every order is told
to its strategy, restored at the router and tracked, and every position is told to its strategy. It reports how many
there are, lets orders flow if that is enabled, and changes nothing else. -/
theorem start_fails_closed :
    ((∃ report d', (start reader).run d = .ok report d') ↔ ∃ orders positions, d.Recovers reader orders positions) ∧
    (∀ e d', (start reader).run d = .error e d' → d' = d) ∧
    ∀ report d', (start reader).run d = .ok report d' → ∃ orders positions, d.Recovers reader orders positions ∧
      report = ⟨orders.length, (held positions).length⟩ ∧
      d' = { d with
        ready := d.settings.orderFlowEnabled
        tracked := trackAll d.tracked orders
        chain := { d.chain with router := Router.restoreAll orders d.chain.router }
        trace := d.trace ++ (orders.flatMap rebuildingOrder ++ (held positions).flatMap rebuildingPosition) } := by
  rcases start_run_cases d reader with ⟨orders, positions, recovers, started⟩ | ⟨stands, e, failed⟩
  · refine ⟨⟨fun _ => ⟨orders, positions, recovers⟩, fun _ => ⟨_, _, started⟩⟩, fun e d' failed => ?_, ?_⟩
    · cases started.symm.trans failed
    · intro report d' again
      obtain ⟨rfl, rfl⟩ := EStateM.Result.ok.inj (started.symm.trans again)
      exact ⟨orders, positions, recovers, rfl, rfl⟩
  · refine ⟨⟨?_, fun recovers => absurd recovers stands⟩, fun e' d' again => ?_, fun report d' started => ?_⟩
    · rintro ⟨report, d', started⟩
      cases failed.symm.trans started
    · exact (EStateM.Result.error.inj (failed.symm.trans again)).2.symm
    · cases failed.symm.trans started

end Starting

/-! ## A start on a ledger -/

/-- A desk with a strategy on an empty ledger. -/
def exampleDesk : Desk Ledger ScriptedRouter := (new ⟨"A"⟩ {} ⟨[]⟩ ⟨[], {}⟩ .epoch).register ⟨"S"⟩

/-- A number of units without fraction digits. -/
def units (n : Nat) (h : n < Decimal.limit) : Decimal := ⟨false, n, 0, h, Decimal.zero_le_maxScale⟩

/-- An order at a price of one. -/
def exampleOrder (name : String) (quantity : Decimal) : Order :=
  .limit ⟨name⟩ ⟨"A"⟩ ⟨"S"⟩ ⟨"I"⟩ .buy quantity (units 1 Decimal.one_lt_limit) .epoch

/-- A reader that finds an open order, a position that is held, and one that a strategy which is gone held before. -/
def leftoverReader : RecoveryReader where
  openOrders _ := .ok [exampleOrder "first" (units 6 (by decide))]
  openPositions _ := .ok [⟨⟨"A"⟩, ⟨"S"⟩, ⟨"I"⟩, units 7 (by decide), units 1 Decimal.one_lt_limit⟩,
    .flat ⟨⟨"A"⟩, ⟨"gone"⟩, ⟨"I"⟩⟩]
  fillsOn _ _ := .ok []
  session? _ := .ok none

theorem start_fails_closed_leftoverReader : ∃ d', (start leftoverReader).run exampleDesk = .ok ⟨1, 1⟩ d' ∧
    d'.ready = true ∧ d'.chain.router.calls = [.restore (exampleOrder "first" (units 6 (by decide)))] := by
  obtain ⟨succeeds, -, afterwards⟩ := start_fails_closed exampleDesk leftoverReader
  obtain ⟨report, d', started⟩ := succeeds.mpr ⟨_, _, rfl, rfl, rfl, by decide +kernel, by decide +kernel⟩
  obtain ⟨orders, positions, recovers, rfl, rfl⟩ := afterwards report d' started
  cases recovers.readsOrders
  cases recovers.readsPositions
  exact ⟨_, started, rfl, rfl⟩

end Desk

end Blotter
