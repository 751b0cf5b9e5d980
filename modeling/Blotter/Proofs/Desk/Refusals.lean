import Mathlib
import Blotter.Proofs.Desk.Replaying
import Blotter.Proofs.Desk.Requests

/-!
# New orders that are refused

A desk refuses a new order when no orders flow, when it does not know the strategy, when a gate of the journal is
closed or when a stage vetoes it. Nothing is tracked then, but the reject is journaled, and a replay takes it for a
snapshot of the order.

- A refused order leaves the tracked orders alone, and of the open orders in a replay of the journal it takes away the
  one of its own name, if there is one and if the reject was journaled; no other one changes
  (`Desk.openOrders_of_refused`).
- So an order that is alive, tracked and open in the journal is lost to a later recovery when a strategy sends another
  order of the same name that is refused (`Desk.refusal_closes`).
-/

namespace Blotter

open DeskAction DeskOp

namespace Request

variable {ω ρ σ : Type} {d : Desk ω ρ σ} {o p : Order} {e : Event}

/-- The only snapshot that is journaled of a request which comes to nothing is that of the reject. -/
theorem Aside.snapshot (h : (Request.send o).Aside d e) (snapshot : e.snapshot? = some p) :
    p.orderId = o.orderId ∧ p.isOpen = false ∧ ∃ r, e = .orderReject (o.withStatus .rejected d.now) r := by
  rcases h with ⟨command, rfl⟩ | ⟨o', r, same, rfl⟩
  · cases snapshot
  · cases same
    obtain rfl := Option.some.inj snapshot
    exact ⟨rfl, rfl, r, rfl⟩

end Request

namespace Desk

section Refusals

variable {ω ρ σ : Type} [JournalAccess ω] [Router ρ] [StageKind σ] {d d' : Desk ω ρ σ} {o : Order}
  {e : Option (Failure DeskError)}

/-- A new order that is refused is not put to the router, and nothing is tracked or untracked. Its reject is journaled,
if the call does not fail; then a replay of the journal has the open orders that it had before, except the one of the
same name. -/
theorem openOrders_of_refused (refused : ¬(Request.send o).Granted d) (asked : d.ask (.send o) = (e, d')) :
    d'.tracked = d.tracked ∧ ∃ actions, d'.trace = d.trace ++ actions ∧ Quiet actions ∧
      (e = none → ∃ r, .orderReject (o.withStatus .rejected d.now) r ∈ events actions) ∧
      ∀ rs s rs', Replay.ofRecords rs = .ok s → Adds rs (events actions) rs' →
        ∃ s', Replay.ofRecords rs' = .ok s' ∧ ∀ account q, q ∈ s'.openOrders account ↔
          q ∈ s.openOrders account ∧
            (q.orderId = o.orderId → ∀ r, .orderReject (o.withStatus .rejected d.now) r ∉ events actions) := by
  have way := d.ask_cases (.send o)
  rw [asked] at way
  cases way with
  | declined granted => exact absurd granted refused
  | settled granted => exact absurd granted refused
  | lost granted => exact absurd granted refused
  | @held _ _ _ _ actions quiet fruitless =>
    refine ⟨rfl, actions, rfl, quiet, fruitless.rejected o rfl, ?_⟩
    intro rs s rs' replayed added
    obtain ⟨s', replayed'⟩ := Replay.exists_replay_of_adds replayed added
      fun ev hev => (fruitless.aside ev hev).unfilled
    refine ⟨s', replayed', ?_⟩
    intro account q
    rw [Replay.mem_openOrders_iff (Replay.wellFormed_of_ofRecords replayed'),
      Replay.mem_openOrders_iff (Replay.wellFormed_of_ofRecords replayed),
      Replay.latest?_of_adds replayed added replayed']
    cases last : lastSnapshot? q.orderId (events actions) with
    | none =>
      have unrejected : q.orderId = o.orderId →
          ∀ r, .orderReject (o.withStatus .rejected d.now) r ∉ events actions := by
        intro same r hr
        have nothing := lastSnapshot?_eq_none_iff.mp last _ hr
        simp [snapshotOf?, Event.snapshot?, Order.withStatus, same] at nothing
      rw [Option.none_or, and_iff_left unrejected]
    | some p =>
      obtain ⟨ev, hev, snapshot, name⟩ := exists_of_lastSnapshot? last
      obtain ⟨same, closed, r, rfl⟩ := (fruitless.aside ev hev).snapshot snapshot
      constructor
      · rintro ⟨latest, -, isOpen⟩
        obtain rfl : p = q := Option.some.inj latest
        exact absurd isOpen (by simp [closed])
      · rintro ⟨-, unrejected⟩
        exact absurd hev (unrejected (name.symm.trans same) r)

end Refusals

/-! ## An order of the same name -/

/-- A desk that tracks an order of five units while the journal is full. -/
def fullDesk : Desk ScriptedJournal ScriptedRouter :=
  { (shortDesk 2).track fiveUnits with journal := { fileFull := true } }

theorem openOrders_of_refused_fullDesk : ∃ e d' actions s', fullDesk.ask (.send fiveUnits) = (e, d') ∧
    d'.trace = fullDesk.trace ++ actions ∧
    Replay.ofRecords (numbered ([.order fiveUnits] ++ events actions)) = .ok s' ∧
    d'.tracked.find? fiveUnits.orderId = some fiveUnits ∧ fiveUnits ∉ s'.openOrders ⟨"A"⟩ := by
  have refused : ¬(Request.send fiveUnits).Granted fullDesk := by
    rintro ⟨-, -, admits, -⟩
    exact absurd admits.1 (by decide)
  have done : (fullDesk.ask (.send fiveUnits)).1 = none := by decide +kernel
  rcases asked : fullDesk.ask (.send fiveUnits) with ⟨e, d'⟩
  rw [asked] at done
  obtain ⟨tracked, actions, trace, -, rejected, replays⟩ := openOrders_of_refused refused asked
  obtain ⟨r, hr⟩ := rejected done
  obtain ⟨s, before⟩ : ∃ s, Replay.ofRecords (numbered [.order fiveUnits]) = .ok s := ⟨_, rfl⟩
  obtain ⟨s', after, opens⟩ := replays _ s _ before (adds_numbered _ _)
  refine ⟨e, d', actions, s', rfl, trace, after, ?_, ?_⟩
  · rw [tracked]
    decide +kernel
  · rw [opens]
    rintro ⟨-, unrejected⟩
    exact unrejected rfl r hr

/-- A gate that is closed and a stage that vetoes an order take the tracked order of the same name out of the open
orders of a replay. -/
theorem refusal_closes :
    let vetoing : Desk ScriptedJournal ScriptedRouter :=
      { (shortDesk 2).track fiveUnits with chain := ⟨[.quantityLimit (units 4 (by decide))], {}⟩ }
    let unadmitted := fullDesk.ask (.send fiveUnits)
    let vetoed := vetoing.ask (.send fiveUnits)
    let opens (es : List Event) := (Replay.ofRecords (numbered es)).map fun s => s.openOrders ⟨"A"⟩
    opens [.order fiveUnits] = .ok [fiveUnits] ∧
      (unadmitted.1 = none ∧ unadmitted.2.tracked.find? fiveUnits.orderId = some fiveUnits ∧
        opens (.order fiveUnits :: unadmitted.2.journaled) = .ok []) ∧
      (vetoed.1 = none ∧ vetoed.2.tracked.find? fiveUnits.orderId = some fiveUnits ∧
        opens (.order fiveUnits :: vetoed.2.journaled) = .ok []) := by
  decide +kernel

end Desk

end Blotter
