import Mathlib
import Blotter.Proofs.Desk.Composing

/-!
# The settings that say what comes first

Whether strategies are told before or after the journal hears of an event makes no difference to a run, except for what
has happened when the journal refuses something. That holds of all that a desk does in one go (`orderly_composes`), so
of every move (`orderly_op`), and so of every run (`Desk.orderings_agree`).
-/

namespace Blotter

open DeskAction DeskOp Desk

variable {ω ρ σ α : Type} {owed : Event → Prop}

namespace DeskOp.Orderly

/-- A strategy is told of something that is not journaled. -/
theorem tell (s : StrategyId) {c : Callback} (unjournaled : c.events = []) :
    Orderly owed (DeskOp.tell s c : DeskOp ω ρ σ Unit) := by
  refine .step (fun _ => .ok ()) id (fun _ => [.tell s c]) (fun _ => rfl) fun d action done => ?_
  rw [List.mem_singleton.mp done]
  exact unjournaled

/-! ## The router -/

/-- The router is asked something. -/
theorem route {x : DeskOp ω ρ σ α} (call : RouterCall) (result : Desk ω ρ σ → α) (c : Desk ω ρ σ → Chain ρ σ)
    (run : ∀ d, x.run d = .ok (result d.erased)
      { d with chain := c d.erased, trace := d.trace ++ [.route call] }) : Orderly owed x := by
  refine .step (fun d => .ok (result d)) (fun d => { d with chain := c d }) (fun _ => [.route call]) run ?_
  intro d action done
  rw [List.mem_singleton.mp done]
  exact trivial

section Router

variable [Router ρ]

/-- The router is asked to send an order unless a stage keeps it back, and then that is counted. -/
theorem send_eq [StageKind σ] (o : Order) (d : Desk ω ρ σ) : (DeskOp.send o).run d =
    .ok (d.chain.send o d.now).1.outcome { d with
      chain := (d.chain.send o d.now).2
      metrics := if (d.chain.send o d.now).1.vetoed then d.metrics.add (.refused .stageVeto) 1 else d.metrics
      trace := d.trace ++ if (d.chain.send o d.now).1.vetoed then [] else [.route (.send o)] } := by
  rw [DeskOp.send, bind_ok (get_run d)]
  obtain ⟨⟨outcome, vetoed⟩, c⟩ := d.chain.send o d.now
  cases vetoed with
  | true => simp only [if_true, List.append_nil]; rfl
  | false => rfl

theorem send [StageKind σ] (o : Order) : Orderly owed (DeskOp.send o : DeskOp ω ρ σ RouteOutcome) := by
  refine .step (fun d => .ok (d.chain.send o d.now).1.outcome)
    (fun d => { d with
      chain := (d.chain.send o d.now).2
      metrics := if (d.chain.send o d.now).1.vetoed then d.metrics.add (.refused .stageVeto) 1 else d.metrics })
    (fun d => if (d.chain.send o d.now).1.vetoed then [] else [.route (.send o)]) (send_eq o) fun d action done => ?_
  split at done
  · cases done
  · rw [List.mem_singleton.mp done]
    exact trivial

theorem cancelAtRouter (orderId : OrderId) :
    Orderly owed (DeskOp.cancelAtRouter orderId : DeskOp ω ρ σ (Except String Unit)) :=
  route _ (fun d => (d.chain.cancel orderId).1) (fun d => (d.chain.cancel orderId).2) fun _ => rfl

theorem modifyAtRouter (orderId : OrderId) (quantity : Decimal) (limitPrice : Option Decimal) :
    Orderly owed (DeskOp.modifyAtRouter orderId quantity limitPrice : DeskOp ω ρ σ (Except String Unit)) :=
  route _ (fun d => (d.chain.modify orderId quantity limitPrice).1)
    (fun d => (d.chain.modify orderId quantity limitPrice).2) fun _ => rfl

theorem restoreAtRouter (o : Order) : Orderly owed (DeskOp.restoreAtRouter o : DeskOp ω ρ σ Unit) :=
  route _ (fun _ => ()) (fun d => d.chain.restore o) fun _ => rfl

theorem openAtRouter : Orderly owed (DeskOp.openAtRouter : DeskOp ω ρ σ (List Order)) :=
  .silent (fun d => .ok d.chain.openOrders.1) (fun d => { d with chain := d.chain.openOrders.2 }) fun _ => rfl

end Router

end DeskOp.Orderly

section Moves

variable [JournalAccess ω] [Router ρ] [StageKind σ]

theorem orderly_composes : Composes owed fun _ (x : DeskOp ω ρ σ _) => Orderly owed x where
  pure := Orderly.pure
  throw := Orderly.throw
  bind := Orderly.bind
  read := Orderly.read
  change {f} silent := by
    refine .silent (fun _ => .ok ()) f fun d => ?_
    rw [modify_run, silent.blind d]
  tell := Orderly.tell
  tryPersist := Orderly.tryPersist
  deliver := Orderly.deliver
  send := Orderly.send
  cancelAtRouter := Orderly.cancelAtRouter
  modifyAtRouter := Orderly.modifyAtRouter
  restoreAtRouter := Orderly.restoreAtRouter
  openAtRouter := Orderly.openAtRouter

theorem orderly_op (m : Move ω ρ) : Orderly m.Owes (m.op : DeskOp ω ρ σ Answer) := by
  by_cases reroutes : m.Reroutes
  · cases m with
    | world now journal router =>
      exact .bind (.silent (fun _ => .ok ())
        (fun d => { d with now, journal, chain := { d.chain with router } }) fun _ => rfl) fun _ => .pure _
    | _ => exact absurd reroutes id
  · exact orderly_composes.op reroutes

namespace Desk

/-- What a desk answers to a move. -/
def answer (d : Desk ω ρ σ) (m : Move ω ρ) : Except (Failure DeskError) Answer :=
  match m.op.run d with
  | .ok a _ => .ok a
  | .error e _ => .error e

/-- What a desk answers to moves, one after the other. -/
def answers (d : Desk ω ρ σ) : List (Move ω ρ) → List (Except (Failure DeskError) Answer)
  | [] => []
  | m :: ms => d.answer m :: (d.move m).answers ms

/-- What moves add to the trace. -/
def done (d : Desk ω ρ σ) (ms : List (Move ω ρ)) : List DeskAction := (d.moves ms).trace.drop d.trace.length

/-- The desk with an ordering in its settings. -/
def under (d : Desk ω ρ σ) (ordering : PersistOrdering) : Desk ω ρ σ :=
  { d with settings := { d.settings with persistOrdering := ordering } }

variable (d : Desk ω ρ σ)

theorem trace_moves (ms : List (Move ω ρ)) : (d.moves ms).trace = d.trace ++ d.done ms := by
  suffices ∃ actions, (d.moves ms).trace = d.trace ++ actions by
    obtain ⟨actions, trace⟩ := this
    rw [done, trace, List.drop_left]
  induction ms using List.reverseRecOn with
  | nil => exact ⟨[], (List.append_nil _).symm⟩
  | append_singleton ms m ih =>
    obtain ⟨actions, trace⟩ := ih
    exact ⟨_, by rw [moves_concat, trace_move, trace, List.append_assoc]⟩

theorem done_cons (m : Move ω ρ) (ms : List (Move ω ρ)) : d.done (m :: ms) = d.actions m ++ (d.move m).done ms := by
  have later : (d.moves (m :: ms)).trace = d.trace ++ (d.actions m ++ (d.move m).done ms) := by
    rw [← List.append_assoc, ← trace_move]
    exact trace_moves (d.move m) ms
  rw [done, later, List.drop_left]

theorem done_concat (ms : List (Move ω ρ)) (m : Move ω ρ) :
    d.done (ms ++ [m]) = d.done ms ++ (d.moves ms).actions m := by
  have later : (d.moves (ms ++ [m])).trace = d.trace ++ (d.done ms ++ (d.moves ms).actions m) := by
    rw [moves_concat, trace_move, trace_moves, List.append_assoc]
  rw [done, later, List.drop_left]

theorem settings_moves (ms : List (Move ω ρ)) : (d.moves ms).settings = d.settings := by
  induction ms using List.reverseRecOn with
  | nil => rfl
  | append_singleton ms m ih => rw [moves_concat, (moved _ m).settings, ih]

variable {d}

/-- Desks that are alike answer a move alike. -/
theorem Alike.move {d' : Desk ω ρ σ} (alike : Alike d d') (m : Move ω ρ) (unrefused : Unrefused (d.actions m)) :
    d'.answer m = d.answer m ∧ Alike (d.move m) (d'.move m) := by
  have trace := d.trace_move m
  rw [move_eq] at trace
  have agree := (orderly_op m).agree d d' _ alike trace unrefused
  rw [move_eq, move_eq, answer, answer]
  generalize m.op.run d = result at agree
  generalize m.op.run d' = result' at agree
  cases agree with
  | ok alike => exact ⟨rfl, alike⟩
  | error alike => exact ⟨rfl, alike⟩

theorem Alike.moves {d' : Desk ω ρ σ} (alike : Alike d d') (ms : List (Move ω ρ)) (unrefused : Unrefused (d.done ms)) :
    d'.answers ms = d.answers ms ∧ Alike (d.moves ms) (d'.moves ms) := by
  induction ms generalizing d d' with
  | nil => exact ⟨rfl, alike⟩
  | cons m ms ih =>
    rw [done_cons] at unrefused
    obtain ⟨answered, moved⟩ := alike.move m unrefused.of_append.1
    obtain ⟨later, final⟩ := ih moved unrefused.of_append.2
    exact ⟨by rw [answers, answers, answered, later], final⟩

/-- If the journal refuses nothing in a run, the run under the other ordering answers the same and comes to a desk that
is the same but for the order of what it has done. Whatever the journal refuses, what a strategy is told in a move and
what is journaled of it follow each other as the ordering asks for. -/
theorem orderings_agree (d : Desk ω ρ σ) (ms : List (Move ω ρ)) :
    (∀ first second, Unrefused ((d.under first).done ms) →
      (d.under second).answers ms = (d.under first).answers ms ∧
      Alike ((d.under first).moves ms) ((d.under second).moves ms)) ∧
    ∀ earlier m later, ms = earlier ++ m :: later →
      InTurn d.settings.persistOrdering m.Owes ((d.moves earlier).actions m) := by
  refine ⟨fun first second unrefused => ?_, ?_⟩
  · have alike : Alike (d.under first) (d.under second) := ⟨rfl, .refl _⟩
    exact alike.moves ms unrefused
  · rintro earlier m later -
    obtain ⟨actions, acts⟩ := (orderly_op m).acts (d.moves earlier)
    have trace := acts.trace
    rw [← move_eq] at trace
    rw [actions_eq trace, ← settings_moves d earlier]
    exact acts.inTurn

end Desk

end Moves

namespace Desk

/-! ## A fill on a journal that comes to an end -/

/-- A fill that finds room for itself but not for the order that it is about is not told. -/
theorem orderings_agree_shortDesk :
    let ms : List (Move ScriptedJournal ScriptedRouter) := [.ask (.send fiveUnits), .report (.fill twoUnits)]
    let half := ((shortDesk 3 .persistFirst).moves [.ask (.send fiveUnits)]).actions (.report (.fill twoUnits))
    Unrefused (((shortDesk 4).under .callbackFirst).done ms) ∧
      ((shortDesk 4).under .persistFirst).answers ms = ((shortDesk 4).under .callbackFirst).answers ms ∧
      events half = [.fill twoUnits] ∧ callbacks half = [] ∧ InTurn .persistFirst (fun _ => True) half := by
  intro ms half
  have unrefused : Unrefused (((shortDesk 4).under .callbackFirst).done ms) := by decide +kernel
  refine ⟨unrefused, ((orderings_agree (shortDesk 4) ms).1 .callbackFirst .persistFirst unrefused).1, by decide +kernel,
    by decide +kernel, ?_⟩
  exact (orderings_agree (shortDesk 3 .persistFirst) ms).2 [.ask (.send fiveUnits)] (.report (.fill twoUnits)) [] rfl

end Desk

end Blotter
