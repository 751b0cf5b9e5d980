import Mathlib
import Blotter.Proofs.Desk.Orderings

/-!
# What the router is asked

The calls in the trace of a desk are what its router is asked to do, in order, and it is asked to do nothing else.

- How a router may come from one state to another by being asked some things is `Router.Asked`; being asked what is
  open is no call, but may change it as well.
- In all that a desk does in one go, the router is asked what comes to the trace (`DeskOp.Routes`, `routes_composes`).
  So it is in every call of a desk (`Composes.sendNew` and so on), in every move that does not replace the router
  (`Desk.asked_move`), and in runs of such moves (`Desk.asked_moves`).
- A router that notes its calls (`Router.Notes`) has noted those of the trace, if the world does not take the notes away
  (`Desk.noted_moves`). The scripted router is one (`ScriptedRouter.notes`).
-/

namespace Blotter

open DeskAction DeskOp Desk

variable {ω ρ σ α β : Type}

/-! ## Routers that are asked -/

namespace Router

variable [Router ρ]

/-- The router after it was asked to do something. -/
def asked (now : Instant) (r : ρ) : RouterCall → ρ
  | .send o => (send o now r).2
  | .cancel orderId => (cancel orderId r).2
  | .modify orderId quantity limitPrice => (modify orderId quantity limitPrice r).2
  | .restore o => restore o r

/-- Whether a router comes from one state to another when it is asked to do some things, one after the other. What it
holds to be open may be asked for at any time. -/
inductive Asked (now : Instant) (r : ρ) : List RouterCall → ρ → Prop
  | nothing : Asked now r [] r
  | call {calls : List RouterCall} {r' : ρ} (c : RouterCall) : Asked now r calls r' →
      Asked now r (calls ++ [c]) (asked now r' c)
  | openOrders {calls : List RouterCall} {r' : ρ} : Asked now r calls r' →
      Asked now r calls (Router.openOrders r').2

theorem Asked.trans {now : Instant} {r r' r'' : ρ} {calls calls' : List RouterCall} (h : Asked now r calls r')
    (h' : Asked now r' calls' r'') : Asked now r (calls ++ calls') r'' := by
  induction h' with
  | nothing => rwa [List.append_nil]
  | call c _ ih =>
    rw [← List.append_assoc]
    exact .call c ih
  | openOrders _ ih => exact .openOrders ih

/-- Whether what a router notes is what it is asked to do. -/
structure Notes (noted : ρ → List RouterCall) : Prop where
  asked : ∀ now r c, noted (asked now r c) = noted r ++ [c]
  openOrders : ∀ r, noted (Router.openOrders r).2 = noted r

theorem Notes.of_asked {noted : ρ → List RouterCall} (notes : Notes noted) {now : Instant} {r r' : ρ}
    {calls : List RouterCall} (h : Asked now r calls r') : noted r' = noted r ++ calls := by
  induction h with
  | nothing => rw [List.append_nil]
  | call c _ ih => rw [notes.asked, ih, List.append_assoc]
  | openOrders _ ih => rw [notes.openOrders, ih]

end Router

theorem ScriptedRouter.notes : Router.Notes ScriptedRouter.calls where
  asked now r c := by
    cases c with
    | send o =>
      simp only [Router.asked, Router.send, ScriptedRouter.send]
      split
      · rfl
      · rfl
    | cancel orderId =>
      simp only [Router.asked, Router.cancel, ScriptedRouter.cancel]
      split
      · rfl
      · split
        · rfl
        · rfl
    | modify orderId quantity limitPrice =>
      simp only [Router.asked, Router.modify, ScriptedRouter.modify]
      split
      · rfl
      · rfl
    | restore o => rfl
  openOrders _ := rfl

/-! ## Desks that ask -/

section Routes

/-- Actions that ask the router for nothing have no calls. -/
theorem DeskAction.Quiet.routerCalls {actions : List DeskAction} (quiet : Quiet actions) : routerCalls actions = [] := by
  refine List.filterMap_eq_nil_iff.mpr fun action done => ?_
  cases action with
  | route call => exact absurd done (quiet call)
  | persist _ _ _ => rfl
  | tell _ _ => rfl

variable [Router ρ]

/-- Whether the router of a desk was asked what has come to the trace, at the time of the desk. -/
structure Desk.Routed (d d' : Desk ω ρ σ) : Prop where
  now : d'.now = d.now
  asked : ∃ actions, d'.trace = d.trace ++ actions ∧
    Router.Asked d.now d.chain.router (routerCalls actions) d'.chain.router

/-- A desk that asks its router nothing. -/
theorem Desk.Routed.of_quiet {d d' : Desk ω ρ σ} {actions : List DeskAction} (now : d'.now = d.now)
    (router : d'.chain.router = d.chain.router) (trace : d'.trace = d.trace ++ actions)
    (quiet : routerCalls actions = []) : Routed d d' where
  now := now
  asked := by
    refine ⟨actions, trace, ?_⟩
    rw [router, quiet]
    exact .nothing

theorem Desk.Routed.trans {d d' d'' : Desk ω ρ σ} (h : Routed d d') (h' : Routed d' d'') : Routed d d'' where
  now := h'.now.trans h.now
  asked := by
    obtain ⟨actions, trace, asked⟩ := h.asked
    obtain ⟨actions', trace', asked'⟩ := h'.asked
    refine ⟨actions ++ actions', by rw [trace', trace, List.append_assoc], ?_⟩
    rw [h.now] at asked'
    rw [routerCalls_append]
    exact asked.trans asked'

/-- Whether the router is asked what an operation adds to the trace, and nothing else. -/
structure DeskOp.Routes (x : DeskOp ω ρ σ α) : Prop where
  routed : ∀ d, Routed d (left (x.run d)).2

namespace DeskOp.Routes

/-! ## Operations put together -/

theorem pure (a : α) : Routes (Pure.pure a : DeskOp ω ρ σ α) :=
  ⟨fun _ => .of_quiet rfl rfl (List.append_nil _).symm rfl⟩

theorem throw (e : Failure DeskError) : Routes (throw e : DeskOp ω ρ σ α) :=
  ⟨fun _ => .of_quiet rfl rfl (List.append_nil _).symm rfl⟩

theorem bind {x : DeskOp ω ρ σ α} {f : α → DeskOp ω ρ σ β} (first : Routes x) (next : ∀ a, Routes (f a)) :
    Routes (x >>= f) := by
  refine ⟨fun d => ?_⟩
  have routed := first.routed d
  cases result : x.run d with
  | ok a d' =>
    rw [result] at routed
    rw [bind_ok result]
    exact routed.trans ((next a).routed d')
  | error e d' =>
    rw [result] at routed
    rwa [bind_error result]

/-- An operation that looks at a desk. -/
theorem read {f : Desk ω ρ σ → DeskOp ω ρ σ α} (next : ∀ d, Routes (f d)) : Routes (get >>= f) := by
  refine ⟨fun d => ?_⟩
  rw [bind_ok (get_run d)]
  exact (next d).routed d

/-- A change of a desk that does nothing to the world. -/
theorem change {f : Desk ω ρ σ → Desk ω ρ σ} (silent : Silent f) : Routes (modify f : DeskOp ω ρ σ Unit) := by
  refine ⟨fun d => ?_⟩
  have router : (f d).chain.router = d.chain.router := by rw [silent.chain d]
  have trace : (f d).trace = d.trace := by rw [silent.blind d]
  exact .of_quiet (silent.now d) router (trace.trans (List.append_nil _).symm) rfl

theorem tell (s : StrategyId) (c : Callback) : Routes (DeskOp.tell s c : DeskOp ω ρ σ Unit) :=
  ⟨fun _ => .of_quiet rfl rfl rfl rfl⟩

/-! ## The router -/

/-- The router is asked to do something. -/
theorem call {x : DeskOp ω ρ σ α} (c : RouterCall) (run : ∀ d, ∃ a, x.run d = .ok a
    (d.went d.journal { d.chain with router := Router.asked d.now d.chain.router c } d.metrics [.route c])) :
    Routes x := by
  refine ⟨fun d => ?_⟩
  obtain ⟨a, done⟩ := run d
  rw [done]
  exact ⟨rfl, [.route c], rfl, .call c .nothing⟩

theorem cancelAtRouter (orderId : OrderId) :
    Routes (DeskOp.cancelAtRouter orderId : DeskOp ω ρ σ (Except String Unit)) :=
  .call (.cancel orderId) fun d => ⟨_, cancelAtRouter_eq d orderId⟩

theorem modifyAtRouter (orderId : OrderId) (quantity : Decimal) (limitPrice : Option Decimal) :
    Routes (DeskOp.modifyAtRouter orderId quantity limitPrice : DeskOp ω ρ σ (Except String Unit)) :=
  .call (.modify orderId quantity limitPrice) fun d => ⟨_, modifyAtRouter_eq d orderId quantity limitPrice⟩

theorem restoreAtRouter (o : Order) : Routes (DeskOp.restoreAtRouter o : DeskOp ω ρ σ Unit) :=
  .call (.restore o) fun _ => ⟨(), rfl⟩

theorem openAtRouter : Routes (DeskOp.openAtRouter : DeskOp ω ρ σ (List Order)) := by
  refine ⟨fun d => ?_⟩
  rw [openAtRouter_eq]
  exact ⟨rfl, [], rfl, .openOrders .nothing⟩

/-- An order that a stage keeps back does not come to the router. -/
theorem send [StageKind σ] (o : Order) : Routes (DeskOp.send o : DeskOp ω ρ σ RouteOutcome) := by
  refine ⟨fun d => ?_⟩
  rw [DeskOp.send, bind_ok (get_run d)]
  unfold Chain.send
  rcases StageKind.checkAll o d.now.toNanos d.chain.stages with ⟨reason, stages⟩
  cases reason with
  | some reason => exact .of_quiet rfl rfl (List.append_nil _).symm rfl
  | none => exact ⟨rfl, [.route (.send o)], rfl, .call (.send o) .nothing⟩

/-! ## The journal and the strategies -/

section Journal

variable [JournalAccess ω]

theorem tryPersist (e : Event) : Routes (DeskOp.tryPersist e : DeskOp ω ρ σ (Except JournalError Nat)) :=
  ⟨fun _ => .of_quiet rfl rfl rfl rfl⟩

/-- Whatever comes first and whatever the journal refuses, the router is not asked in a delivery. -/
theorem deliver (s : StrategyId) (es : List Event) (c : Callback) :
    Routes (DeskOp.deliver s es c : DeskOp ω ρ σ Unit) := by
  refine ⟨fun d => ?_⟩
  obtain ⟨e, j, actions, delivered, quiet, -⟩ := deliver_quiet d s es c
  rw [delivered]
  exact .of_quiet rfl rfl rfl quiet.routerCalls

end Journal

end DeskOp.Routes

theorem routes_composes [JournalAccess ω] [StageKind σ] (owed : Event → Prop) :
    Composes owed fun _ (x : DeskOp ω ρ σ _) => Routes x where
  pure := Routes.pure
  throw := Routes.throw
  bind := Routes.bind
  read _ := Routes.read
  change := Routes.change
  tell s c _ := Routes.tell s c
  tryPersist _ := Routes.tryPersist _
  deliver s c := Routes.deliver s c.events c
  send := Routes.send
  cancelAtRouter := Routes.cancelAtRouter
  modifyAtRouter := Routes.modifyAtRouter
  restoreAtRouter := Routes.restoreAtRouter
  openAtRouter := Routes.openAtRouter

end Routes

/-! ## Moves -/

section Moves

variable [JournalAccess ω] [Router ρ] [StageKind σ]

namespace Desk

/-- In a move that does not replace the router, which is one call of the desk, the router is asked what the move adds to
the trace. -/
theorem asked_move (d : Desk ω ρ σ) {m : Move ω ρ} (same : ¬m.Reroutes) : (d.move m).now = d.now ∧
    Router.Asked d.now d.chain.router (routerCalls (d.actions m)) (d.move m).chain.router := by
  have routed := ((routes_composes m.Owes).op same).routed d
  rw [← move_eq] at routed
  obtain ⟨actions, trace, asked⟩ := routed.asked
  rw [actions_eq trace]
  exact ⟨routed.now, asked⟩

/-- In a run that does not replace the router, the router is asked what the run adds to the trace, in order. -/
theorem asked_moves (d : Desk ω ρ σ) (ms : List (Move ω ρ)) (same : ∀ m ∈ ms, ¬m.Reroutes) :
    (d.moves ms).now = d.now ∧
      Router.Asked d.now d.chain.router (routerCalls (d.done ms)) (d.moves ms).chain.router := by
  induction ms generalizing d with
  | nil =>
    rw [done, moves, List.foldl_nil, List.drop_length]
    exact ⟨rfl, .nothing⟩
  | cons m ms ih =>
    obtain ⟨now, asked⟩ := d.asked_move (same m List.mem_cons_self)
    obtain ⟨later, asked'⟩ := ih (d.move m) fun m' among => same m' (List.mem_cons_of_mem m among)
    rw [now] at later asked'
    rw [done_cons, routerCalls_append]
    exact ⟨later, asked.trans asked'⟩

/-- A router that notes its calls has noted the calls in the trace, in order, in any run in which the world leaves the
notes as they are. -/
theorem noted_moves {noted : ρ → List RouterCall} (notes : Router.Notes noted) (d : Desk ω ρ σ) (ms : List (Move ω ρ))
    (kept : ∀ before now journal router after, ms = before ++ .world now journal router :: after →
      noted router = noted (d.moves before).chain.router) :
    noted (d.moves ms).chain.router = noted d.chain.router ++ routerCalls (d.done ms) := by
  induction ms using List.reverseRecOn with
  | nil =>
    rw [done, moves, List.foldl_nil, List.drop_length]
    exact (List.append_nil _).symm
  | append_singleton ms m ih =>
    have earlier := ih fun before now journal router after split =>
      kept before now journal router (after ++ [m]) (by rw [split, List.append_assoc, List.cons_append])
    rw [done_concat, routerCalls_append, ← List.append_assoc, ← earlier, moves_concat]
    by_cases reroutes : m.Reroutes
    · cases m with
      | world now journal router =>
        have nothing : (d.moves ms).actions (.world now journal router) = [] :=
          actions_eq (List.append_nil _).symm
        rw [nothing]
        exact (kept ms now journal router [] rfl).trans (List.append_nil _).symm
      | _ => exact absurd reroutes id
    · exact notes.of_asked (asked_move _ reroutes).2

end Desk

end Moves

end Blotter
