import Mathlib
import Blotter.Proofs.Desk.Tracking

/-!
# Reports of the exchange

A report first changes what is tracked. Then the owner of the order is told of it, and what belongs to it is journaled,
in the order that the settings ask for.

- What a report comes to is said before any of it is carried out (`Desk.dispatch`, `Desk.onReport_run`).
- When a report fails and nobody has been told of it, the order that it names is unknown and nothing has changed, or
  what is tracked follows the report all the same while nothing has been journaled but, at most, the fill without the
  order (`Desk.onReport_untold`).
-/

namespace Blotter

open DeskAction DeskOp

/-- Whether nobody is told of anything. -/
def DeskAction.untold (actions : List DeskAction) : Bool :=
  actions.all fun
    | .tell _ _ => false
    | .persist _ _ _ | .route _ => true

namespace Desk

variable {ω ρ σ : Type}

/-- The events that the journal has taken from a desk. -/
def journaled (d : Desk ω ρ σ) : List Event := d.trace.filterMap event?

variable {d d' : Desk ω ρ σ} {report : ExecutionReport} {x : Dispatch}

theorem dispatch_reported {e : DeskError} (h : d.dispatch report = .error (.reported e)) :
    ∃ f, report = .fill f ∧ d.tracked.find? f.orderId = none ∧ e = .unknownOrder f.orderId := by
  cases report with
  | ack o => cases h
  | reject o r => cases h
  | canceled o => cases h
  | fill f =>
    rw [dispatch] at h
    cases found : d.tracked.find? f.orderId with
    | none =>
      rw [found] at h
      cases h
      exact ⟨f, rfl, found, rfl⟩
    | some o =>
      simp only [found] at h
      split at h
      · cases h
      · cases h

/-- A fill comes to two events, every other report to one. -/
theorem dispatch_events (h : d.dispatch report = .ok x) :
    (∃ e, x.events = [e]) ∨ ∃ f o, report = .fill f ∧ x.events = [.fill f, .order o] := by
  cases report with
  | ack o =>
    cases h
    exact .inl ⟨_, rfl⟩
  | reject o r =>
    cases h
    exact .inl ⟨_, rfl⟩
  | canceled o =>
    cases h
    exact .inl ⟨_, rfl⟩
  | fill f =>
    rw [dispatch] at h
    split at h
    · cases h
    · split at h
      · cases h
      · cases h
        exact .inr ⟨f, _, rfl, rfl⟩

/-- What the journal has taken of a report before it refuses an event is nothing, or the fill without the order. -/
theorem kept_of_dispatch (h : d.dispatch report = .ok x) {kept rest : List Event} {e : Event}
    (split : x.events = kept ++ e :: rest) : kept = [] ∨ ∃ f, report = .fill f ∧ kept = [.fill f] := by
  rcases dispatch_events h with ⟨e', events⟩ | ⟨f, o, rfl, events⟩
  · rw [events] at split
    cases kept with
    | nil => exact .inl rfl
    | cons k kept => simp at split
  · rw [events] at split
    cases kept with
    | nil => exact .inl rfl
    | cons k kept =>
      obtain ⟨rfl, split⟩ := List.cons.inj split
      cases kept with
      | nil => exact .inr ⟨f, rfl, rfl⟩
      | cons k kept => simp at split

theorem journaled_went (j : ω) (c : Chain ρ σ) (m : Metrics) (actions : List DeskAction) :
    (d.went j c m actions).journaled = d.journaled ++ actions.filterMap event? := by
  rw [journaled, went_trace, List.filterMap_append]
  rfl

variable [JournalAccess ω]

/-- When a report fails and nobody has been told of it, either it is a fill of an order that is not tracked, and nothing
has changed; or what is tracked has changed as the report says. Then nothing has been journaled if the strategy is not
known, and otherwise, when events are journaled first, at most the fill of a report that is one. -/
theorem onReport_untold {e : DeskError} {actions : List DeskAction}
    (failed : (onReport report).run d = .error (.reported e) d') (trace : d'.trace = d.trace ++ actions)
    (quiet : untold actions = true) :
    (∃ f, report = .fill f ∧ d.tracked.find? f.orderId = none ∧ e = .unknownOrder f.orderId ∧ d' = d) ∨
      ∃ x, d.dispatch report = .ok x ∧ d'.tracked = x.tracked ∧
        ((e = .unknownStrategy x.strategy .executionReport ∧ d'.journaled = d.journaled) ∨
          d.settings.persistOrdering = .persistFirst ∧ (∃ cause, e = .journal cause) ∧
            (d'.journaled = d.journaled ∨ ∃ f, report = .fill f ∧ d'.journaled = d.journaled ++ [.fill f])) := by
  rw [onReport_run] at failed
  cases dispatched : d.dispatch report with
  | error cause =>
    rw [dispatched] at failed
    obtain ⟨rfl, rfl⟩ := EStateM.Result.error.inj failed
    obtain ⟨f, fill, untracked, unknown⟩ := dispatch_reported dispatched
    exact .inl ⟨f, fill, untracked, unknown, rfl⟩
  | ok x =>
    refine .inr ⟨x, rfl, ?_⟩
    simp only [dispatched] at failed
    have way := deliver_cases { d with tracked := x.tracked } x.strategy x.events x.callback
    rw [failed] at way
    generalize result : (EStateM.Result.error (Failure.reported e) d' : EStateM.Result _ _ Unit) = r at way
    cases way with
    | unknown _ =>
      cases result
      exact ⟨rfl, .inl ⟨rfl, rfl⟩⟩
    | told _ => cases result
    | unjournaled _ =>
      cases result
      obtain rfl := List.append_cancel_left trace
      cases quiet
    | @withheld kept rest ev cause j ordering split =>
      cases result
      have taken' : (kept.map taken ++ [refused ev]).filterMap event? = kept := by
        rw [List.filterMap_append, filterMap_event?_taken]
        exact List.append_nil kept
      refine ⟨rfl, .inr ⟨ordering, ⟨cause, rfl⟩, ?_⟩⟩
      rw [journaled_went, taken']
      rcases kept_of_dispatch dispatched split with rfl | ⟨f, fill, rfl⟩
      · exact .inl (List.append_nil _)
      · exact .inr ⟨f, fill, rfl⟩

/-! ## Reports on a journal that comes to an end -/

/-- A journal with room for one event takes the fill without the order, and the order is tracked as filled. -/
theorem onReport_untold_shortDesk :
    let d := (shortDesk 1 .persistFirst).track fiveUnits
    let d' := (left ((onReport (.fill twoUnits)).run d)).2
    (onReport (.fill twoUnits)).run d = .error (.reported (.journal .stopped)) d' ∧
      untold d'.trace = true ∧ ∃ x, d.dispatch (.fill twoUnits) = .ok x ∧ d'.tracked = x.tracked ∧
        (d'.journaled = d.journaled ∨ d'.journaled = d.journaled ++ [.fill twoUnits]) := by
  intro d d'
  have failed : (onReport (.fill twoUnits)).run d = .error (.reported (.journal .stopped)) d' :=
    eq_error_of_left (by decide +kernel)
  have quiet : untold d'.trace = true := by decide +kernel
  refine ⟨failed, quiet, ?_⟩
  rcases onReport_untold failed rfl quiet with ⟨f, -, -, unknown, -⟩ | ⟨x, dispatched, tracked, rest⟩
  · cases unknown
  · refine ⟨x, dispatched, tracked, ?_⟩
    rcases rest with ⟨unknown, -⟩ | ⟨-, -, kept | ⟨f, fill, kept⟩⟩
    · cases unknown
    · exact .inl kept
    · cases fill
      exact .inr kept

/-- A report may fail without anybody being told of it and yet change what is tracked or journaled: that of a strategy
which is not known, one whose event the journal refuses, and a fill of which the journal takes the first event only. -/
theorem reports_half_applied :
    let unknown := left ((onReport (.ack { fiveUnits with strategy := ⟨"T"⟩ })).run (shortDesk 1))
    let unjournaled := left ((onReport (.ack fiveUnits)).run (shortDesk 0 .persistFirst))
    let halfway := left ((onReport (.fill twoUnits)).run ((shortDesk 1 .persistFirst).track fiveUnits))
    (unknown.1 = some (.reported (.unknownStrategy ⟨"T"⟩ .executionReport)) ∧ unknown.2.trace = [] ∧
      (shortDesk 1).tracked.find? fiveUnits.orderId = none ∧
      unknown.2.tracked.find? fiveUnits.orderId = some { fiveUnits with strategy := ⟨"T"⟩ }) ∧
    (unjournaled.1 = some (.reported (.journal .stopped)) ∧ unjournaled.2.trace = [refused (.order fiveUnits)] ∧
      (shortDesk 0).tracked.find? fiveUnits.orderId = none ∧
      unjournaled.2.tracked.find? fiveUnits.orderId = some fiveUnits) ∧
    (halfway.1 = some (.reported (.journal .stopped)) ∧
      untold halfway.2.trace = true ∧ halfway.2.journaled = [.fill twoUnits]) := by
  decide +kernel

end Desk

end Blotter
