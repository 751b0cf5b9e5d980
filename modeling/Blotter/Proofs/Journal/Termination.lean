import Mathlib
import Blotter.Journal.Running
import Blotter.Proofs.Database.Batching

/-!
# Workers come to an end

Once its queue is closed, a worker ends after a number of steps that is known from the start, whatever the sink does.

- A sink `Flushes` if it holds nothing back from a closed queue. Both sinks of a journal do (`Sink.flushes`).
- `Station.stepsLeft` bounds the steps that are left: it is zero only for a worker that is done
  (`isDone_of_stepsLeft`), and every step takes it down (`Keeps.stepsLeft_step`). It counts what waits, how many
  final attempts the batch in hand may still get, and how far the worker is with it.
- It is at most the patience with which workers are run (`stepsLeft_le_patience`).
-/

namespace Blotter

variable {ω ι : Type}

/-! ## Sinks that flush -/

/-- Whether a sink holds nothing back from a queue that is closed. -/
def Sink.Flushes (sink : Sink ω ι) : Prop :=
  ∀ pending round, pending ≠ 0 → round.stopping = true → sink.plan pending round ≠ 0

theorem JournalFile.plan_ne_zero {pending : Nat} (some : pending ≠ 0) : JournalFile.plan pending ≠ 0 := by
  have : batchLimit ≠ 0 := by decide
  have := Nat.min_eq_zero_iff (m := pending) (n := batchLimit)
  rw [plan]
  tauto

/-- Neither sink of a journal holds anything back from a closed queue. -/
theorem Sink.flushes {sink : Sink ω ι}
    (plans : (∀ pending round, sink.plan pending round = JournalFile.plan pending) ∨
      ∃ s : DatabaseSettings, sink.plan = s.plan) : sink.Flushes := by
  intro pending round some stopping
  rcases plans with file | ⟨s, database⟩
  · rw [file]
    exact JournalFile.plan_ne_zero some
  · rw [database]
    intro held
    rw [(DatabaseSettings.held_of_plan_eq_zero some held).2.1] at stopping
    exact absurd stopping (by simp)

theorem JournalFile.flushes_sinkOn (m : Disk.Medium) : (JournalFile.sinkOn m).Flushes :=
  Sink.flushes (.inl fun _ _ => rfl)

theorem DatabaseSettings.flushes_sinkWith (s : DatabaseSettings) (fate : DatabaseFate) (now : Instant) :
    (s.sinkWith fate now).Flushes := Sink.flushes (.inr ⟨s, rfl⟩)

/-! ## Steps that are left -/

namespace Station

variable {s : Station ι} {pushed done : List ι} {sink : Sink ω ι} {retry : RetrySettings} {w : ω}

/-- How many steps a batch takes at most, with all its final attempts. -/
def batchSteps (retry : RetrySettings) : Nat := 2 * retry.finalAttempts + 8

/-- How many steps the items behind the first `n` take at most. -/
def stepsBehind (retry : RetrySettings) (s : Station ι) (n : Nat) : Nat :=
  (s.queue.items.length - n) * batchSteps retry

/-- How many steps the worker of a closed queue still makes at most. -/
def stepsLeft (retry : RetrySettings) (s : Station ι) : Nat :=
  match s.phase with
  | .asleep | .ended | .broken _ => 0
  | .waiting _ _ => s.stepsBehind retry 0 + 3
  | .woken _ _ => s.stepsBehind retry 0 + 2
  -- A worker that has seen the queue open may hold items back once more.
  | .planning _ stopping _ => s.stepsBehind retry 0 + if stopping then 1 else 4
  | .peeking _ => s.stepsBehind retry 1 + batchSteps retry
  | .trying batch _ finalAttempts =>
    s.stepsBehind retry batch.length + (2 * (retry.finalAttempts - finalAttempts) + 7)
  | .writing batch _ finalAttempts =>
    s.stepsBehind retry batch.length +
      if retry.finalAttempts ≤ finalAttempts then 6 else 2 * (retry.finalAttempts - finalAttempts) + 8
  | .committing batch => s.stepsBehind retry batch.length + 5
  | .announcing _ => s.stepsBehind retry 0 + 4

theorem isDone_of_stepsLeft (none : s.stepsLeft retry = 0) : s.isDone = true := by
  obtain ⟨queue, phase⟩ := s
  cases phase with
  | asleep => rfl
  | ended => rfl
  | broken cause => rfl
  | planning grew stopping rounds => cases stopping <;> simp [stepsLeft] at none
  | peeking count => simp [stepsLeft, batchSteps] at none
  | writing batch failures finalAttempts =>
    simp only [stepsLeft] at none
    split at none <;> omega
  | _ => simp [stepsLeft] at none

/-- A worker that was started and is done has ended or has broken down. -/
theorem phase_of_isDone (isDone : s.isDone = true) (awake : s.phase ≠ .asleep) :
    s.phase = .ended ∨ ∃ cause, s.phase = .broken cause := by
  obtain ⟨queue, phase⟩ := s
  cases phase with
  | asleep => exact absurd rfl awake
  | ended => exact .inl rfl
  | broken cause => exact .inr ⟨cause, rfl⟩
  | _ => exact absurd isDone (by simp [Station.isDone])

/-- A worker has no steps left exactly when it is done. -/
theorem stepsLeft_eq_zero_iff : s.stepsLeft retry = 0 ↔ s.isDone = true := by
  refine ⟨isDone_of_stepsLeft, fun isDone => ?_⟩
  obtain ⟨queue, phase⟩ := s
  cases phase <;> first | rfl | simp [Station.isDone] at isDone

theorem stepsBehind_le (retry : RetrySettings) (s : Station ι) (n : Nat) :
    s.stepsBehind retry n ≤ s.stepsBehind retry 0 :=
  Nat.mul_le_mul_right _ (Nat.sub_le_sub_left (Nat.zero_le n) _)

/-- The first item takes the steps of a batch at most. -/
theorem stepsBehind_one (retry : RetrySettings) (some : s.queue.items ≠ []) :
    s.stepsBehind retry 0 = s.stepsBehind retry 1 + batchSteps retry := by
  have length := List.length_pos_of_ne_nil some
  rw [stepsBehind, stepsBehind, ← Nat.succ_mul]
  congr 1
  omega

/-- The items behind a batch are not more than those behind the first item. -/
theorem stepsBehind_batch (retry : RetrySettings) (s : Station ι) {batch : List ι} (some : batch ≠ []) :
    s.stepsBehind retry batch.length ≤ s.stepsBehind retry 1 :=
  Nat.mul_le_mul_right _ (Nat.sub_le_sub_left (List.length_pos_of_ne_nil some) _)

/-- A worker is run long enough for the steps that are left. -/
theorem stepsLeft_le_patience (retry : RetrySettings) (s : Station ι) :
    s.stepsLeft retry ≤ s.patience retry.finalAttempts := by
  have all : s.stepsBehind retry 0 + 2 * (16 + 2 * retry.finalAttempts) ≤ s.patience retry.finalAttempts := by
    rw [stepsBehind, patience, Nat.add_mul]
    refine Nat.add_le_add_right (Nat.mul_le_mul_left _ ?_) _
    rw [batchSteps]
    omega
  have behind := s.stepsBehind_le retry
  unfold stepsLeft
  split
  case h_6 grew stopping rounds _ => cases stopping <;> simp only [Bool.false_eq_true, if_true, if_false] <;> omega
  case h_7 =>
    have := behind 1
    rw [batchSteps]
    omega
  case h_8 batch failures finalAttempts _ =>
    have := behind batch.length
    omega
  case h_9 batch failures finalAttempts _ =>
    have := behind batch.length
    split <;> omega
  case h_10 batch _ =>
    have := behind batch.length
    omega
  all_goals omega

/-! ## One step -/

theorem Keeps.items_ne_nil (h : s.Keeps pushed done) (some : s.queue.depth ≠ 0) : s.queue.items ≠ [] :=
  fun none => some (h.depth_eq_zero_iff.mpr none)

/-- A worker that plans goes to the first items, or it has seen the queue open and waits once more, or it ends. -/
theorem Keeps.stepsLeft_planning (h : s.Keeps pushed done) (flushes : sink.Flushes) {grew stopping : Bool}
    {rounds : Nat} (planning : s.phase = .planning grew stopping rounds) :
    (s.step sink retry w).1.stepsLeft retry < s.stepsLeft retry := by
  obtain ⟨queue, phase⟩ := s
  obtain rfl : phase = .planning grew stopping rounds := planning
  by_cases empty : queue.depth = 0
  · rw [step_planning_empty empty]
    cases stopping with
    | true => exact Nat.succ_pos _
    | false => exact Nat.lt_succ_self _
  · by_cases held : sink.plan queue.depth ⟨rounds, !grew, stopping⟩ = 0
    · rw [step_planning_held empty held]
      cases stopping with
      | true => exact absurd held (flushes _ _ empty rfl)
      | false => exact Nat.lt_succ_self _
    · have behind := stepsBehind_one (s := ⟨queue, .planning grew stopping rounds⟩) retry (h.items_ne_nil empty)
      rw [step_planning_some empty held]
      simp only [stepsLeft, behind]
      cases stopping with
      | true => exact Nat.lt_succ_self _
      | false => exact Nat.lt_add_of_pos_right (by decide)

/-- Every step of a worker whose queue is closed takes down the steps that are left. -/
theorem Keeps.stepsLeft_step (h : s.Keeps pushed done) (closed : s.queue.closed = true) (flushes : sink.Flushes)
    (works : s.isDone = false) : (s.step sink retry w).1.stepsLeft retry < s.stepsLeft retry := by
  have planning (grew stopping : Bool) (rounds : Nat) (isPlanning : s.phase = .planning grew stopping rounds) :
      (s.step sink retry w).1.stepsLeft retry < s.stepsLeft retry := h.stepsLeft_planning flushes isPlanning
  have fits := h.fits
  have steps := s.steps sink retry w
  generalize s.step sink retry w = outcome at steps planning ⊢
  cases steps with
  | ends q grew rounds => exact planning _ _ _ rfl
  | holds q grew stopping rounds => exact planning _ _ _ rfl
  | plans q grew stopping rounds => exact planning _ _ _ rfl
  | wakes q held rounds grew => exact Nat.lt_succ_self _
  | looks q grew rounds =>
    simp only [stepsLeft, show q.closed = true from closed]
    exact Nat.lt_succ_self _
  | peeks q count =>
    have some : q.peek count ≠ [] := by simp [Queue.peek, List.take_eq_nil_iff, fits.1, fits.2]
    have behind := stepsBehind_batch retry ⟨q, .trying (q.peek count) 0 0⟩ some
    exact Nat.lt_succ_of_le (Nat.add_le_add_right behind _)
  | tries q batch failures finalAttempts =>
    simp only [stepsLeft, show q.closed = true from closed, Bool.toNat_true]
    refine Nat.add_lt_add_left ?_ _
    split <;> omega
  | writes q batch failures finalAttempts w' written =>
    refine Nat.add_lt_add_left ?_ _
    split <;> omega
  | isRefused q batch failures finalAttempts w' e alert written more =>
    simp only [stepsLeft, if_neg (Nat.not_le_of_lt more)]
    exact Nat.lt_succ_self _
  | givesUp q batch failures finalAttempts w' e alert written last =>
    simp only [stepsLeft, if_pos last]
    exact Nat.succ_pos _
  | breaks q batch failures finalAttempts w' cause written =>
    refine Nat.lt_of_lt_of_le ?_ (Nat.le_add_left _ _)
    split <;> exact Nat.succ_pos _
  | commits q batch =>
    simp only [stepsLeft, stepsBehind, Queue.commit, List.length_drop, Nat.sub_zero]
    exact Nat.lt_succ_self _
  | announces q batch => exact Nat.lt_succ_self _
  | sleeps q => exact absurd works (by simp [Station.isDone])
  | hasEnded q => exact absurd works (by simp [Station.isDone])
  | isBroken q cause => exact absurd works (by simp [Station.isDone])

/-- A step takes at least one off the steps that are left, if there are any. -/
theorem Keeps.stepsLeft_le (h : s.Keeps pushed done) (closed : s.queue.closed = true) (flushes : sink.Flushes) :
    (s.step sink retry w).1.stepsLeft retry ≤ s.stepsLeft retry - 1 := by
  cases isDone : s.isDone with
  | true =>
    rw [step_of_isDone isDone, stepsLeft_eq_zero_iff.mpr isDone]
  | false => exact Nat.le_sub_one_of_lt (h.stepsLeft_step closed flushes isDone)

end Station

end Blotter
