import Mathlib
import Blotter.Proofs.Journal.Shift

/-!
# Rounds

A worker works in rounds. In a round it looks how many items wait, lets the sink say how many of them are written now,
and tries to write these. The rounds of a shift are noted, the last one first (`Shift.rounds`).

- Whatever the sink plans, a round that is over has held everything back, or the sink took what was planned
  (`Shift.Settles.past`).
- Every attempt belongs to a round (`Shift.Settles.attempts_eq`).
- In a round one batch is tried, and no more attempts begin after the close than there are final attempts, of which
  there is at least one (`Shift.Settles.sound`).

One move keeps that (`Shift.Settles.step`), and so does a shift (`Shift.Settles.run`).
-/

namespace Blotter

/-- A round of a worker. -/
structure Shift.Turn where
  /-- How many items waited. -/
  pending : Nat
  /-- What the sink was told. -/
  told : Round
  /-- How many items were to be written. -/
  planned : Nat
  /-- The attempts to write them. -/
  attempts : List Shift.Attempt

/-- The round with further attempts. -/
def Shift.Turn.add (t : Shift.Turn) (more : List Shift.Attempt) : Shift.Turn :=
  { t with attempts := t.attempts ++ more }

namespace Shift

/-! ## What is noted -/

section Notes

variable {ω : Type}

/-- The rounds after a move: one that plans begins a round, and an attempt belongs to the last one. -/
def note (c : Shift ω) (log : List Turn) : Move ω → List Turn
  | .push _ | .close => log
  | .work sink =>
    match c.station.phase with
    | .planning grew stopping rounds =>
      let pending := c.station.queue.depth
      let told : Round := ⟨rounds, !grew, stopping⟩
      ⟨pending, told, if pending = 0 then 0 else sink.plan pending told, []⟩ :: log
    | .writing _ _ _ => log.modifyHead (·.add (c.next sink))
    | _ => log

/-- The rounds after moves. -/
def rounds (name : SinkName) (observers : List String) (retry : RetrySettings) (c : Shift ω) (log : List Turn) :
    List (Move ω) → List Turn
  | [] => log
  | move :: rest => rounds name observers retry (c.step name observers retry move) (c.note log move) rest

end Notes

namespace Turn

/-- Whether a round is over: nothing was to be written, or the sink took it. -/
def Over (t : Turn) : Prop := t.planned = 0 ∨ ∃ a ∈ t.attempts, a.accepted = true

/-- Whether a round is about a batch, which has as many items as were planned if so many waited. -/
structure Tries (t : Turn) (batch : List Handle) : Prop where
  some : t.planned ≠ 0
  length : t.planned ≤ t.pending → batch.length = t.planned
  batch_eq : ∀ a ∈ t.attempts, a.batch = batch

/-- How many attempts began when the queue was closed. -/
def late (t : Turn) : Nat := t.attempts.countP (·.late)

/-- Whether a round has no attempts or they are for one batch, and not too many of them are late. -/
structure Sound (retry : RetrySettings) (t : Turn) : Prop where
  tries : t.attempts = [] ∨ ∃ batch, t.Tries batch
  late_le : t.late ≤ max retry.finalAttempts 1

variable {t : Turn} {retry : RetrySettings} {batch : List Handle}

theorem sound_of_untried (untried : t.attempts = []) : t.Sound retry :=
  ⟨.inl untried, by rw [late, untried]; exact Nat.zero_le _⟩

/-- Another attempt for the batch of a round. -/
theorem Tries.concat (h : t.Tries batch) {a : Attempt} (same : a.batch = batch) :
    (t.add [a]).Tries batch := by
  refine ⟨h.some, h.length, fun b hb => ?_⟩
  rcases List.mem_append.mp hb with hb | hb
  · exact h.batch_eq b hb
  · obtain rfl := List.mem_singleton.mp hb
    exact same

theorem late_concat (t : Turn) (a : Attempt) :
    (t.add [a]).late = t.late + a.late.toNat := by
  rw [late, add, List.countP_append, List.countP_singleton, late]
  cases a.late <;> rfl

end Turn

/-! ## The invariant -/

variable {ω : Type} {name : SinkName} {observers : List String} {retry : RetrySettings}
variable {c : Shift ω} {log : List Turn}

/-- Whether the last round agrees with what the worker does next. -/
def Present (retry : RetrySettings) (c : Shift ω) (log : List Turn) : Prop :=
  match c.station.phase with
  | .peeking count => ∃ t past, log = t :: past ∧ t.planned = count ∧ count ≠ 0 ∧ t.attempts = [] ∧
      t.pending ≤ c.station.queue.items.length
  | .trying batch _ finalAttempts =>
    ∃ t past, log = t :: past ∧ t.Tries batch ∧ t.late = finalAttempts ∧ t.late < max retry.finalAttempts 1
  | .writing batch _ finalAttempts =>
    ∃ t past, log = t :: past ∧ t.Tries batch ∧ t.late + c.late.toNat = finalAttempts ∧
      t.late < max retry.finalAttempts 1
  | .ended | .broken _ => True
  | .asleep | .waiting _ _ | .woken _ _ | .planning _ _ _ | .committing _ | .announcing _ => ∀ t ∈ log.head?, t.Over

/-- What holds of the rounds all along. -/
structure Settles (retry : RetrySettings) (c : Shift ω) (log : List Turn) : Prop where
  depth_eq : c.station.queue.depth = c.station.queue.items.length
  attempts_eq : c.attempts = log.reverse.flatMap (·.attempts)
  past : ∀ t ∈ log.tail, t.Over
  sound : ∀ t ∈ log, t.Sound retry
  present : c.Present retry log

theorem settles_begin (maxDepth : Nat) (state : ω) (now : Instant) :
    (begin maxDepth state now).Settles retry [] where
  depth_eq := rfl
  attempts_eq := rfl
  past _ ht := absurd ht (by simp)
  sound _ ht := absurd ht (by simp)
  present _ ht := absurd ht (by simp)

/-- A move keeps the depth of the queue. -/
theorem Settles.depth_eq_step (h : c.Settles retry log) (name : SinkName) (observers : List String) (move : Move ω) :
    (c.step name observers retry move).station.queue.depth =
      (c.step name observers retry move).station.queue.items.length := by
  have depth := h.depth_eq
  cases move with
  | push x => simp only [Shift.step, Queue.push, List.length_append, List.length_singleton, depth]
  | close => exact depth
  | work sink => exact Station.depth_eq_step depth

/-- A round that nothing was tried in begins when the others are over. -/
theorem Settles.begins (h : c.Settles retry log) (over' : ∀ t ∈ log.head?, t.Over) {t : Turn}
    (untried : t.attempts = []) {c' : Shift ω} (depth_eq : c'.station.queue.depth = c'.station.queue.items.length)
    (same : c'.attempts = c.attempts) (present : c'.Present retry (t :: log)) : c'.Settles retry (t :: log) where
  depth_eq := depth_eq
  attempts_eq := by simp [same, h.attempts_eq, untried]
  past u hu := by
    cases log with
    | nil => exact absurd hu (by simp)
    | cons last past =>
      rcases List.mem_cons.mp hu with rfl | hu
      · exact over' _ rfl
      · exact h.past u hu
  sound u hu := by
    rcases List.mem_cons.mp hu with rfl | hu
    · exact Turn.sound_of_untried untried
    · exact h.sound u hu
  present := present

/-- The last round gets an attempt. -/
theorem Settles.attempts {t : Turn} {past : List Turn} (h : c.Settles retry (t :: past)) {batch : List Handle}
    (tries : t.Tries batch) (few : t.late < max retry.finalAttempts 1) {a : Attempt} (same : a.batch = batch)
    {c' : Shift ω} (depth_eq : c'.station.queue.depth = c'.station.queue.items.length)
    (more : c'.attempts = c.attempts ++ [a]) (present : c'.Present retry (t.add [a] :: past)) :
    c'.Settles retry (t.add [a] :: past) where
  depth_eq := depth_eq
  attempts_eq := by simp [more, h.attempts_eq, Turn.add]
  past := h.past
  sound u hu := by
    rcases List.mem_cons.mp hu with rfl | hu
    · refine ⟨.inr ⟨batch, tries.concat same⟩, ?_⟩
      have := Bool.toNat_le a.late
      rw [Turn.late_concat]
      omega
    · exact h.sound u (List.mem_cons_of_mem _ hu)
  present := present

/-- The worker plans. -/
theorem Settles.plans (h : c.Settles retry log) {grew stopping : Bool} {n : Nat}
    (planning : c.station.phase = .planning grew stopping n) (sink : Sink ω Handle) :
    (c.step name observers retry (.work sink)).Settles retry (c.note log (.work sink)) := by
  have whole := h.depth_eq_step name observers (.work sink)
  have depth := h.depth_eq
  have over' := h.present
  obtain ⟨⟨queue, phase⟩, state, world, committed, attempts, late⟩ := c
  obtain rfl : phase = .planning grew stopping n := planning
  refine h.begins over' rfl whole (List.append_nil _) ?_
  by_cases empty : queue.depth = 0
  · simp only [Shift.step, Station.step_planning_empty empty, if_pos empty]
    cases stopping with
    | true => trivial
    | false => exact fun t ht => Option.some.inj ht ▸ .inl rfl
  · by_cases held : sink.plan queue.depth ⟨n, !grew, stopping⟩ = 0
    · simp only [Shift.step, Station.step_planning_held empty held, if_neg empty]
      exact fun t ht => Option.some.inj ht ▸ .inl held
    · simp only [Shift.step, Station.step_planning_some empty held, if_neg empty]
      exact ⟨_, _, rfl, rfl, held, rfl, depth.le⟩

/-- The worker writes. -/
theorem Settles.writes (h : c.Settles retry log) {batch : List Handle} {failures finalAttempts : Nat}
    (writing : c.station.phase = .writing batch failures finalAttempts) (sink : Sink ω Handle) :
    (c.step name observers retry (.work sink)).Settles retry (c.note log (.work sink)) := by
  have whole := h.depth_eq_step name observers (.work sink)
  have present := h.present
  obtain ⟨⟨queue, phase⟩, state, world, committed, attempts, late⟩ := c
  obtain rfl : phase = .writing batch failures finalAttempts := writing
  obtain ⟨t, past, rfl, tries, counted, few⟩ := present
  refine h.attempts tries few rfl whole rfl ?_
  simp only [Shift.step, Station.step, Shift.isLate]
  cases written : sink.write batch state with
  | mk result state' =>
    cases result with
    | ok =>
      intro u hu
      obtain rfl := Option.some.inj hu
      exact .inr ⟨_, List.mem_append_right _ (List.mem_singleton.mpr rfl), rfl⟩
    | error e =>
      cases e with
      | overflow cause => trivial
      | reported e =>
        simp only [Station.afterFailure]
        split
        · trivial
        · rename_i more
          refine ⟨_, _, rfl, tries.concat rfl, ?_, ?_⟩
          · rw [Turn.late_concat]
            exact counted
          -- The worker has not given up, so there are final attempts left.
          · rw [Turn.late_concat]
            exact lt_max_of_lt_left (counted ▸ Nat.lt_of_not_le more)

/-- Every step of the worker keeps what holds of its rounds. -/
theorem Settles.work (h : c.Settles retry log) (sink : Sink ω Handle) :
    (c.step name observers retry (.work sink)).Settles retry (c.note log (.work sink)) := by
  have whole := h.depth_eq_step name observers (.work sink)
  obtain ⟨⟨queue, phase⟩, state, world, committed, attempts, late⟩ := c
  cases phase with
  | planning grew stopping n => exact h.plans rfl sink
  | writing batch failures n => exact h.writes rfl sink
  | peeking count =>
    obtain ⟨t, before, rfl, planned, some, untried, enough⟩ := h.present
    refine ⟨whole, (List.append_nil _).trans h.attempts_eq, h.past, h.sound,
      ⟨t, before, rfl, ⟨planned ▸ some, fun few => ?_, ?_⟩, ?_, ?_⟩⟩
    · rw [Queue.peek, List.length_take, ← planned]
      exact Nat.min_eq_left (few.trans enough)
    · rw [untried]
      exact fun a ha => absurd ha (by simp)
    · rw [Turn.late, untried]
      rfl
    · rw [Turn.late, untried]
      exact lt_max_of_lt_right Nat.one_pos
  | trying batch failures n =>
    obtain ⟨t, before, rfl, tries, counted, few⟩ := h.present
    refine ⟨whole, (List.append_nil _).trans h.attempts_eq, h.past, h.sound, ⟨t, before, rfl, tries, ?_, few⟩⟩
    simp only [counted, Shift.step, isLate]
    cases queue.closed <;> rfl
  | _ => exact ⟨whole, (List.append_nil _).trans h.attempts_eq, h.past, h.sound, h.present⟩

/-- A move keeps what holds of the rounds. -/
theorem Settles.step (h : c.Settles retry log) (move : Move ω) :
    (c.step name observers retry move).Settles retry (c.note log move) := by
  have whole := h.depth_eq_step name observers move
  cases move with
  | work sink => exact h.work sink
  | close => exact ⟨whole, h.attempts_eq, h.past, h.sound, h.present⟩
  | push x =>
    refine ⟨whole, h.attempts_eq, h.past, h.sound, ?_⟩
    have present := h.present
    obtain ⟨⟨queue, phase⟩, state, world, committed, attempts, late⟩ := c
    cases phase with
    | peeking count =>
      obtain ⟨t, before, rfl, planned, some, untried, enough⟩ := present
      refine ⟨t, before, rfl, planned, some, untried, ?_⟩
      simp only [Shift.step, Queue.push, List.length_append]
      exact enough.trans (Nat.le_add_right _ _)
    | _ => exact present

/-- Whatever is pushed and whenever, however the sinks plan and fail, the rounds are in order. -/
theorem Settles.run (h : c.Settles retry log) (moves : List (Move ω)) :
    (c.run name observers retry moves).Settles retry (rounds name observers retry c log moves) := by
  induction moves generalizing c log with
  | nil => exact h
  | cons move rest ih => exact ih (h.step move)

end Shift

end Blotter
