import Mathlib
import Blotter.Database.Batching
import Blotter.Proofs.Journal.Rounds

/-!
# Batches of the database

The worker counts for how many rounds it has held records back while more came, and the settings say on that ground how
many of them are written.

- In a run of the worker the count is the number of the latest rounds in which records were held back, and it stays
  below the limit (`Shift.Paces`).
- So no batch is larger than a full one, one that is not full has a reason, and records are not held back for too many
  rounds in a row (`Shift.run_batches`).
-/

namespace Blotter

/-! ## What is planned -/

namespace DatabaseSettings

variable {s : DatabaseSettings} {pending : Nat} {round : Round}

theorem fullBatch_pos (s : DatabaseSettings) : 0 < s.fullBatch := Nat.le_max_right s.batchSize 1

theorem plan_le_fullBatch (s : DatabaseSettings) (pending : Nat) (round : Round) :
    s.plan pending round ≤ s.fullBatch := by
  rw [plan]
  split
  · exact Nat.le_refl _
  · rename_i few
    split
    · exact (Nat.lt_of_not_le few).le
    · exact Nat.zero_le _

theorem plan_le_pending (s : DatabaseSettings) (pending : Nat) (round : Round) : s.plan pending round ≤ pending := by
  rw [plan]
  split
  · assumption
  · split
    · exact Nat.le_refl _
    · exact Nat.zero_le _

theorem plan_of_fullBatch_le (enough : s.fullBatch ≤ pending) : s.plan pending round = s.fullBatch := if_pos enough

/-- Records are only held back while more come to an open queue, and not for too many rounds. -/
theorem held_of_plan_eq_zero (some : pending ≠ 0) (held : s.plan pending round = 0) :
    round.idle = false ∧ round.stopping = false ∧ round.rounds + 1 < s.roundLimit := by
  rw [plan] at held
  split at held
  · exact absurd held (Nat.ne_of_gt s.fullBatch_pos)
  · split at held
    · exact absurd held some
    · rename_i waits
      simp only [Bool.or_eq_true, decide_eq_true_eq, not_or, Bool.not_eq_true] at waits
      exact ⟨waits.1.2, waits.1.1, Nat.lt_of_not_le waits.2⟩

/-- Otherwise they are written, even if they do not fill a batch. -/
theorem due_of_plan_ne_zero (planned : s.plan pending round ≠ 0) (short : s.plan pending round < s.fullBatch) :
    round.idle = true ∨ round.stopping = true ∨ s.roundLimit ≤ round.rounds + 1 := by
  by_cases enough : s.fullBatch ≤ pending
  · exact absurd short (by rw [plan_of_fullBatch_le enough]; exact Nat.lt_irrefl _)
  · rw [plan, if_neg enough] at planned
    split at planned
    · rename_i due
      simp only [Bool.or_eq_true, decide_eq_true_eq] at due
      tauto
    · exact absurd rfl planned

end DatabaseSettings

namespace Shift

/-! ## What is counted -/

/-- Whether records waited that were held back. -/
def Turn.holds (t : Turn) : Bool := t.pending != 0 && t.planned == 0

/-- For how many rounds in a row, up to the last one, records have been held back. -/
def heldFor (log : List Turn) : Nat := (log.takeWhile Turn.holds).length

/-- Whether a round went by the settings, on the ground of the rounds before it. -/
structure Turn.Goes (s : DatabaseSettings) (earlier : List Turn) (t : Turn) : Prop where
  planned_eq : t.planned = if t.pending = 0 then 0 else s.plan t.pending t.told
  rounds_eq : t.told.rounds = heldFor earlier

variable {ω : Type} {name : SinkName} {observers : List String} {retry : RetrySettings}
variable {s : DatabaseSettings} {c : Shift ω} {log earlier : List Turn} {t : Turn}

theorem Turn.holds_iff : t.holds = true ↔ t.pending ≠ 0 ∧ t.planned = 0 := by simp [Turn.holds]

theorem heldFor_of_holds (holds : t.holds = true) : heldFor (t :: earlier) = heldFor earlier + 1 := by
  rw [heldFor, List.takeWhile_cons_of_pos holds, List.length_cons, heldFor]

theorem heldFor_of_not_holds (holds : t.holds = false) : heldFor (t :: earlier) = 0 := by
  rw [heldFor, List.takeWhile_cons_of_neg (by simp [holds]), List.length_nil]

theorem le_heldFor {held : List Turn} (holds : ∀ u ∈ held, u.holds = true) (before : List Turn) :
    held.length ≤ heldFor (held ++ before) := by
  rw [heldFor, List.takeWhile_append_of_pos holds, List.length_append]
  exact Nat.le_add_right _ _

theorem exists_held {n : Nat} (enough : n ≤ heldFor log) :
    ∃ held before, log = held ++ before ∧ held.length = n ∧ ∀ u ∈ held, u.holds = true := by
  refine ⟨(log.takeWhile Turn.holds).take n, (log.takeWhile Turn.holds).drop n ++ log.dropWhile Turn.holds, ?_,
    List.length_take_of_le enough, fun u hu => List.mem_takeWhile_imp (List.mem_of_mem_take hu)⟩
  rw [← List.append_assoc, List.take_append_drop, List.takeWhile_append_dropWhile]

/-- Whether the worker knows for how many rounds records have been held back. -/
def Counts (s : DatabaseSettings) (c : Shift ω) (log : List Turn) : Prop :=
  match c.station.phase with
  | .waiting _ rounds | .woken _ rounds | .planning _ _ rounds => rounds = heldFor log ∧ rounds < s.roundLimit
  | .peeking _ | .trying _ _ _ | .writing _ _ _ | .committing _ | .announcing _ => heldFor log = 0
  | .asleep | .ended | .broken _ => True

/-- What holds of the rounds of a database worker all along. -/
structure Paces (s : DatabaseSettings) (c : Shift ω) (log : List Turn) : Prop where
  goes : ∀ t earlier, t :: earlier <:+ log → t.Goes s earlier
  counts : c.Counts s log

theorem roundLimit_pos (s : DatabaseSettings) : 0 < s.roundLimit := Nat.le_max_right s.maxRounds 1

theorem paces_begin (s : DatabaseSettings) (maxDepth : Nat) (state : ω) (now : Instant) :
    (begin maxDepth state now).Paces s [] where
  goes _ _ among := absurd (List.suffix_nil.mp among) (by simp)
  counts := ⟨rfl, roundLimit_pos s⟩

/-- The worker plans by the settings. -/
theorem Paces.plans (h : c.Paces s log) {grew stopping : Bool} {n : Nat}
    (planning : c.station.phase = .planning grew stopping n) {sink : Sink ω Handle} (planned : sink.plan = s.plan) :
    (c.step name observers retry (.work sink)).Paces s (c.note log (.work sink)) := by
  have counts := h.counts
  obtain ⟨⟨queue, phase⟩, state, world, committed, attempts, late⟩ := c
  obtain rfl : phase = .planning grew stopping n := planning
  obtain ⟨counted, few⟩ := counts
  refine ⟨fun t earlier among => ?_, ?_⟩
  · rcases List.suffix_cons_iff.mp among with same | among
    · obtain ⟨rfl, rfl⟩ := List.cons.inj same
      exact ⟨by rw [planned], counted⟩
    · exact h.goes t earlier among
  · by_cases empty : queue.depth = 0
    · simp only [Shift.step, Station.step_planning_empty empty]
      cases stopping with
      | true => trivial
      | false => exact ⟨(heldFor_of_not_holds (by simp [Turn.holds, empty])).symm, roundLimit_pos s⟩
    · by_cases held : sink.plan queue.depth ⟨n, !grew, stopping⟩ = 0
      · obtain ⟨more, -, limit⟩ := DatabaseSettings.held_of_plan_eq_zero empty (planned ▸ held)
        obtain rfl : grew = true := by simpa using more
        simp only [Shift.step, Station.step_planning_held empty held, if_pos]
        refine ⟨?_, limit⟩
        rw [note, heldFor_of_holds (Turn.holds_iff.mpr ⟨empty, by simp only [if_neg empty, held]⟩), ← counted]
      · simp only [Shift.step, Station.step_planning_some empty held]
        exact heldFor_of_not_holds (by simp [Turn.holds, empty, held])

/-- Attempts do not change what was planned. -/
theorem goes_add (goes : ∀ t earlier, t :: earlier <:+ log → t.Goes s earlier) (more : List Attempt) :
    ∀ t earlier, t :: earlier <:+ log.modifyHead (·.add more) → t.Goes s earlier := by
  cases log with
  | nil => exact goes
  | cons last past =>
    intro t earlier among
    rcases List.suffix_cons_iff.mp among with same | among
    · obtain ⟨rfl, rfl⟩ := List.cons.inj same
      obtain ⟨planned_eq, rounds_eq⟩ := goes last earlier List.suffix_rfl
      exact ⟨planned_eq, rounds_eq⟩
    · exact goes t earlier (among.trans (List.suffix_cons _ _))

theorem heldFor_add (log : List Turn) (more : List Attempt) : heldFor (log.modifyHead (·.add more)) = heldFor log := by
  cases log with
  | nil => rfl
  | cons last past =>
    cases holds : last.holds with
    | true =>
      have holds' : (last.add more).holds = true := holds
      rw [List.modifyHead_cons, heldFor_of_holds holds, heldFor_of_holds holds']
    | false =>
      have holds' : (last.add more).holds = false := holds
      rw [List.modifyHead_cons, heldFor_of_not_holds holds, heldFor_of_not_holds holds']

/-- Every step of the worker keeps its count. -/
theorem Paces.work (h : c.Paces s log) {sink : Sink ω Handle} (planned : sink.plan = s.plan) :
    (c.step name observers retry (.work sink)).Paces s (c.note log (.work sink)) := by
  obtain ⟨⟨queue, phase⟩, state, world, committed, attempts, late⟩ := c
  cases phase with
  | planning grew stopping n => exact h.plans rfl planned
  | writing batch failures n =>
    have counted : heldFor log = 0 := h.counts
    refine ⟨goes_add h.goes _, ?_⟩
    simp only [Shift.step, Station.step]
    cases sink.write batch state with
    | mk result state' =>
      cases result with
      | ok => exact (heldFor_add log _).trans counted
      | error e =>
        cases e with
        | overflow cause => trivial
        | reported e =>
          simp only [Station.afterFailure]
          split
          · trivial
          · exact (heldFor_add log _).trans counted
  | announcing batch => exact ⟨h.goes, Eq.symm h.counts, roundLimit_pos s⟩
  | _ => exact ⟨h.goes, h.counts⟩

/-- A move keeps the count. -/
theorem Paces.step (h : c.Paces s log) {move : Move ω} (planned : ∀ sink, move = .work sink → sink.plan = s.plan) :
    (c.step name observers retry move).Paces s (c.note log move) := by
  cases move with
  | work sink => exact h.work (planned sink rfl)
  | _ => exact ⟨h.goes, h.counts⟩

/-- So do moves. -/
theorem Paces.run (h : c.Paces s log) {moves : List (Move ω)}
    (planned : ∀ sink, .work sink ∈ moves → sink.plan = s.plan) :
    (c.run name observers retry moves).Paces s (rounds name observers retry c log moves) := by
  induction moves generalizing c log with
  | nil => exact h
  | cons move rest ih =>
    refine ih (h.step fun sink is => planned sink (is ▸ List.mem_cons_self)) fun sink among => ?_
    exact planned sink (List.mem_cons_of_mem _ among)

/-! ## The policy -/

/-- The policy by which the rounds of a database worker go, the last one first. -/
structure Batches (s : DatabaseSettings) (log : List Turn) : Prop where
  /-- No batch is larger than a full one, and what is tried to write has the planned size. -/
  size : ∀ t ∈ log, t.planned ≤ s.batchSize ∧ ∀ a ∈ t.attempts, a.batch.length = t.planned
  /-- Where so many records wait, a full batch is written. -/
  full : ∀ t ∈ log, s.batchSize ≤ t.pending → t.planned = s.batchSize
  /-- A batch that is not full is written when no more records come, when the queue is closed, or after records were
  held back while more came in as many rounds as they may be. -/
  due : ∀ t earlier, t :: earlier <:+ log → t.planned ≠ 0 → t.planned < s.batchSize →
    t.told.idle = true ∨ t.told.stopping = true ∨ ∃ held before, earlier = held ++ before ∧
      held.length = s.maxRounds - 1 ∧
      ∀ u ∈ held, u.pending ≠ 0 ∧ u.planned = 0 ∧ u.attempts = [] ∧ u.told.idle = false
  /-- No more rounds in a row hold records back. -/
  held : ∀ held, held <:+: log → (∀ u ∈ held, u.pending ≠ 0 ∧ u.planned = 0) → held.length ≤ s.maxRounds - 1
  /-- Where records were planned, the round only gives way to another one when the sink has taken them. -/
  wrote : ∀ t ∈ log.tail, t.planned ≠ 0 → ∃ a ∈ t.attempts, a.accepted = true

theorem Turn.Goes.le_pending (h : t.Goes s earlier) : t.planned ≤ t.pending := by
  rw [h.planned_eq]
  split
  · exact Nat.zero_le _
  · exact s.plan_le_pending _ _

/-- Records are held back while more come, and not for too many rounds. -/
theorem Turn.Goes.few (h : t.Goes s earlier) (holds : t.pending ≠ 0 ∧ t.planned = 0) :
    t.told.idle = false ∧ heldFor earlier + 1 < s.roundLimit := by
  have planned := h.planned_eq
  rw [if_neg holds.1, holds.2] at planned
  obtain ⟨more, -, limit⟩ := DatabaseSettings.held_of_plan_eq_zero holds.1 planned.symm
  exact ⟨more, h.rounds_eq ▸ limit⟩

/-- A batch that is not full is due. -/
theorem Turn.Goes.due (h : t.Goes s earlier) (planned : t.planned ≠ 0) (short : t.planned < s.fullBatch) :
    t.told.idle = true ∨ t.told.stopping = true ∨ s.roundLimit ≤ heldFor earlier + 1 := by
  have some : t.pending ≠ 0 := fun none => planned (h.planned_eq.trans (if_pos none))
  have planned_eq := h.planned_eq
  rw [if_neg some] at planned_eq
  rw [planned_eq] at planned short
  rw [← h.rounds_eq]
  exact DatabaseSettings.due_of_plan_ne_zero planned short

theorem Paces.goes_of_mem (h : c.Paces s log) (among : t ∈ log) : ∃ earlier, t.Goes s earlier := by
  obtain ⟨later, earlier, rfl⟩ := List.append_of_mem among
  exact ⟨earlier, h.goes t earlier (List.suffix_append _ _)⟩

/-- The count of the worker is all that the policy needs. -/
theorem Paces.batches (h : c.Paces s log) (settles : c.Settles retry log) (full : 0 < s.batchSize)
    (some : 0 < s.maxRounds) : Batches s log := by
  have size : s.fullBatch = s.batchSize := Nat.max_eq_left full
  have limit : s.roundLimit = s.maxRounds := Nat.max_eq_left some
  have untried (u : Turn) (among : u ∈ log) (none : u.planned = 0) : u.attempts = [] := by
    rcases (settles.sound u among).tries with untried | ⟨batch, tries⟩
    · exact untried
    · exact absurd none tries.some
  refine ⟨fun t among => ?_, fun t among enough => ?_, fun t earlier among planned short => ?_,
    fun held among holds => ?_, fun t among planned => (settles.past t among).resolve_left planned⟩
  · obtain ⟨earlier, goes⟩ := h.goes_of_mem among
    constructor
    · rw [goes.planned_eq, ← size]
      split
      · exact Nat.zero_le _
      · exact s.plan_le_fullBatch _ _
    · intro a ha
      rcases (settles.sound t among).tries with untried | ⟨batch, tries⟩
      · rw [untried] at ha
        exact absurd ha (by simp)
      · rw [tries.batch_eq a ha]
        exact tries.length goes.le_pending
  · obtain ⟨earlier, goes⟩ := h.goes_of_mem among
    rw [goes.planned_eq, if_neg (by omega), DatabaseSettings.plan_of_fullBatch_le (size.trans_le enough), size]
  · rcases (h.goes t earlier among).due planned (size ▸ short) with idle | stopping | forced
    · exact .inl idle
    · exact .inr (.inl stopping)
    -- What the worker has counted are the latest rounds, and in those it was told to hold records back.
    · have enough : s.maxRounds - 1 ≤ heldFor earlier := by omega
      obtain ⟨held, before, rfl, length, holds⟩ := exists_held enough
      refine .inr (.inr ⟨held, before, rfl, length, fun u hu => ?_⟩)
      have among' : u ∈ log := among.subset (List.mem_cons_of_mem _ (List.mem_append_left _ hu))
      have holds' := Turn.holds_iff.mp (holds u hu)
      obtain ⟨_, goes⟩ := h.goes_of_mem among'
      exact ⟨holds'.1, holds'.2, untried u among' holds'.2, (goes.few holds').1⟩
  · cases held with
    | nil => exact Nat.zero_le _
    | cons t held =>
      obtain ⟨later, before, rfl⟩ := among
      have goes := h.goes t (held ++ before) ⟨later, by simp⟩
      have few := (goes.few (holds t List.mem_cons_self)).2
      have behind := le_heldFor (fun u hu => Turn.holds_iff.mpr (holds u (List.mem_cons_of_mem t hu))) before
      rw [List.length_cons]
      omega

/-- Whatever is pushed and whenever, and whatever becomes of the batches, the worker of the database keeps to its
policy. -/
theorem run_batches (full : 0 < s.batchSize) (some : 0 < s.maxRounds) (maxDepth : Nat) (state : ω) (now : Instant)
    {moves : List (Move ω)} (planned : ∀ sink, .work sink ∈ moves → sink.plan = s.plan) :
    Batches s (rounds name observers retry (begin maxDepth state now) [] moves) :=
  ((paces_begin s maxDepth state now).run planned).batches ((settles_begin maxDepth state now).run moves) full some

/-- Batches of three records, which are held for two rounds at most. -/
def exampleSettings : DatabaseSettings := { batchSize := 3, maxRounds := 2 }

/-- Two records come one after the other and are written after an attempt in vain. Four more come at once, of which the
last one waits until no more do. -/
def exampleArrivals : List (Move (DatabaseSink × Disk × ScriptedSink)) :=
  let items (ns : List Nat) : List (Move _) :=
    ns.map fun n => .push ⟨n, ⟨n + 1, .epoch, false, .messagingStats ⟨"c", 1, 2, 0, .epoch⟩⟩⟩
  let work (n : Nat) (fate : DatabaseFate) : List (Move _) :=
    List.replicate n (.work (exampleSettings.sinkWith fate .epoch))
  items [0] ++ work 3 .sound ++ items [1] ++ work 5 .sound ++ work 1 (.refused (.unavailable "x")) ++ work 4 .sound ++
    items [2, 3, 4, 5] ++ work 14 .sound

/-- The rounds, the last one first: the second one was due, the third one was full, and the last one was idle. -/
theorem run_batches_exampleArrivals :
    let log := rounds .database [] {} (begin 10 (.scripted, .empty, {}) .epoch) [] exampleArrivals
    Batches exampleSettings log ∧ log.map (fun t => (t.pending, t.planned, t.attempts.length)) =
      [(1, 1, 0), (1, 0, 0), (4, 3, 1), (2, 2, 2), (1, 0, 0)] := by
  refine ⟨run_batches (by decide) (by decide) 10 _ _ fun sink among => ?_, by decide +kernel⟩
  simp only [exampleArrivals, List.mem_append, List.mem_map, List.mem_replicate, reduceCtorEq, and_false, exists_false,
    false_or, or_false, Move.work.injEq] at among
  rcases among with (((⟨-, rfl⟩ | ⟨-, rfl⟩) | ⟨-, rfl⟩) | ⟨-, rfl⟩) | ⟨-, rfl⟩ <;> rfl

end Shift

end Blotter
