import Mathlib
import Blotter.Journal.Worker

/-!
# Stations

What holds of a queue and its worker however their steps and those of the owner are mixed.

- All that a step of a worker may come to is said once (`Station.steps`).
- The items that were pushed are those that were taken off, followed by those that wait, and what the worker has in its
  hands is some of those at the front of the queue (`Station.Keeps`). Pushing, closing, starting and every step of the
  worker keep that (`Keeps.push`, `Keeps.close`, `Keeps.start`, `Keeps.step`).
- A sink that says what it has taken (`Intake`) has taken the items that were taken off the queue, and maybe some of
  those that the worker tries to write (`Station.Delivers`). The step of a worker that does not fail keeps that
  (`Delivers.step`), and a worker that has ended has delivered everything (`Delivers.ended`).
-/

namespace Blotter

variable {ω ι : Type}

/-- Whether what a worker does next agrees with its queue. What it tries to write are some items at the front, and the
attempts that are counted as final began when the queue was closed. -/
def Phase.Fits (q : Queue ι) : Phase ι → Prop
  | .planning _ stopping _ => stopping = true → q.closed = true
  | .peeking count => count ≠ 0 ∧ q.items ≠ []
  | .trying batch _ finalAttempts | .writing batch _ finalAttempts =>
    (batch ≠ [] ∧ batch <+: q.items) ∧ (finalAttempts ≠ 0 → q.closed = true)
  | .committing batch => batch ≠ [] ∧ batch <+: q.items
  | .ended => q.closed = true
  | .asleep | .waiting _ _ | .woken _ _ | .announcing _ | .broken _ => True

namespace Station

variable {s : Station ι} {pushed done : List ι} {sink : Sink ω ι} {retry : RetrySettings} {w : ω}

/-! ## Steps -/

/-- What the next step of a worker may come to, with the world after it and what others notice. -/
inductive Steps (sink : Sink ω ι) (retry : RetrySettings) (w : ω) :
    Station ι → Station ι × ω × Option (WorkerEvent ι) → Prop where
  | sleeps (q : Queue ι) : Steps sink retry w ⟨q, .asleep⟩ (⟨q, .asleep⟩, w, none)
  | wakes (q : Queue ι) (held rounds : Nat) (grew : Bool) :
      Steps sink retry w ⟨q, .waiting held rounds⟩ (⟨q, .woken grew rounds⟩, w, none)
  | looks (q : Queue ι) (grew : Bool) (rounds : Nat) :
      Steps sink retry w ⟨q, .woken grew rounds⟩ (⟨q, .planning grew q.closed rounds⟩, w, none)
  | ends (q : Queue ι) (grew : Bool) (rounds : Nat) (empty : q.depth = 0) :
      Steps sink retry w ⟨q, .planning grew true rounds⟩ (⟨q, .ended⟩, w, none)
  | holds (q : Queue ι) (grew stopping : Bool) (rounds held rounds' : Nat)
      (goesOn : q.depth ≠ 0 ∨ stopping = false) :
      Steps sink retry w ⟨q, .planning grew stopping rounds⟩ (⟨q, .waiting held rounds'⟩, w, none)
  | plans (q : Queue ι) (grew stopping : Bool) (rounds count : Nat) (some : q.depth ≠ 0) (count_ne : count ≠ 0) :
      Steps sink retry w ⟨q, .planning grew stopping rounds⟩ (⟨q, .peeking count⟩, w, none)
  | peeks (q : Queue ι) (count : Nat) :
      Steps sink retry w ⟨q, .peeking count⟩ (⟨q, .trying (q.peek count) 0 0⟩, w, none)
  | tries (q : Queue ι) (batch : List ι) (failures finalAttempts : Nat) :
      Steps sink retry w ⟨q, .trying batch failures finalAttempts⟩
        (⟨q, .writing batch failures (finalAttempts + q.closed.toNat)⟩, w, none)
  | writes (q : Queue ι) (batch : List ι) (failures finalAttempts : Nat) (w' : ω)
      (written : sink.write batch w = (.ok (), w')) :
      Steps sink retry w ⟨q, .writing batch failures finalAttempts⟩ (⟨q, .committing batch⟩, w', some (.wrote batch))
  | isRefused (q : Queue ι) (batch : List ι) (failures finalAttempts : Nat) (w' : ω) (e : SinkError) (alert : Bool)
      (written : sink.write batch w = (.error (.reported e), w')) (more : finalAttempts < retry.finalAttempts) :
      Steps sink retry w ⟨q, .writing batch failures finalAttempts⟩
        (⟨q, .trying batch (failures + 1) finalAttempts⟩, w', some (.failed alert))
  | givesUp (q : Queue ι) (batch : List ι) (failures finalAttempts : Nat) (w' : ω) (e : SinkError) (alert : Bool)
      (written : sink.write batch w = (.error (.reported e), w')) (last : retry.finalAttempts ≤ finalAttempts) :
      Steps sink retry w ⟨q, .writing batch failures finalAttempts⟩ (⟨q, .ended⟩, w', some (.failed alert))
  | breaks (q : Queue ι) (batch : List ι) (failures finalAttempts : Nat) (w' : ω) (cause : Overflow)
      (written : sink.write batch w = (.error (.overflow cause), w')) :
      Steps sink retry w ⟨q, .writing batch failures finalAttempts⟩ (⟨q, .broken cause⟩, w', none)
  | commits (q : Queue ι) (batch : List ι) :
      Steps sink retry w ⟨q, .committing batch⟩ (⟨q.commit batch.length, .announcing batch⟩, w, none)
  | announces (q : Queue ι) (batch : List ι) :
      Steps sink retry w ⟨q, .announcing batch⟩ (⟨q, .waiting 0 0⟩, w, some (.announced batch))
  | hasEnded (q : Queue ι) : Steps sink retry w ⟨q, .ended⟩ (⟨q, .ended⟩, w, none)
  | isBroken (q : Queue ι) (cause : Overflow) :
      Steps sink retry w ⟨q, .broken cause⟩ (⟨q, .broken cause⟩, w, none)

/-- A worker makes one of these steps. -/
theorem steps (s : Station ι) (sink : Sink ω ι) (retry : RetrySettings) (w : ω) :
    Steps sink retry w s (s.step sink retry w) := by
  obtain ⟨queue, phase⟩ := s
  cases phase with
  | asleep => exact .sleeps queue
  | waiting held rounds => exact .wakes queue held rounds _
  | woken grew rounds => exact .looks queue grew rounds
  | planning grew stopping rounds =>
    simp only [step]
    split
    · rename_i none
      cases stopping with
      | true => exact .ends queue grew rounds (beq_iff_eq.mp none)
      | false => exact .holds queue grew false rounds 0 0 (.inr rfl)
    · rename_i some
      have some : queue.depth ≠ 0 := fun none => some (beq_iff_eq.mpr none)
      split
      · exact .holds queue grew stopping rounds _ _ (.inl some)
      · rename_i count
        exact .plans queue grew stopping rounds _ some (by simpa using count)
  | peeking count => exact .peeks queue count
  | trying batch failures finalAttempts =>
    have counted : (if queue.closed then finalAttempts + 1 else finalAttempts) =
        finalAttempts + queue.closed.toNat := by
      cases queue.closed <;> rfl
    simp only [step, counted]
    exact .tries queue batch failures finalAttempts
  | writing batch failures finalAttempts =>
    simp only [step]
    cases written : sink.write batch w with
    | mk result w' =>
      cases result with
      | ok => exact .writes queue batch failures finalAttempts w' written
      | error e =>
        cases e with
        | reported e =>
          simp only [afterFailure]
          split
          · rename_i last
            exact .givesUp queue batch failures finalAttempts w' e _ written last
          · rename_i more
            exact .isRefused queue batch failures finalAttempts w' e _ written (Nat.lt_of_not_le more)
        | overflow cause => exact .breaks queue batch failures finalAttempts w' cause written
  | committing batch => exact .commits queue batch
  | announcing batch => exact .announces queue batch
  | ended => exact .hasEnded queue
  | broken cause => exact .isBroken queue cause

/-! A worker that plans ends or starts over if nothing waits, and otherwise the sink has its say. -/

theorem step_planning_empty {q : Queue ι} (empty : q.depth = 0) (grew stopping : Bool) (rounds : Nat) :
    (⟨q, .planning grew stopping rounds⟩ : Station ι).step sink retry w =
      (⟨q, if stopping then .ended else .waiting 0 0⟩, w, none) := by
  simp only [step, empty, beq_self_eq_true, if_true]

theorem step_planning_held {q : Queue ι} {grew stopping : Bool} {rounds : Nat} (some : q.depth ≠ 0)
    (held : sink.plan q.depth ⟨rounds, !grew, stopping⟩ = 0) :
    (⟨q, .planning grew stopping rounds⟩ : Station ι).step sink retry w =
      (⟨q, .waiting q.depth (if grew then rounds + 1 else rounds)⟩, w, none) := by
  simp only [step, beq_eq_false_iff_ne.mpr some, held, Bool.false_eq_true, if_false, beq_self_eq_true, if_true]

theorem step_planning_some {q : Queue ι} {grew stopping : Bool} {rounds : Nat} (some : q.depth ≠ 0)
    (planned : sink.plan q.depth ⟨rounds, !grew, stopping⟩ ≠ 0) :
    (⟨q, .planning grew stopping rounds⟩ : Station ι).step sink retry w =
      (⟨q, .peeking (sink.plan q.depth ⟨rounds, !grew, stopping⟩)⟩, w, none) := by
  simp only [step, beq_eq_false_iff_ne.mpr some, beq_eq_false_iff_ne.mpr planned, Bool.false_eq_true, if_false]

/-- A worker that is done makes no steps. -/
theorem step_of_isDone (isDone : s.isDone = true) : s.step sink retry w = (s, w, none) := by
  obtain ⟨queue, phase⟩ := s
  cases phase <;> first | rfl | simp [Station.isDone] at isDone

/-! ## The queue -/

/-- What holds of a station all along, with the items that were pushed and those that were taken off. -/
structure Keeps (s : Station ι) (pushed done : List ι) : Prop where
  pushed_eq : pushed = done ++ s.queue.items
  depth_eq : s.queue.depth = s.queue.items.length
  fits : s.phase.Fits s.queue

/-- The items that were taken off the queue after the next step of the worker. -/
def doneAfter (s : Station ι) (done : List ι) : List ι :=
  match s.phase with
  | .committing batch => done ++ batch
  | _ => done

theorem keeps_new (maxDepth : Nat) : (new maxDepth : Station ι).Keeps [] [] := ⟨rfl, rfl, trivial⟩

/-- The worker goes on. -/
theorem Keeps.goOn (h : s.Keeps pushed done) {phase : Phase ι} (fits : phase.Fits s.queue) :
    (⟨s.queue, phase⟩ : Station ι).Keeps pushed done := ⟨h.pushed_eq, h.depth_eq, fits⟩

theorem Keeps.start (h : s.Keeps pushed done) : s.start.Keeps pushed done := ⟨h.pushed_eq, h.depth_eq, trivial⟩

theorem Keeps.close (h : s.Keeps pushed done) : s.close.Keeps pushed done := by
  refine ⟨h.pushed_eq, h.depth_eq, ?_⟩
  obtain ⟨queue, phase⟩ := s
  have fits := h.fits
  cases phase with
  | planning grew stopping rounds => exact fun _ => rfl
  | trying batch failures finalAttempts => exact ⟨fits.1, fun _ => rfl⟩
  | writing batch failures finalAttempts => exact ⟨fits.1, fun _ => rfl⟩
  | ended => exact rfl
  | _ => exact fits

/-- An item is pushed. -/
theorem Keeps.push (h : s.Keeps pushed done) (x : ι) :
    ({ s with queue := s.queue.push x } : Station ι).Keeps (pushed ++ [x]) done := by
  obtain ⟨queue, phase⟩ := s
  have fits := h.fits
  have depth := h.depth_eq
  have more : queue.items <+: queue.items ++ [x] := List.prefix_append _ _
  refine ⟨?_, ?_, ?_⟩
  · rw [h.pushed_eq, List.append_assoc]
    rfl
  · simp only [Queue.push, List.length_append, List.length_singleton] at depth ⊢
    omega
  · cases phase with
    | peeking count => exact ⟨fits.1, by simp [Queue.push]⟩
    | trying batch failures finalAttempts => exact ⟨⟨fits.1.1, fits.1.2.trans more⟩, fits.2⟩
    | writing batch failures finalAttempts => exact ⟨⟨fits.1.1, fits.1.2.trans more⟩, fits.2⟩
    | committing batch => exact ⟨fits.1, fits.2.trans more⟩
    | _ => exact fits

/-- The items at the front are taken off. -/
theorem Keeps.commit (h : s.Keeps pushed done) {batch : List ι} (front : batch <+: s.queue.items) {phase : Phase ι}
    (fits : phase.Fits (s.queue.commit batch.length)) :
    (⟨s.queue.commit batch.length, phase⟩ : Station ι).Keeps pushed (done ++ batch) := by
  obtain ⟨rest, items⟩ := front
  have depth := h.depth_eq
  refine ⟨?_, ?_, fits⟩
  · simp [Queue.commit, h.pushed_eq, ← items]
  · simp only [Queue.commit, depth, ← items, List.length_append, List.drop_left, Nat.min_def]
    split <;> omega

theorem Keeps.depth_eq_zero_iff (h : s.Keeps pushed done) : s.queue.depth = 0 ↔ s.queue.items = [] := by
  rw [h.depth_eq, List.length_eq_zero_iff]

/-- Every step of a worker keeps what holds of its station, if a batch gets a final attempt at all. -/
theorem Keeps.step (h : s.Keeps pushed done) (patient : retry.finalAttempts ≠ 0) :
    (s.step sink retry w).1.Keeps pushed (s.doneAfter done) := by
  have fits := h.fits
  have steps := s.steps sink retry w
  generalize s.step sink retry w = outcome at steps ⊢
  cases steps with
  | looks q grew rounds => exact h.goOn fun stopping => stopping
  | ends q grew rounds => exact h.goOn (fits rfl)
  | plans q grew stopping rounds count some count_ne =>
    exact h.goOn ⟨count_ne, fun empty => some (h.depth_eq_zero_iff.mpr empty)⟩
  | peeks q count =>
    have some : q.peek count ≠ [] := by simp [Queue.peek, List.take_eq_nil_iff, fits.1, fits.2]
    exact h.goOn ⟨⟨some, List.take_prefix _ _⟩, fun final => absurd rfl final⟩
  | tries q batch failures finalAttempts =>
    refine h.goOn ⟨fits.1, fun final => ?_⟩
    cases closed : q.closed with
    | true => rfl
    | false =>
      rw [closed] at final
      exact closed ▸ fits.2 final
  | writes q batch failures finalAttempts => exact h.goOn fits.1
  | isRefused q batch failures finalAttempts => exact h.goOn fits
  | givesUp q batch failures finalAttempts w' e alert written last => exact h.goOn (fits.2 (by omega))
  | commits q batch => exact h.commit fits.2 trivial
  | hasEnded q => exact h
  | _ => exact h.goOn trivial

/-- A step of a worker keeps the depth of its queue. -/
theorem depth_eq_step (depth : s.queue.depth = s.queue.items.length) :
    (s.step sink retry w).1.queue.depth = (s.step sink retry w).1.queue.items.length := by
  have steps := s.steps sink retry w
  generalize s.step sink retry w = outcome at steps ⊢
  cases steps with
  | commits q batch =>
    have := Nat.min_le_right batch.length q.items.length
    have := Nat.min_le_left batch.length q.items.length
    simp only [Queue.commit, List.length_drop, show q.depth = q.items.length from depth, Nat.min_def]
    split <;> omega
  | _ => exact depth

/-! ## The sink -/

end Station

/-- What it means that a sink has taken items: these and no others (`held`), or these and maybe some of a batch
(`trying`). -/
structure Intake (ω ι : Type) where
  held : List ι → ω → Prop
  trying : List ι → List ι → ω → Prop

/-- Whether a sink takes batches in this sense, as long as they continue what it has taken among the given items. -/
structure Intake.Admits (p : Intake ω ι) (sink : Sink ω ι) (pushed : List ι) : Prop where
  trying_of_held : ∀ taken batch w, p.held taken w → p.trying taken batch w
  held_of_ok : ∀ taken batch w w', taken ++ batch <+: pushed → p.trying taken batch w →
    sink.write batch w = (.ok (), w') → p.held (taken ++ batch) w'
  trying_of_error : ∀ taken batch w w' e, taken ++ batch <+: pushed → p.trying taken batch w →
    sink.write batch w = (.error (.reported e), w') → p.trying taken batch w'

/-- What a sink has taken while its worker is in a phase, with the items that were taken off the queue. -/
def Intake.At (p : Intake ω ι) (done : List ι) (w : ω) : Phase ι → Prop
  | .trying batch _ _ | .writing batch _ _ => p.trying done batch w
  | .committing batch => p.held (done ++ batch) w
  | .asleep | .waiting _ _ | .woken _ _ | .planning _ _ _ | .peeking _ | .announcing _ | .ended | .broken _ =>
    p.held done w

namespace Station

variable {s : Station ι} {p : Intake ω ι} {pushed done : List ι} {sink : Sink ω ι} {retry : RetrySettings} {w w' : ω}

/-- Whether a worker has broken down, or has just given up the items that it was writing. -/
def fails (s s' : Station ι) : Bool :=
  match s.phase, s'.phase with
  | .writing _ _ _, .ended => true
  | _, .broken _ => true
  | _, _ => false

/-- Whether what was taken off the queue is in the sink. -/
def Delivers (s : Station ι) (p : Intake ω ι) (pushed : List ι) (w : ω) : Prop :=
  ∃ done, s.Keeps pushed done ∧ p.At done w s.phase ∧ (s.phase = .ended → s.queue.items = [])

/-- A worker that does not fail writes what the sink takes. -/
theorem Keeps.at_step (keeps : s.Keeps pushed done) (admits : p.Admits sink pushed)
    (survives : s.fails (s.step sink retry w).1 = false) (taken : p.At done w s.phase) :
    p.At (s.doneAfter done) (s.step sink retry w).2.1 (s.step sink retry w).1.phase := by
  have next (batch : List ι) (front : batch <+: s.queue.items) : done ++ batch <+: pushed := by
    rw [keeps.pushed_eq]
    exact (List.prefix_append_right_inj done).mpr front
  have fits := keeps.fits
  have steps := s.steps sink retry w
  generalize s.step sink retry w = outcome at steps survives ⊢
  cases steps with
  | peeks q count => exact admits.trying_of_held _ _ _ taken
  | writes q batch failures finalAttempts w' written =>
    exact admits.held_of_ok _ _ _ _ (next batch fits.1.2) taken written
  | isRefused q batch failures finalAttempts w' e alert written =>
    exact admits.trying_of_error _ _ _ _ _ (next batch fits.1.2) taken written
  | givesUp q batch failures finalAttempts => exact absurd survives (by simp [fails])
  | breaks q batch failures finalAttempts w' cause => exact absurd survives (by simp [fails])
  | _ => exact taken

/-- A worker that does not fail ends when its queue is empty. -/
theorem Keeps.empty_of_ended (keeps : s.Keeps pushed done) (survives : s.fails (s.step sink retry w).1 = false)
    (empty : s.phase = .ended → s.queue.items = []) (ended : (s.step sink retry w).1.phase = .ended) :
    (s.step sink retry w).1.queue.items = [] := by
  have steps := s.steps sink retry w
  generalize s.step sink retry w = outcome at steps survives ended ⊢
  cases steps with
  | ends q grew rounds none => exact keeps.depth_eq_zero_iff.mp none
  | givesUp q batch failures finalAttempts => exact absurd survives (by simp [fails])
  | hasEnded q => exact empty rfl
  | _ => exact absurd ended (by simp)

/-- Every step of a worker that does not fail keeps what was delivered. -/
theorem Delivers.step (h : s.Delivers p pushed w) (patient : retry.finalAttempts ≠ 0) (admits : p.Admits sink pushed)
    (survives : s.fails (s.step sink retry w).1 = false) :
    (s.step sink retry w).1.Delivers p pushed (s.step sink retry w).2.1 := by
  obtain ⟨done, keeps, taken, empty⟩ := h
  exact ⟨s.doneAfter done, keeps.step patient, keeps.at_step admits survives taken, keeps.empty_of_ended survives empty⟩

/-- A step leaves the world as it is, or it writes a batch. -/
theorem step_world (s : Station ι) : (s.step sink retry w).2.1 = w ∨ ∃ batch failures attempts,
    s.phase = .writing batch failures attempts ∧ (s.step sink retry w).2.1 = (sink.write batch w).2 := by
  have steps := s.steps sink retry w
  generalize s.step sink retry w = outcome at steps ⊢
  cases steps with
  | writes q batch failures finalAttempts w' written =>
    exact .inr ⟨batch, failures, finalAttempts, rfl, (congrArg Prod.snd written).symm⟩
  | isRefused q batch failures finalAttempts w' e alert written =>
    exact .inr ⟨batch, failures, finalAttempts, rfl, (congrArg Prod.snd written).symm⟩
  | givesUp q batch failures finalAttempts w' e alert written =>
    exact .inr ⟨batch, failures, finalAttempts, rfl, (congrArg Prod.snd written).symm⟩
  | breaks q batch failures finalAttempts w' cause written =>
    exact .inr ⟨batch, failures, finalAttempts, rfl, (congrArg Prod.snd written).symm⟩
  | _ => exact .inl rfl

/-- A batch that is written continues what was taken off the queue. -/
theorem Delivers.step_world (h : s.Delivers p pushed w) :
    (s.step sink retry w).2.1 = w ∨ ∃ done batch, done ++ batch <+: pushed ∧ p.trying done batch w ∧
      (s.step sink retry w).2.1 = (sink.write batch w).2 := by
  obtain ⟨done, keeps, taken, -⟩ := h
  refine s.step_world.imp_right ?_
  intro ⟨batch, failures, finalAttempts, writing, written⟩
  have fits := keeps.fits
  rw [writing] at fits taken
  refine ⟨done, batch, ?_, taken, written⟩
  rw [keeps.pushed_eq]
  exact (List.prefix_append_right_inj done).mpr fits.1.2

/-- A worker that has ended has delivered everything. -/
theorem Delivers.ended (h : s.Delivers p pushed w) (ended : s.phase = .ended) : p.held pushed w := by
  obtain ⟨done, keeps, taken, empty⟩ := h
  have pushed_eq := keeps.pushed_eq
  rw [ended] at taken
  rw [empty ended, List.append_nil] at pushed_eq
  exact pushed_eq ▸ taken

/-- What happens elsewhere in the world does not matter as long as the sink does not lose anything. -/
theorem Delivers.elsewhere (h : s.Delivers p pushed w) (held : ∀ taken, p.held taken w → p.held taken w')
    (trying : ∀ taken batch, p.trying taken batch w → p.trying taken batch w') : s.Delivers p pushed w' := by
  obtain ⟨done, keeps, taken, empty⟩ := h
  refine ⟨done, keeps, ?_, empty⟩
  cases phase : s.phase with
  | trying batch failures finalAttempts =>
    rw [phase] at taken
    exact trying done batch taken
  | writing batch failures finalAttempts =>
    rw [phase] at taken
    exact trying done batch taken
  | _ =>
    rw [phase] at taken
    exact held _ taken

theorem Delivers.push (h : s.Delivers p pushed w) (opened : s.queue.closed = false) (x : ι) :
    ({ s with queue := s.queue.push x } : Station ι).Delivers p (pushed ++ [x]) w := by
  obtain ⟨done, keeps, taken, -⟩ := h
  refine ⟨done, keeps.push x, taken, fun ended => ?_⟩
  have fits := keeps.fits
  rw [show s.phase = .ended from ended] at fits
  rw [show s.queue.closed = true from fits] at opened
  exact absurd opened (by simp)

theorem Delivers.close (h : s.Delivers p pushed w) : s.close.Delivers p pushed w := by
  obtain ⟨done, keeps, taken, empty⟩ := h
  exact ⟨done, keeps.close, taken, empty⟩

theorem Delivers.start (h : s.Delivers p pushed w) (asleep : s.phase = .asleep) : s.start.Delivers p pushed w := by
  obtain ⟨done, keeps, taken, -⟩ := h
  rw [asleep] at taken
  exact ⟨done, keeps.start, taken, fun ended => nomatch ended⟩

/-- A step does not close a queue or open it, and it neither wakes a worker nor puts it to sleep. -/
theorem step_gates (s : Station ι) (sink : Sink ω ι) (retry : RetrySettings) (w : ω) :
    (s.step sink retry w).1.queue.closed = s.queue.closed ∧
    ((s.step sink retry w).1.phase = .asleep ↔ s.phase = .asleep) ∧
    (s.phase = .ended → (s.step sink retry w).1.phase = .ended) := by
  have steps := s.steps sink retry w
  generalize s.step sink retry w = outcome at steps ⊢
  cases steps <;> simp [Queue.commit]

end Station

end Blotter
