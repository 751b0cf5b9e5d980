import Mathlib
import Blotter.Journal.Basic
import Blotter.Proofs.Journal.Station

/-!
# Shifts

A shift is what becomes of one worker and its queue: its owner pushes items and closes the queue, and the worker makes
its steps, mixed in any way. At every step the sink may be another one, so it may plan and fail however it likes.

- One move keeps account of the items and of the attempts to write them (`Shift.InOrder.step`): what was pushed is what
  was taken off the queue and what waits, what was taken off is what the sink accepted, and a batch that was refused is
  tried again until it has had its last attempt.
- So does a shift (`Shift.run_accounts`). Its worker ends only when the queue is closed, and then no item waits, or the
  batch at the front was refused in as many final attempts as there are.
-/

namespace Blotter

/-! ## Counters -/

namespace Metrics

theorem lookup_addTo (c c' : Counter) (n : Nat) (entries : List (Counter × Nat)) :
    ((addTo c n entries).lookup c').getD 0 = (entries.lookup c').getD 0 + if c' = c then n else 0 := by
  induction entries with
  | nil =>
    by_cases same : c' = c
    · simp [addTo, same]
    · simp [addTo, List.lookup_cons, beq_eq_false_iff_ne.mpr same, same]
  | cons e rest ih =>
    obtain ⟨k, m⟩ := e
    by_cases here : k = c
    · subst here
      by_cases same : c' = k
      · simp [addTo, same]
      · simp [addTo, List.lookup_cons, beq_eq_false_iff_ne.mpr same, same]
    · rw [addTo, if_neg (by simpa using here), List.lookup_cons, List.lookup_cons]
      cases same : c' == k with
      | true =>
        obtain rfl := beq_iff_eq.mp same
        simp [here]
      | false => exact ih

/-- A counter that is raised is the only one that changes. -/
theorem count_add (m : Metrics) (c c' : Counter) (n : Nat) :
    (m.add c n).count c' = m.count c' + if c' = c then n else 0 := lookup_addTo c c' n m.entries

end Metrics

/-- How many items were written according to an event. -/
def WorkerEvent.written {ι : Type} : Option (WorkerEvent ι) → Nat
  | some (.wrote batch) => batch.length
  | _ => 0

/-- Of what happens at a sink, only what is written is counted as written, and nothing as enqueued. -/
theorem World.count_record (w : World) (name : SinkName) (observers : List String)
    (event : Option (WorkerEvent Handle)) :
    (w.record name observers event).metrics.count (.written name) =
        w.metrics.count (.written name) + WorkerEvent.written event ∧
      (w.record name observers event).metrics.count (.enqueued name) = w.metrics.count (.enqueued name) := by
  cases event with
  | none => exact ⟨rfl, rfl⟩
  | some event =>
    cases event with
    | failed alert => cases alert <;> simp [record, count, Metrics.count_add, WorkerEvent.written]
    | wrote batch => simp [record, count, Metrics.count_add, WorkerEvent.written]
    | announced batch => exact ⟨rfl, rfl⟩

/-! ## Attempts -/

/-- An attempt of a worker to write a batch. -/
structure Shift.Attempt where
  batch : List Handle
  /-- The items that waited when it was made. -/
  waiting : List Handle
  /-- Whether the queue was closed when it began. -/
  late : Bool
  result : Except (Failure SinkError) Unit

namespace Shift

namespace Attempt

/-- Whether the sink took the batch. -/
def accepted (a : Attempt) : Bool := a.result.isOk

/-- Whether the sink reported that it did not take the batch. -/
def refused (a : Attempt) : Bool :=
  match a.result with
  | .error (.reported _) => true
  | _ => false

@[simp] theorem accepted_ok (batch waiting : List Handle) (late : Bool) :
    accepted ⟨batch, waiting, late, .ok ()⟩ = true := rfl

@[simp] theorem accepted_error (batch waiting : List Handle) (late : Bool) (e : Failure SinkError) :
    accepted ⟨batch, waiting, late, .error e⟩ = false := rfl

end Attempt

variable {attempts : List Attempt} {batch : List Handle} {a : Attempt} {n : Nat}

/-- The items that the sink took. -/
def taken (attempts : List Attempt) : List Handle := (attempts.filter (·.accepted)).flatMap (·.batch)

/-- Whether no batch is left that was tried in vain. -/
def Settled (attempts : List Attempt) : Prop := ∀ a ∈ attempts.getLast?, a.accepted = true

/-- Whether a batch was only refused so far, `n` times in attempts that began when the queue was closed. -/
def Tried (batch : List Handle) (n : Nat) (attempts : List Attempt) : Prop :=
  ∃ before tail, attempts = before ++ tail ∧ Settled before ∧
    (∀ a ∈ tail, a.batch = batch ∧ a.refused = true) ∧ tail.countP (·.late) = n

/-- Whether a batch that was not taken is the one that is tried next. -/
def Insists (attempts : List Attempt) : Prop :=
  attempts.IsChain fun a next => a.accepted = false → next.batch = a.batch

theorem taken_concat (attempts : List Attempt) (a : Attempt) :
    taken (attempts ++ [a]) = taken attempts ++ if a.accepted then a.batch else [] := by
  rw [taken, taken, List.filter_append, List.flatMap_append]
  cases accepted : a.accepted <;> simp [accepted]

theorem taken_singleton (a : Attempt) : taken [a] = if a.accepted then a.batch else [] := taken_concat [] a

theorem Settled.tried (h : Settled attempts) : Tried batch 0 attempts :=
  ⟨attempts, [], (List.append_nil _).symm, h, fun _ ha => absurd ha (by simp), rfl⟩

theorem settled_concat (accepted : a.accepted = true) : Settled (attempts ++ [a]) := by
  intro b hb
  rw [List.getLast?_concat] at hb
  exact Option.some.inj hb ▸ accepted

theorem Tried.concat (h : Tried batch n attempts) (same : a.batch = batch) (refused : a.refused = true) :
    Tried batch (n + a.late.toNat) (attempts ++ [a]) := by
  obtain ⟨before, tail, rfl, settled, vain, late⟩ := h
  refine ⟨before, tail ++ [a], List.append_assoc _ _ _, settled, ?_, ?_⟩
  · intro b hb
    rcases List.mem_append.mp hb with hb | hb
    · exact vain b hb
    · obtain rfl := List.mem_singleton.mp hb
      exact ⟨same, refused⟩
  · rw [List.countP_append, late, List.countP_singleton]
    cases a.late <;> rfl

/-- The last attempt that was not accepted was for the batch that is tried. -/
theorem Tried.batch_of_last (h : Tried batch n attempts) (last : a ∈ attempts.getLast?) (vain : a.accepted = false) :
    a.batch = batch := by
  obtain ⟨before, tail, rfl, settled, refused, -⟩ := h
  rw [List.getLast?_append] at last
  cases end' : tail.getLast? with
  | none =>
    rw [end', Option.none_or] at last
    rw [settled a last] at vain
    exact absurd vain (by simp)
  | some b =>
    rw [end', Option.some_or] at last
    obtain rfl := Option.some.inj last
    exact (refused b (List.mem_of_getLast? end')).1

theorem Insists.concat (h : Insists attempts) (tried : Tried a.batch n attempts) : Insists (attempts ++ [a]) := by
  refine List.isChain_append.mpr ⟨h, List.isChain_singleton _, ?_⟩
  intro b last next hnext vain
  obtain rfl := Option.some.inj hnext
  exact (tried.batch_of_last last vain).symm

end Shift

/-! ## Moves -/

/-- A worker with its queue, what its sink works on, what others notice of it, the items that were taken off the queue,
the attempts to write, and whether the queue was closed when the present one began. -/
structure Shift (ω : Type) where
  station : Station Handle
  state : ω
  world : World
  committed : List Handle
  attempts : List Shift.Attempt
  late : Bool

namespace Shift

variable {ω : Type}

/-- What may happen next: an item is pushed, the queue is closed, or the worker makes a step with some sink. -/
inductive Move (ω : Type) where
  | push (x : Handle)
  | close
  | work (sink : Sink ω Handle)

/-- The items that a move pushes. -/
def Move.pushed : Move ω → List Handle
  | .push x => [x]
  | _ => []

/-- Whether a move closes the queue. -/
def Move.closes : Move ω → Bool
  | .close => true
  | _ => false

/-- The attempt that the worker makes in its next step, if it is one. -/
def next (c : Shift ω) (sink : Sink ω Handle) : List Attempt :=
  match c.station.phase with
  | .writing batch _ _ => [⟨batch, c.station.queue.items, c.late, (sink.write batch c.state).1⟩]
  | _ => []

/-- Whether the queue was closed when the attempt began that is under way after the next step. -/
def isLate (c : Shift ω) : Bool :=
  match c.station.phase with
  | .trying _ _ _ => c.station.queue.closed
  | _ => c.late

variable (name : SinkName) (observers : List String) (retry : RetrySettings)

/-- What a move makes of it. -/
def step (c : Shift ω) : Move ω → Shift ω
  | .push x =>
    { c with
      station := { c.station with queue := c.station.queue.push x }
      world := c.world.count (.enqueued name) 1 }
  | .close => { c with station := c.station.close }
  | .work sink =>
    let (station, state, event) := c.station.step sink retry c.state
    { station, state
      world := c.world.record name observers event
      committed := c.station.doneAfter c.committed
      attempts := c.attempts ++ c.next sink
      late := c.isLate }

/-- The beginning of a shift, with an empty queue. -/
def begin (maxDepth : Nat) (state : ω) (now : Instant) : Shift ω where
  station := (Station.new maxDepth).start
  state := state
  world := .new now
  committed := []
  attempts := []
  late := false

/-- What moves make of it, one after the other. -/
def run (c : Shift ω) (moves : List (Move ω)) : Shift ω := moves.foldl (step name observers retry) c

/-! ## The invariant -/

variable {name observers retry}
variable {c : Shift ω} {pushed : List Handle} {closed : Bool}

/-- Whether the attempts so far agree with what the worker does next. -/
def Stands (retry : RetrySettings) (c : Shift ω) : Prop :=
  match c.station.phase with
  | .trying batch _ finalAttempts => Tried batch finalAttempts c.attempts ∧ finalAttempts < retry.finalAttempts
  | .writing batch _ finalAttempts =>
    ∃ n, Tried batch n c.attempts ∧ n < retry.finalAttempts ∧ finalAttempts = n + c.late.toNat
  | .ended =>
    c.station.queue.items = [] ∧ Settled c.attempts ∨
      ∃ batch, batch ≠ [] ∧ batch <+: c.station.queue.items ∧ Tried batch retry.finalAttempts c.attempts
  | .broken _ => ∀ a ∈ c.attempts.getLast?, a.refused = false
  | _ => Settled c.attempts

/-- What holds of a shift all along, with the items that were pushed and whether the queue was closed. -/
structure InOrder (name : SinkName) (retry : RetrySettings) (pushed : List Handle) (closed : Bool) (c : Shift ω) :
    Prop where
  keeps : c.station.Keeps pushed c.committed
  closed_eq : c.station.queue.closed = closed
  enqueued : c.world.metrics.count (.enqueued name) = pushed.length
  written : c.world.metrics.count (.written name) = (taken c.attempts).length
  taken_eq : taken c.attempts = c.station.doneAfter c.committed
  front : ∀ a ∈ c.attempts, a.batch ≠ [] ∧ a.batch <+: a.waiting
  insists : Insists c.attempts
  stands : c.Stands retry

theorem inOrder_begin (maxDepth : Nat) (state : ω) (now : Instant) :
    (begin maxDepth state now).InOrder name retry [] false where
  keeps := (Station.keeps_new maxDepth).start
  closed_eq := rfl
  enqueued := rfl
  written := rfl
  taken_eq := rfl
  front _ ha := absurd ha (by simp [begin])
  insists := List.isChain_nil
  stands _ ha := absurd ha (by simp [begin])

/-- An item is pushed. -/
theorem InOrder.push (h : c.InOrder name retry pushed closed) (opened : closed = false) (x : Handle) :
    (c.step name observers retry (.push x)).InOrder name retry (pushed ++ [x]) closed := by
  refine ⟨h.keeps.push x, h.closed_eq, ?_, ?_, h.taken_eq, h.front, h.insists, ?_⟩
  · simp [step, World.count, Metrics.count_add, h.enqueued]
  · simp [step, World.count, Metrics.count_add, h.written]
  · have stands := h.stands
    have fits := h.keeps.fits
    have closed_eq := h.closed_eq
    obtain ⟨⟨queue, phase⟩, state, world, committed, attempts, late⟩ := c
    cases phase with
    | ended =>
      rw [opened, show queue.closed = true from fits] at closed_eq
      exact absurd closed_eq (by simp)
    | _ => exact stands

/-- The queue is closed. -/
theorem InOrder.close (h : c.InOrder name retry pushed closed) :
    (c.step name observers retry .close).InOrder name retry pushed true :=
  ⟨h.keeps.close, rfl, h.enqueued, h.written, h.taken_eq, h.front, h.insists, h.stands⟩

/-- Of the steps of a worker only an attempt tells that something was written. -/
theorem written_step (c : Shift ω) (sink : Sink ω Handle) :
    WorkerEvent.written (c.station.step sink retry c.state).2.2 = (taken (c.next sink)).length := by
  obtain ⟨station, state, world, committed, attempts, late⟩ := c
  have steps := station.steps sink retry state
  simp only [next]
  generalize station.step sink retry state = outcome at steps ⊢
  cases steps with
  | writes q batch failures finalAttempts w' written => simp [WorkerEvent.written, taken_singleton, written]
  | isRefused q batch failures finalAttempts w' e alert written =>
    simp [WorkerEvent.written, taken_singleton, written]
  | givesUp q batch failures finalAttempts w' e alert written =>
    simp [WorkerEvent.written, taken_singleton, written]
  | breaks q batch failures finalAttempts w' cause written =>
    simp [WorkerEvent.written, taken_singleton, written]
  | _ => rfl

/-- What the sink has taken after a step was taken off the queue, or is about to be. -/
theorem InOrder.taken_step (h : c.InOrder name retry pushed closed) (sink : Sink ω Handle) :
    taken (c.attempts ++ c.next sink) =
      (c.station.step sink retry c.state).1.doneAfter (c.station.doneAfter c.committed) := by
  have same := h.taken_eq
  obtain ⟨station, state, world, committed, attempts, late⟩ := c
  have steps := station.steps sink retry state
  simp only [next]
  generalize station.step sink retry state = outcome at steps ⊢
  cases steps with
  | writes q batch failures finalAttempts w' written =>
    simp only [taken_concat, written, Attempt.accepted_ok, if_pos]
    exact congrArg (· ++ batch) same
  | isRefused q batch failures finalAttempts w' e alert written =>
    simp only [taken_concat, written, Attempt.accepted_error, Bool.false_eq_true, if_false, List.append_nil]
    exact same
  | givesUp q batch failures finalAttempts w' e alert written =>
    simp only [taken_concat, written, Attempt.accepted_error, Bool.false_eq_true, if_false, List.append_nil]
    exact same
  | breaks q batch failures finalAttempts w' cause written =>
    simp only [taken_concat, written, Attempt.accepted_error, Bool.false_eq_true, if_false, List.append_nil]
    exact same
  | _ =>
    simp only [List.append_nil]
    exact same

/-- Every step of the worker keeps to what it has tried. -/
theorem InOrder.stands_step (h : c.InOrder name retry pushed closed) (patient : retry.finalAttempts ≠ 0)
    (sink : Sink ω Handle) : (c.step name observers retry (.work sink)).Stands retry := by
  have stands := h.stands
  have keeps := h.keeps
  have fits := keeps.fits
  obtain ⟨station, state, world, committed, attempts, late⟩ := c
  have steps := station.steps sink retry state
  simp only [step, next, isLate]
  generalize station.step sink retry state = outcome at steps ⊢
  cases steps with
  | ends q grew rounds none =>
    rw [List.append_nil]
    exact .inl ⟨keeps.depth_eq_zero_iff.mp none, stands⟩
  | peeks q count =>
    rw [List.append_nil]
    exact ⟨Settled.tried stands, Nat.pos_of_ne_zero patient⟩
  | tries q batch failures finalAttempts =>
    rw [List.append_nil]
    exact ⟨finalAttempts, stands.1, stands.2, rfl⟩
  | writes q batch failures finalAttempts w' written =>
    simp only [written]
    exact settled_concat rfl
  | isRefused q batch failures finalAttempts w' e alert written more =>
    obtain ⟨n, tried, -, counted⟩ := stands
    obtain rfl : finalAttempts = n + late.toNat := counted
    simp only [written]
    exact ⟨tried.concat (a := ⟨batch, q.items, late, .error (.reported e)⟩) rfl rfl, more⟩
  | givesUp q batch failures finalAttempts w' e alert written last =>
    obtain ⟨n, tried, few, counted⟩ := stands
    obtain rfl : finalAttempts = n + late.toNat := counted
    have tried' := tried.concat (a := ⟨batch, q.items, late, .error (.reported e)⟩) rfl rfl
    have all : n + late.toNat = retry.finalAttempts := by
      have := Bool.toNat_le late
      omega
    rw [all] at tried'
    simp only [written]
    exact .inr ⟨batch, fits.1.1, fits.1.2, tried'⟩
  | breaks q batch failures finalAttempts w' cause written =>
    simp only [written]
    intro a last
    rw [List.getLast?_concat] at last
    exact Option.some.inj last ▸ rfl
  | _ =>
    rw [List.append_nil]
    exact stands

/-- The worker makes a step. -/
theorem InOrder.work (h : c.InOrder name retry pushed closed) (patient : retry.finalAttempts ≠ 0)
    (sink : Sink ω Handle) : (c.step name observers retry (.work sink)).InOrder name retry pushed closed := by
  obtain ⟨written, enqueued⟩ :=
    c.world.count_record name observers (c.station.step sink retry c.state).2.2
  refine ⟨h.keeps.step patient, ?_, enqueued.trans h.enqueued, ?_, h.taken_step sink, ?_, ?_,
    h.stands_step patient sink⟩
  · exact (c.station.step_gates sink retry c.state).1.trans h.closed_eq
  · refine written.trans ?_
    rw [written_step, h.written]
    simp [step, taken]
  · intro a ha
    rcases List.mem_append.mp ha with ha | ha
    · exact h.front a ha
    · have fits := h.keeps.fits
      simp only [next] at ha
      split at ha
      · rename_i writing
        obtain rfl := List.mem_singleton.mp ha
        rw [writing] at fits
        exact fits.1
      · exact absurd ha (by simp)
  · have stands := h.stands
    simp only [step, next]
    split
    · rename_i writing
      rw [Stands, writing] at stands
      obtain ⟨n, tried, -⟩ := stands
      exact h.insists.concat tried
    · rw [List.append_nil]
      exact h.insists

/-- A move keeps account, if nothing is pushed to a closed queue. -/
theorem InOrder.step (h : c.InOrder name retry pushed closed) (patient : retry.finalAttempts ≠ 0) (move : Move ω)
    (orderly : closed = true → move.pushed = []) :
    (c.step name observers retry move).InOrder name retry (pushed ++ move.pushed) (closed || move.closes) := by
  cases move with
  | push x =>
    have opened : closed = false := by
      cases closed with
      | true => exact absurd (orderly rfl) (by simp [Move.pushed])
      | false => rfl
    simp only [Move.closes, Bool.or_false]
    exact h.push opened x
  | close => simpa only [Move.closes, Move.pushed, Bool.or_true, List.append_nil] using h.close
  | work sink => simpa only [Move.closes, Move.pushed, Bool.or_false, List.append_nil] using h.work patient sink

/-- So do moves. -/
theorem InOrder.run (h : c.InOrder name retry pushed closed) (patient : retry.finalAttempts ≠ 0)
    {moves : List (Move ω)} (orderly : moves.Pairwise fun m m' => m.closes = true → m'.pushed = [])
    (closedBefore : closed = true → ∀ m ∈ moves, m.pushed = []) :
    (c.run name observers retry moves).InOrder name retry (pushed ++ moves.flatMap Move.pushed)
      (closed || moves.any Move.closes) := by
  induction moves generalizing c pushed closed with
  | nil =>
    rw [List.flatMap_nil, List.append_nil, List.any_nil, Bool.or_false]
    exact h
  | cons move rest ih =>
    obtain ⟨after, orderly⟩ := List.pairwise_cons.mp orderly
    have next : (c.step name observers retry move).InOrder name retry (pushed ++ move.pushed) (closed || move.closes) :=
      h.step patient move fun was => closedBefore was _ List.mem_cons_self
    have run := ih next orderly fun is m hm => by
      rcases (Bool.or_eq_true _ _).mp is with was | closes
      · exact closedBefore was m (List.mem_cons_of_mem _ hm)
      · exact after m hm closes
    rwa [List.append_assoc, Bool.or_assoc] at run

/-! ## The account -/

/-- What holds of a shift at every time, with the items that were pushed and whether the queue was closed. -/
structure Accounts (name : SinkName) (retry : RetrySettings) (pushed : List Handle) (closed : Bool) (c : Shift ω) :
    Prop where
  /-- What was pushed is what was taken off the queue and what waits, in this order. -/
  pushed_eq : pushed = c.committed ++ c.station.queue.items
  depth_eq : c.station.queue.depth = c.station.queue.items.length
  /-- The counters tell the depth, unless written items are just about to be taken off the queue. -/
  counted : (∀ batch, c.station.phase ≠ .committing batch) →
    c.world.metrics.count (.enqueued name) = c.world.metrics.count (.written name) + c.station.queue.depth
  /-- Every attempt was for some items at the front. -/
  front : ∀ a ∈ c.attempts, a.batch ≠ [] ∧ a.batch <+: a.waiting
  /-- What the sink accepted was taken off the queue, or is just about to be. -/
  taken_eq : taken c.attempts = c.station.doneAfter c.committed
  /-- A batch that was not accepted is the one that is tried next. -/
  insists : Insists c.attempts
  /-- Before the queue is closed the worker does not leave a batch that was refused. -/
  insisting : closed = false → ∀ a ∈ c.attempts.getLast?, a.refused = true → ∃ failures finalAttempts,
    c.station.phase = .trying a.batch failures finalAttempts ∨ c.station.phase = .writing a.batch failures finalAttempts
  /-- The worker ends when the queue is closed and no item waits, or when the sink refused the batch at the front in all
  its final attempts. -/
  ended : c.station.phase = .ended → closed = true ∧ (c.station.queue.items = [] ∨
    ∃ batch before tail, batch ≠ [] ∧ batch <+: c.station.queue.items ∧ c.attempts = before ++ tail ∧
      (∀ a ∈ tail, a.batch = batch ∧ a.refused = true) ∧ tail.countP (·.late) = retry.finalAttempts)

theorem InOrder.insisting (h : c.InOrder name retry pushed false) {a : Attempt} (last : a ∈ c.attempts.getLast?)
    (refused : a.refused = true) : ∃ failures finalAttempts, c.station.phase = .trying a.batch failures finalAttempts ∨
      c.station.phase = .writing a.batch failures finalAttempts := by
  have vain : a.accepted = false := by
    unfold Attempt.refused at refused
    unfold Attempt.accepted
    split at refused
    · rename_i result
      rw [result]
      rfl
    · exact absurd refused (by simp)
  have stands := h.stands
  have fits := h.keeps.fits
  have opened := h.closed_eq
  unfold Stands at stands
  split at stands
  · rename_i batch failures finalAttempts trying
    obtain rfl := stands.1.batch_of_last last vain
    exact ⟨failures, finalAttempts, .inl trying⟩
  · rename_i batch failures finalAttempts writing
    obtain ⟨n, tried, -⟩ := stands
    obtain rfl := tried.batch_of_last last vain
    exact ⟨failures, finalAttempts, .inr writing⟩
  · rename_i ended
    rw [ended] at fits
    exact absurd (opened.symm.trans fits) (by simp)
  · rw [stands a last] at refused
    exact absurd refused (by simp)
  · rw [stands a last] at vain
    exact absurd vain (by simp)

theorem InOrder.ended (h : c.InOrder name retry pushed closed) (ended : c.station.phase = .ended) :
    closed = true ∧ (c.station.queue.items = [] ∨
      ∃ batch before tail, batch ≠ [] ∧ batch <+: c.station.queue.items ∧ c.attempts = before ++ tail ∧
        (∀ a ∈ tail, a.batch = batch ∧ a.refused = true) ∧ tail.countP (·.late) = retry.finalAttempts) := by
  have fits := h.keeps.fits
  have stands := h.stands
  rw [ended] at fits
  rw [Stands, ended] at stands
  refine ⟨h.closed_eq.symm.trans fits, ?_⟩
  rcases stands with ⟨empty, -⟩ | ⟨batch, some, front, before, tail, all, -, refused, late⟩
  · exact .inl empty
  · exact .inr ⟨batch, before, tail, some, front, all, refused, late⟩

/-- What was pushed was counted when it was, and what was taken off when it was written. -/
theorem InOrder.counted (h : c.InOrder name retry pushed closed)
    (taken : ∀ batch, c.station.phase ≠ .committing batch) :
    c.world.metrics.count (.enqueued name) = c.world.metrics.count (.written name) + c.station.queue.depth := by
  have same : c.station.doneAfter c.committed = c.committed := by
    unfold Station.doneAfter
    split
    · rename_i batch committing
      exact absurd committing (taken batch)
    · rfl
  rw [h.enqueued, h.written, h.taken_eq, same, h.keeps.depth_eq, h.keeps.pushed_eq, List.length_append]

theorem InOrder.accounts (h : c.InOrder name retry pushed closed) : c.Accounts name retry pushed closed where
  pushed_eq := h.keeps.pushed_eq
  depth_eq := h.keeps.depth_eq
  counted := h.counted
  front := h.front
  taken_eq := h.taken_eq
  insists := h.insists
  insisting opened a last refused := by
    subst opened
    exact h.insisting last refused
  ended := h.ended

/-- Whatever is pushed and whenever, however the sink plans and fails, a shift keeps account of it all. -/
theorem run_accounts (patient : 1 ≤ retry.finalAttempts) (maxDepth : Nat) (state : ω) (now : Instant)
    {moves : List (Move ω)} (orderly : moves.Pairwise fun m m' => m.closes = true → m'.pushed = []) :
    ((begin maxDepth state now).run name observers retry moves).Accounts name retry (moves.flatMap Move.pushed)
      (moves.any Move.closes) := by
  have start : (begin maxDepth state now).InOrder name retry [] false := inOrder_begin maxDepth state now
  have run : ((begin maxDepth state now).run name observers retry moves).InOrder name retry
      (moves.flatMap Move.pushed) (moves.any Move.closes) :=
    start.run (Nat.ne_of_gt patient) orderly fun closed => absurd closed (by simp)
  exact run.accounts

/-- Three items of which two are written at once, after an attempt in vain, while the third comes and the queue is
closed. The third one is refused twice. -/
def exampleMoves : List (Move (DatabaseSink × Disk × ScriptedSink)) :=
  let item (n : Nat) : Move _ :=
    .push ⟨n, ⟨n + 1, .epoch, false, .messagingStats ⟨"c", 1, 2, 0, .epoch⟩⟩⟩
  let work (n : Nat) (fate : DatabaseFate) : List (Move _) :=
    List.replicate n (.work (DatabaseSettings.sinkWith {} fate .epoch))
  [[item 0, item 1], work 8 .sound, [item 2], work 1 (.refused (.unavailable "x")), [.close], work 2 .sound,
    work 20 (.refused (.unavailable "x"))].flatten

/-- The third item stays in the queue. -/
theorem run_accounts_exampleMoves :
    let c := (begin 10 (.scripted, .empty, {}) .epoch).run .database [] { finalAttempts := 2 } exampleMoves
    c.Accounts .database { finalAttempts := 2 } (exampleMoves.flatMap Move.pushed) true ∧ c.station.phase = .ended ∧
      c.station.queue.depth = 1 ∧ c.attempts.map (·.result.isOk) = [false, true, false, false] :=
  ⟨run_accounts (by decide) 10 _ _ (by decide +kernel), by decide +kernel, by decide +kernel, by decide +kernel⟩

end Shift

end Blotter
