import Mathlib
import Blotter.Proofs.Journal.Calls

/-!
# Courses

A course is what becomes of a journal when its owner's calls and the steps of its two workers are mixed in any way,
where any attempt to write may fail.

- One move does not take an initialized journal out of order (`Course.InOrder.step`), so a course without rotations does
  not (`Course.InOrder.follow`), as long as no worker fails: both stations deliver what was persisted, in the order of
  the numbers.
-/

namespace Blotter

namespace Journal

/-! ## Moves -/

/-- What may happen next to a journal: time passes, its owner makes a call, or a worker makes a step. The file is
written on some medium and a batch for the database has some fate. -/
inductive Move where
  | clock (now : Instant)
  | call (k : Call)
  /-- The owner's stop returns, if both workers have ended. -/
  | endStop
  | stepFile (m : Disk.Medium)
  | stepDatabase (fate : DatabaseFate)

/-- Whether a move is the call for a rotation. -/
def Move.rotates : Move → Bool
  | .call (.rotate _) => true
  | _ => false

/-- Whether a worker has broken down or has just given up a batch. -/
def workerFails (j j' : Journal) : Bool :=
  match j.runtime, j'.runtime with
  | some r, some r' => r.workerFails r'
  | _, _ => false

/-- Whether both workers will do nothing more. -/
def workersAreDone (j : Journal) : Bool := j.runtime.all Runtime.workersAreDone

/-- A journal and the world around it, what was persisted so far, and whether a worker has failed. -/
structure Course where
  journal : Journal
  world : World
  persisted : List Record
  failed : Bool

namespace Course

/-- A new journal in a world. -/
def begin (w : World) : Course := ⟨.new, w, [], false⟩

/-- What a move makes of it. -/
def step (c : Course) : Move → Course
  | .clock now => { c with world := { c.world with now } }
  | .call k =>
    match c.journal.call c.world k with
    | (result, journal, world) => ⟨journal, world, c.persisted ++ k.records c.world.now result, c.failed⟩
  | .endStop => if c.journal.workersAreDone then { c with journal := c.journal.endStop } else c
  | .stepFile m =>
    let (journal, world) := c.journal.stepFileOn m c.world
    ⟨journal, world, c.persisted, c.failed || c.journal.workerFails journal⟩
  | .stepDatabase fate =>
    let (journal, world) := c.journal.stepDatabaseWith fate c.world
    ⟨journal, world, c.persisted, c.failed || c.journal.workerFails journal⟩

/-- What moves make of it, one after the other. -/
def follow (c : Course) (moves : List Move) : Course := moves.foldl step c

end Course

/-- Whether a course is in order. -/
def Course.InOrder (o : Origin) (c : Course) : Prop :=
  ∃ r, c.journal.runtime = some r ∧ r.InOrder o c.journal.state c.world c.persisted

namespace Course

variable {o : Origin} {c : Course}

/-! ## What only grows -/

theorem persisted_step (c : Course) (move : Move) : c.persisted <+: (c.step move).persisted := by
  cases move with
  | call k => exact List.prefix_append _ _
  | endStop =>
    simp only [step]
    split
    · exact List.prefix_rfl
    · exact List.prefix_rfl
  | _ => exact List.prefix_rfl

theorem failed_step {move : Move} (h : (c.step move).failed = false) : c.failed = false := by
  cases move with
  | endStop =>
    simp only [step] at h
    split at h
    · exact h
    · exact h
  | stepFile m => exact (Bool.or_eq_false_iff.mp h).1
  | stepDatabase fate => exact (Bool.or_eq_false_iff.mp h).1
  | _ => exact h

theorem persisted_follow (c : Course) (moves : List Move) : c.persisted <+: (c.follow moves).persisted := by
  induction moves generalizing c with
  | nil => exact List.prefix_rfl
  | cons move rest ih => exact (c.persisted_step move).trans (ih (c.step move))

theorem failed_follow {moves : List Move} (h : (c.follow moves).failed = false) : c.failed = false := by
  induction moves generalizing c with
  | nil => exact h
  | cons move rest ih => exact failed_step (ih h)

/-! ## The invariant -/

/-- A call keeps a course in order as long as the numbers stay small, unless it is one for a rotation. -/
theorem InOrder.call (h : c.InOrder o) {k : Call} (quiet : (Move.call k).rotates = false)
    (small : ∀ q ∈ (c.step (.call k)).persisted, q.seq < 9223372036854775808) : (c.step (.call k)).InOrder o := by
  obtain ⟨⟨state, observers, runtime⟩, w, issued, failed⟩ := c
  obtain ⟨r, rfl, inOrder⟩ := h
  have effect := call_effect ⟨state, observers, some r⟩ w k
  simp only [Course.step] at small ⊢
  generalize Journal.call ⟨state, observers, some r⟩ w k = outcome at effect small ⊢
  cases effect with
  | nothing k e =>
    simp only [Call.records_error, List.append_nil]
    exact ⟨r, rfl, inOrder⟩
  | initialized s custom r' w' fresh =>
    obtain rfl : state = .uninitialized := fresh
    exact absurd inOrder.fits.2 (by simp)
  | notInitialized s custom e w' fresh =>
    obtain rfl : state = .uninitialized := fresh
    exact absurd inOrder.fits.2 (by simp)
  | started ready =>
    obtain rfl : state = .initialized := ready
    simp only [Call.records, List.append_nil]
    exact ⟨startWorkers r, rfl, inOrder.start⟩
  | stopped =>
    simp only [Call.records, List.append_nil]
    cases state with
    | uninitialized => exact absurd inOrder.fits.2 (by simp)
    | initialized => exact ⟨closeQueues (startWorkers r), rfl, inOrder.start.close⟩
    | started => exact ⟨closeQueues r, rfl, inOrder.close⟩
    | _ => exact ⟨r, rfl, inOrder⟩
  | persisted event toBus r₀ r' w' runtime isOpen taken =>
    obtain rfl := Option.some.inj runtime
    exact ⟨r', rfl, inOrder.persist isOpen taken (small _ (List.mem_append_right _ (List.mem_singleton.mpr rfl)))⟩
  | observed observer =>
    simp only [Call.records, List.append_nil]
    exact ⟨r, rfl, inOrder⟩
  | rotated backup => exact absurd quiet (by simp [Move.rotates])
  | notRotated backup => exact absurd quiet (by simp [Move.rotates])

/-- A move keeps a course in order as long as no worker fails and the numbers stay small, unless it is a rotation. -/
theorem InOrder.step (h : c.InOrder o) (sound : o.Sound) {move : Move} (quiet : move.rotates = false)
    (survives : (c.step move).failed = false)
    (fits : ∀ q ∈ (c.step move).persisted, q.event.FitsWords ∧ q.seq < 9223372036854775808) :
    (c.step move).InOrder o := by
  cases move with
  | call k => exact h.call quiet fun q hq => (fits q hq).2
  | clock now =>
    obtain ⟨r, runtime, inOrder⟩ := h
    exact ⟨r, runtime, inOrder.clock now⟩
  | endStop =>
    obtain ⟨⟨state, observers, runtime⟩, w, issued, failed⟩ := c
    obtain ⟨r, rfl, inOrder⟩ := h
    simp only [Course.step]
    split
    · rename_i done
      obtain ⟨fileDone, databaseDone⟩ := Runtime.isDone_of_workersAreDone done
      cases state with
      | stopping => exact ⟨r, rfl, inOrder.endStop fileDone databaseDone⟩
      | _ => exact ⟨r, rfl, inOrder⟩
    · exact ⟨r, rfl, inOrder⟩
  | stepFile m =>
    obtain ⟨⟨state, observers, runtime⟩, w, issued, failed⟩ := c
    obtain ⟨r, rfl, inOrder⟩ := h
    have words : ∀ q ∈ issued, q.FitsWords := by
      intro q hq
      obtain ⟨event, small⟩ := fits q hq
      exact ⟨by omega, event⟩
    obtain ⟨-, survives⟩ := Bool.or_eq_false_iff.mp survives
    exact ⟨_, rfl, inOrder.stepFileOn words m observers (Runtime.survives_of_workerFails survives).1⟩
  | stepDatabase fate =>
    obtain ⟨⟨state, observers, runtime⟩, w, issued, failed⟩ := c
    obtain ⟨r, rfl, inOrder⟩ := h
    obtain ⟨-, survives⟩ := Bool.or_eq_false_iff.mp survives
    exact ⟨_, rfl, inOrder.stepDatabaseWith sound fate (Runtime.survives_of_workerFails survives).2⟩

/-- So do moves. -/
theorem InOrder.follow (h : c.InOrder o) (sound : o.Sound) {moves : List Move}
    (quiet : ∀ move ∈ moves, move.rotates = false) (survives : (c.follow moves).failed = false)
    (fits : ∀ q ∈ (c.follow moves).persisted, q.event.FitsWords ∧ q.seq < 9223372036854775808) :
    (c.follow moves).InOrder o := by
  induction moves generalizing c with
  | nil => exact h
  | cons move rest ih =>
    have next := h.step sound (quiet move List.mem_cons_self) (failed_follow survives) fun q hq =>
      fits q ((persisted_follow _ rest).subset hq)
    exact ih next (fun later hm => quiet later (List.mem_cons_of_mem _ hm)) survives fits

end Course

end Journal

end Blotter
