import Mathlib
import Blotter.Proofs.Journal.Lifecycle

/-!
# Rotations in the course of a journal

A journal without database has records on the lines of its file and on those of one backup (`JournalFile.Lines`). Its
file is rotated while the journal has not been started yet or has stopped.

- A rotation before the start leaves everything that was persisted in the queue, and the course goes on from the lines
  after the rotation (`Course.Along.step`).
- When the journal has stopped everything that was persisted is on the lines of the file (`Course.Along.rests`), and
  nothing but rotations changes the lines from then on (`Course.Rests.follow`).
- So the lines at the end are those from the beginning, rotated as often as there were rotations before the start,
  with what was persisted, and rotated as often as there were rotations after the stop (`Course.Along.follow`).
-/

namespace Blotter

namespace JournalFile

variable {path : String} {kept own more : List Record} {f : JournalFile} {d : Disk}

/-- The records on the lines of a backup and on those of the file itself. -/
structure Lines where
  kept : List Record
  own : List Record

namespace Lines

/-- The lines after a rotation. -/
def rotate (l : Lines) : Lines := ⟨l.own, []⟩

/-- The lines after records came to the file. -/
def write (l : Lines) (more : List Record) : Lines := ⟨l.kept, l.own ++ more⟩

/-- The highest number that can be read. -/
def highest (l : Lines) : Nat := JournalFile.highest (inOrder (l.kept ++ l.own))

/-- Whether a journal file is open at a path with these lines. -/
def Shown (l : Lines) (path : String) (f : JournalFile) (d : Disk) : Prop := Holds path l.kept l.own [] (f, d)

/-- What a journal without database finds that is initialized with these lines, and issues numbers above `last`. -/
def origin (l : Lines) (path : String) (last : Nat) : Origin := ⟨path, l.kept, l.own, [], none, last⟩

end Lines

/-- Records that came to the file are on its lines. -/
theorem Holds.write_lines {l : Lines} (h : Holds path l.kept l.own more (f, d)) : (l.write more).Shown path f d := by
  obtain ⟨site, backup, current, isOpen, samePath, keeps, lines⟩ := h
  exact ⟨site, backup, current, isOpen, samePath, keeps, lines.trans (List.append_nil _).symm⟩

/-- An open journal file can be rotated. -/
theorem Lines.Shown.rotate {l : Lines} (h : l.Shown path f d) :
    ∃ g e, f.rotate true d = (.ok (), g, e) ∧ l.rotate.Shown path g e := by
  obtain ⟨site, backup, current, isOpen, samePath, keeps, lines⟩ := h
  obtain ⟨site', g, e, rotated, isOpen', path'⟩ := rotate_of_isOpen isOpen
  rw [List.append_nil] at lines
  exact ⟨g, e, rotated, site', current, [], isOpen', path'.trans samePath, lines, recordsOfBytes_nil⟩

end JournalFile

open JournalFile (Lines)

/-! ## Idle workers -/

namespace Runtime

theorem stepFileOn_of_isDone {r : Runtime} (done : r.station.isDone = true) (m : Disk.Medium)
    (observers : List String) (w : World) : r.stepFileOn m observers w = (r, w) := by
  rw [stepFileOn, Station.step_of_isDone done]
  rfl

theorem stepDatabaseWith_of_isDone {r : Runtime}
    (done : ∀ line, r.database = some line → line.station.isDone = true) (fate : DatabaseFate) (w : World) :
    r.stepDatabaseWith fate w = (r, w) := by
  obtain ⟨pool, sequence, station, file, database, retry⟩ := r
  cases database with
  | none => rfl
  | some line =>
    simp only [stepDatabaseWith, Station.step_of_isDone (done line rfl)]
    rfl

end Runtime

namespace Journal

/-- Whether a move would empty the journal file. -/
def Move.truncates : Move → Bool
  | .call (.rotate backup) => !backup
  | _ => false

/-- A rotation that does not empty the file makes it the backup. -/
theorem Move.eq_of_rotates {move : Move} (rotates : move.rotates = true) (keeps : move.truncates = false) :
    move = .call (.rotate true) := by
  cases move with
  | call k =>
    cases k with
    | rotate backup => cases backup <;> simp_all [truncates]
    | _ => exact absurd rotates (by simp [Move.rotates])
  | _ => exact absurd rotates (by simp [Move.rotates])

namespace Course

variable {o : Origin} {path : String} {last : Nat} {l : Lines} {c : Course}

theorem InOrder.begun (h : c.InOrder o) : c.journal.state ≠ .uninitialized := by
  obtain ⟨r, -, inOrder⟩ := h
  intro fresh
  have fits := inOrder.fits.2
  rw [fresh] at fits
  exact fits

/-! ## Before the start -/

/-- Whether all that was persisted waits for the start. -/
def Waits (c : Course) : Prop :=
  c.journal.state = .initialized →
    ∀ r, c.journal.runtime = some r → r.station.queue.items.map Handle.record = c.persisted

theorem Waits.call (h : c.Waits) (begun : c.journal.state ≠ .uninitialized) (k : Call) :
    (c.step (.call k)).Waits := by
  obtain ⟨⟨state, observers, runtime⟩, w, issued, failed⟩ := c
  have effect := call_effect ⟨state, observers, runtime⟩ w k
  simp only [Course.step]
  generalize Journal.call ⟨state, observers, runtime⟩ w k = outcome at effect ⊢
  cases effect with
  | nothing k e =>
    simp only [Call.records_error, List.append_nil]
    exact h
  | initialized s custom r w' fresh => exact absurd fresh begun
  | notInitialized s custom e w' fresh => exact absurd fresh begun
  | started ready =>
    intro initialized
    cases initialized
  | stopped =>
    intro initialized
    cases state with
    | uninitialized => exact absurd rfl begun
    | _ => exact absurd initialized (by simp [beginStop])
  | persisted event toBus r r' w' runtime isOpen taken =>
    intro initialized r'' same
    obtain rfl := Option.some.inj same
    obtain ⟨-, x, record, station, -⟩ := Runtime.of_persist taken
    have waiting : r.station.queue.items.map Handle.record = issued := h initialized r runtime
    simp only [station, Queue.push, List.map_append, List.map_singleton, record, waiting]
    rfl
  | observed observer =>
    simp only [Call.records, List.append_nil]
    exact h
  | rotated backup r f d runtime =>
    simp only [Call.records, List.append_nil]
    intro initialized r' same
    obtain rfl := Option.some.inj same
    exact h initialized r runtime
  | notRotated backup r f d e runtime =>
    simp only [Call.records_error, List.append_nil]
    intro initialized r' same
    obtain rfl := Option.some.inj same
    exact h initialized r runtime

/-- A move keeps what was persisted waiting until the journal is started. -/
theorem Waits.step (h : c.Waits) (inOrder : c.InOrder o) (move : Move) : (c.step move).Waits := by
  have begun := inOrder.begun
  obtain ⟨⟨state, observers, runtime⟩, w, issued, failed⟩ := c
  obtain ⟨r, rfl, inOrder⟩ := inOrder
  cases move with
  | clock now => exact h
  | call k => exact h.call begun k
  | endStop =>
    simp only [Course.step]
    split
    · cases state with
      | stopping =>
        intro initialized
        cases initialized
      | _ => exact h
    · exact h
  | stepFile m =>
    intro initialized
    obtain rfl : state = .initialized := initialized
    have asleep : r.station.isDone = true := by rw [Station.isDone, inOrder.fits.2.1]
    have same := Runtime.stepFileOn_of_isDone asleep m observers w
    simp only [Course.step, stepFileOn, same]
    exact h rfl
  | stepDatabase fate =>
    intro initialized
    obtain rfl : state = .initialized := initialized
    have asleep : ∀ line, r.database = some line → line.station.isDone = true := fun line database => by
      rw [Station.isDone, (inOrder.databaseFits line database).2.1]
    have same := Runtime.stepDatabaseWith_of_isDone asleep fate w
    simp only [Course.step, stepDatabaseWith, same]
    exact h rfl

/-- A rotation before the start begins with the records of the file as those of the backup. -/
theorem InOrder.rotate (h : c.InOrder (l.origin path last)) (waits : c.Waits)
    (ready : c.journal.state = .initialized) :
    (c.step (.call (.rotate true))).InOrder (l.rotate.origin path last) := by
  obtain ⟨⟨state, observers, runtime⟩, w, issued, failed⟩ := c
  obtain rfl : state = .initialized := ready
  obtain ⟨r, rfl, inOrder⟩ := h
  have waiting : r.station.queue.items.map Handle.record = issued := waits rfl r rfl
  obtain ⟨pushed, records, done, keeps, taken, ended⟩ := inOrder.delivers.file
  -- Everything that was pushed waits, so nothing was taken off the queue and nothing came to the file.
  obtain rfl : done = [] := by
    have total := congrArg List.length (records.trans waiting.symm)
    rw [List.length_map, List.length_map, keeps.pushed_eq, List.length_append] at total
    exact List.length_eq_zero_iff.mp (by omega)
  rw [inOrder.fits.2.1] at taken
  obtain ⟨more, holds, same⟩ := taken
  have none : ∀ q, q ∉ more := fun q hq => absurd ((same q).mp hq) (by simp [JournalFile.plain])
  obtain rfl : more = [] := List.eq_nil_iff_forall_not_mem.mpr none
  have shown : l.Shown path r.file w.disk := holds
  obtain ⟨g, e, rotated, shown'⟩ := shown.rotate
  have called : Journal.rotate ⟨.initialized, observers, some r⟩ true w =
      (.ok (), ⟨.initialized, observers, some { r with file := g }⟩, { w with disk := e }) := by
    simp only [Journal.rotate, rotated]
  simp only [Course.step, Journal.call, called, Call.records, Except.map, List.append_nil]
  refine ⟨_, rfl, inOrder.fits, inOrder.databaseFits, inOrder.home, inOrder.sequence, inOrder.patient, ?_, ?_⟩
  · refine ⟨pushed, records, [], keeps, ?_, ended⟩
    rw [inOrder.fits.2.1]
    exact ⟨[], shown', same⟩
  · intro line database
    obtain ⟨pushed', records', delivers⟩ := inOrder.delivers.database line database
    -- There is no database but the scripted sink, which is not on the disk.
    have scripted : line.sink = .scripted := by
      have home := inOrder.home
      rw [database] at home
      cases hs : line.sink with
      | scripted => rfl
      | store store =>
        rw [Option.bind_some, hs] at home
        exact absurd home (by simp [DatabaseSink.home, DatabaseSink.store?, Lines.origin])
    refine ⟨pushed', records', ?_⟩
    rw [scripted] at delivers ⊢
    exact delivers.elsewhere (fun _ _ => trivial) fun _ _ _ => .inl trivial

/-! ## After the stop -/

/-- Whether the journal has stopped and its workers are done, with the file open at a path with these lines. -/
structure Rests (path : String) (l : Lines) (c : Course) : Prop where
  stopped : c.journal.state = .stopped
  runtime : ∃ r, c.journal.runtime = some r ∧ r.workersAreDone = true ∧ l.Shown path r.file c.world.disk

/-- A rotation after the stop rotates the lines. -/
theorem Rests.rotate (h : c.Rests path l) : (c.step (.call (.rotate true))).Rests path l.rotate ∧
    (c.step (.call (.rotate true))).persisted = c.persisted := by
  obtain ⟨⟨state, observers, runtime⟩, w, issued, failed⟩ := c
  obtain ⟨rfl, r, rfl, done, shown⟩ := h
  obtain ⟨g, e, rotated, shown'⟩ := shown.rotate
  have called : Journal.rotate ⟨.stopped, observers, some r⟩ true w =
      (.ok (), ⟨.stopped, observers, some { r with file := g }⟩, { w with disk := e }) := by
    simp only [Journal.rotate, rotated]
  simp only [Course.step, Journal.call, called, Call.records, Except.map, List.append_nil]
  exact ⟨⟨rfl, _, rfl, done, shown'⟩, trivial⟩

/-- No other call changes the lines after the stop. -/
theorem Rests.call (h : c.Rests path l) {k : Call} (quiet : (Move.call k).rotates = false) :
    (c.step (.call k)).Rests path l ∧ (c.step (.call k)).persisted = c.persisted := by
  obtain ⟨⟨state, observers, runtime⟩, w, issued, failed⟩ := c
  obtain ⟨rfl, rest⟩ := h
  have effect := call_effect ⟨.stopped, observers, runtime⟩ w k
  simp only [Course.step]
  generalize Journal.call ⟨.stopped, observers, runtime⟩ w k = outcome at effect ⊢
  cases effect with
  | nothing k e =>
    simp only [Call.records_error, List.append_nil]
    exact ⟨⟨rfl, rest⟩, trivial⟩
  | initialized s custom r' w' fresh => cases fresh
  | notInitialized s custom e w' fresh => cases fresh
  | started ready => cases ready
  | stopped =>
    simp only [Call.records, List.append_nil]
    exact ⟨⟨rfl, rest⟩, trivial⟩
  | persisted event toBus r₀ r' w' runtime isOpen => cases isOpen
  | observed observer =>
    simp only [Call.records, List.append_nil]
    exact ⟨⟨rfl, rest⟩, trivial⟩
  | rotated backup => exact absurd quiet (by simp [Move.rotates])
  | notRotated backup => exact absurd quiet (by simp [Move.rotates])

/-- Nor does any other move. -/
theorem Rests.step (h : c.Rests path l) {move : Move} (quiet : move.rotates = false) :
    (c.step move).Rests path l ∧ (c.step move).persisted = c.persisted := by
  cases move with
  | clock now => exact ⟨⟨h.stopped, h.runtime⟩, rfl⟩
  | call k => exact h.call quiet
  | endStop =>
    obtain ⟨⟨state, observers, runtime⟩, w, issued, failed⟩ := c
    obtain ⟨rfl, rest⟩ := h
    simp only [Course.step]
    split
    · exact ⟨⟨rfl, rest⟩, rfl⟩
    · exact ⟨⟨rfl, rest⟩, rfl⟩
  | stepFile m =>
    obtain ⟨⟨state, observers, runtime⟩, w, issued, failed⟩ := c
    obtain ⟨rfl, r, rfl, done, shown⟩ := h
    have same := Runtime.stepFileOn_of_isDone (Runtime.isDone_of_workersAreDone done).1 m observers w
    simp only [Course.step, stepFileOn, same]
    exact ⟨⟨rfl, r, rfl, done, shown⟩, trivial⟩
  | stepDatabase fate =>
    obtain ⟨⟨state, observers, runtime⟩, w, issued, failed⟩ := c
    obtain ⟨rfl, r, rfl, done, shown⟩ := h
    have same := Runtime.stepDatabaseWith_of_isDone (Runtime.isDone_of_workersAreDone done).2 fate w
    simp only [Course.step, stepDatabaseWith, same]
    exact ⟨⟨rfl, r, rfl, done, shown⟩, trivial⟩

/-! ## Counting rotations -/

/-- How many of the moves ask for a rotation while the journal is in a state. -/
def rotations (state : JournalState) : Course → List Move → Nat
  | _, [] => 0
  | c, move :: rest => rotations state (c.step move) rest + (c.journal.state == state && move.rotates).toNat

/-- From the stop on nothing but rotations changes the lines. -/
theorem Rests.follow (h : c.Rests path l) {moves : List Move} (kept : ∀ move ∈ moves, move.truncates = false) :
    (c.follow moves).Rests path (Lines.rotate^[c.rotations .stopped moves] l) ∧
      (c.follow moves).persisted = c.persisted ∧ c.rotations .initialized moves = 0 := by
  induction moves generalizing c l with
  | nil => exact ⟨h, rfl, rfl⟩
  | cons move rest ih =>
    have later : ∀ move ∈ rest, move.truncates = false := fun move hm => kept move (List.mem_cons_of_mem _ hm)
    have asks : (c.journal.state == .stopped && move.rotates) = move.rotates := by
      rw [h.stopped]
      rfl
    have none : (c.journal.state == .initialized && move.rotates) = false := by
      rw [h.stopped]
      rfl
    obtain ⟨next, persisted⟩ : (c.step move).Rests path (Lines.rotate^[move.rotates.toNat] l) ∧
        (c.step move).persisted = c.persisted := by
      cases rotates : move.rotates with
      | false => exact h.step rotates
      | true =>
        obtain rfl := Move.eq_of_rotates rotates (kept move List.mem_cons_self)
        exact h.rotate
    obtain ⟨rests, same, before⟩ := ih next later
    refine ⟨?_, same.trans persisted, ?_⟩
    · rw [rotations, asks, Function.iterate_add_apply]
      exact rests
    · rw [rotations, none, before]
      rfl

/-! ## The whole course -/

/-- Whether a course is in order, from these lines on, and all that was persisted waits for the start. -/
structure Along (path : String) (last : Nat) (l : Lines) (c : Course) : Prop where
  inOrder : c.InOrder (l.origin path last)
  waits : c.Waits

/-- In the end what was persisted is on the lines of the file. -/
theorem Along.rests (h : c.Along path last l) (stopped : c.journal.state = .stopped) :
    ∃ more, (∀ r, r ∈ more ↔ r ∈ JournalFile.plain c.persisted) ∧ c.Rests path (l.write more) := by
  obtain ⟨r, runtime, inOrder⟩ := h.inOrder
  have fits := inOrder.fits.2
  rw [stopped] at fits
  obtain ⟨pushed, records, delivers⟩ := inOrder.delivers.file
  obtain ⟨more, holds, same⟩ := delivers.ended fits
  rw [records] at same
  refine ⟨more, same, stopped, r, runtime, ?_, holds.write_lines⟩
  refine Bool.and_eq_true_iff.mpr ⟨by rw [Station.isDone, fits], ?_⟩
  rw [Option.all_eq_true]
  intro line database
  have lineFits := (inOrder.databaseFits line database).2
  rw [stopped] at lineFits
  rw [Station.isDone, lineFits]

/-- Until the stop a move keeps a course along, from lines that are rotated if it is a rotation before the start. -/
theorem Along.step (h : c.Along path last l) {move : Move} (keeps : move.truncates = false)
    (running : c.journal.state ≠ .stopped) (survives : (c.step move).failed = false)
    (fits : ∀ q ∈ (c.step move).persisted, q.event.FitsWords ∧ q.seq < 9223372036854775808) :
    (c.step move).Along path last
      (Lines.rotate^[(c.journal.state == .initialized && move.rotates).toNat] l) := by
  refine ⟨?_, h.waits.step h.inOrder move⟩
  have sound : (l.origin path last).Sound := ⟨Table.sorted_empty, fun _ he => absurd he (by simp [Lines.origin])⟩
  cases rotates : move.rotates with
  | false =>
    rw [Bool.and_false]
    exact h.inOrder.step sound rotates survives fits
  | true =>
    obtain rfl := Move.eq_of_rotates rotates keeps
    rw [Bool.and_true]
    by_cases ready : c.journal.state = .initialized
    · rw [ready]
      exact h.inOrder.rotate h.waits ready
    · -- While its worker runs the file is not rotated.
      have refused : c.step (.call (.rotate true)) = c := by
        have begun := h.inOrder.begun
        obtain ⟨⟨state, observers, runtime⟩, w, issued, failed⟩ := c
        cases state with
        | uninitialized => exact absurd rfl begun
        | initialized => exact absurd rfl ready
        | stopped => exact absurd rfl running
        | started =>
          cases runtime <;> exact congrArg (Course.mk _ w · failed) (List.append_nil issued)
        | stopping =>
          cases runtime <;> exact congrArg (Course.mk _ w · failed) (List.append_nil issued)
      rw [refused, beq_eq_false_iff_ne.mpr ready]
      exact h.inOrder

/-- The lines at the end of a course in which the journal has stopped. -/
theorem Along.follow (h : c.Along path last l) {moves : List Move} (keeps : ∀ move ∈ moves, move.truncates = false)
    (stopped : (c.follow moves).journal.state = .stopped) (survives : (c.follow moves).failed = false)
    (fits : ∀ q ∈ (c.follow moves).persisted, q.event.FitsWords ∧ q.seq < 9223372036854775808) :
    ∃ more, (∀ r, r ∈ more ↔ r ∈ JournalFile.plain (c.follow moves).persisted) ∧
      (c.follow moves).Rests path (Lines.rotate^[c.rotations .stopped moves]
        ((Lines.rotate^[c.rotations .initialized moves] l).write more)) := by
  induction moves generalizing c l with
  | nil => exact h.rests stopped
  | cons move rest ih =>
    by_cases running : c.journal.state = .stopped
    · obtain ⟨more, same, rests⟩ := h.rests running
      obtain ⟨rests', persisted, before⟩ := rests.follow keeps
      rw [← persisted] at same
      rw [before]
      exact ⟨more, same, rests'⟩
    · have next := h.step (keeps move List.mem_cons_self) running (failed_follow survives) fun q hq =>
        fits q ((persisted_follow _ rest).subset hq)
      obtain ⟨more, same, rests⟩ :=
        ih next (fun move hm => keeps move (List.mem_cons_of_mem _ hm)) stopped survives fits
      refine ⟨more, same, ?_⟩
      have none : (c.journal.state == .stopped && move.rotates) = false := by
        rw [beq_eq_false_iff_ne.mpr running, Bool.false_and]
      rw [rotations, rotations, none, Function.iterate_add_apply, Function.iterate_add_apply]
      exact rests

end Course

end Journal

end Blotter
