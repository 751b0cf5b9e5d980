import Mathlib
import Blotter.Proofs.Journal.Delivery
import Blotter.Proofs.Journal.Rotations

/-!
# Sessions

Journals without database that come one after the other in the same file. Each of them is initialized, takes events, is
stopped, and its file is rotated any number of times.

- A session issues the numbers that follow the highest one on the lines of the backup and the file, and leaves what it
  persisted on the lines of the file, or in the backup if that was one rotation ago (`Session.Proper.run`).
- So the numbers of later sessions are above those of earlier ones as long as there is no more than one rotation between
  two sessions that issue numbers, and only then (`numbers_increase_iff`). With two rotations neither file tells of the
  numbers any more, and they start over (`numbers_repeat`).
-/

namespace Blotter

open JournalFile (Lines)

/-! ## What a file tells -/

namespace JournalFile.Lines

variable {l : Lines} {first : Nat} {ids : List Nat} {since : Option Nat}

theorem le_highest {r : Record} (h : r ∈ l.kept ++ l.own) : r.seq ≤ l.highest := by
  obtain ⟨q, hq, same⟩ := exists_mem_inOrder h
  exact same ▸ seq_le_highest (pairwise_inOrder _) hq

theorem highest_le {n : Nat} (h : ∀ r ∈ l.kept ++ l.own, r.seq ≤ n) : l.highest ≤ n := by
  rw [highest, JournalFile.highest]
  cases last : (inOrder (l.kept ++ l.own)).getLast? with
  | none => exact Nat.zero_le _
  | some r => exact h r (mem_of_mem_inOrder (List.mem_of_getLast? last))

/-- Whether lines still tell of numbers, so many rotations after records came to the file last. -/
def Recalls (l : Lines) (ids : List Nat) : Option Nat → Prop
  | none => ids = []
  | some 0 => ∃ r ∈ l.own, ∀ i ∈ ids, i ≤ r.seq
  | some 1 => l.own = [] ∧ ∃ r ∈ l.kept, ∀ i ∈ ids, i ≤ r.seq
  | some (_ + 2) => l.own = [] ∧ l.kept = []

/-- What holds of lines and the numbers that were issued, if the highest one was `first` before that. -/
structure Tells (l : Lines) (first : Nat) (ids : List Nat) (since : Option Nat) : Prop where
  recalls : l.Recalls ids since
  issued : since ≠ none → ids ≠ []
  positive : ∀ i ∈ ids, 0 < i
  below : ∀ r ∈ l.kept ++ l.own, r.seq ≤ first + ids.length

theorem Tells.rotate (h : l.Tells first ids since) : l.rotate.Tells first ids (since.map (· + 1)) where
  recalls := by
    have recalls := h.recalls
    match since with
    | none => exact recalls
    | some 0 => exact ⟨rfl, recalls⟩
    | some 1 => exact ⟨rfl, recalls.1⟩
    | some (n + 2) => exact ⟨rfl, recalls.1⟩
  issued some := h.issued fun none => some (congrArg (Option.map (· + 1)) none)
  positive := h.positive
  below r hr := h.below r (List.mem_append_right _ ((List.append_nil l.own) ▸ hr))

theorem Tells.rotations (h : l.Tells first ids since) (n : Nat) :
    (Lines.rotate^[n] l).Tells first ids (since.map (· + n)) := by
  induction n with
  | zero => cases since <;> exact h
  | succ n ih =>
    have next := ih.rotate
    rw [Option.map_map] at next
    rw [Function.iterate_succ_apply']
    exact next

/-- Numbers that follow the highest one are above all that were issued exactly if the lines still tell of these. -/
theorem Tells.below_iff (h : l.Tells first ids since) (n : Nat) :
    (∀ i ∈ ids, ∀ k ∈ List.range' (l.highest + 1) n, i < k) ↔ (n ≠ 0 → ∀ m ∈ since, m ≤ 1) := by
  have recalls := h.recalls
  constructor
  · intro above some m hm
    obtain rfl := Option.mem_def.mp hm
    match m with
    | 0 => exact Nat.zero_le 1
    | 1 => exact Nat.le_refl 1
    | m + 2 =>
      -- Nothing is on the lines, so the numbers start over.
      obtain ⟨own, kept⟩ := recalls
      obtain ⟨i, hi⟩ := List.exists_mem_of_ne_nil _ (h.issued (by simp))
      have lowest : l.highest = 0 := Nat.le_zero.mp (highest_le (by simp [own, kept]))
      have one : 1 ∈ List.range' (l.highest + 1) n := by
        rw [lowest, List.mem_range'_1]
        omega
      have := above i hi 1 one
      have := h.positive i hi
      omega
  · intro few i hi k hk
    rw [List.mem_range'_1] at hk
    have told : ∃ r ∈ l.kept ++ l.own, i ≤ r.seq := by
      match since with
      | none =>
        obtain rfl : ids = [] := recalls
        exact absurd hi (by simp)
      | some 0 =>
        obtain ⟨r, hr, above⟩ := recalls
        exact ⟨r, List.mem_append_right _ hr, above i hi⟩
      | some 1 =>
        obtain ⟨-, r, hr, above⟩ := recalls
        exact ⟨r, List.mem_append_left _ hr, above i hi⟩
      | some (m + 2) =>
        have := few (by omega) (m + 2) rfl
        omega
    obtain ⟨r, hr, above⟩ := told
    have := le_highest hr
    omega

/-- Records under new numbers that follow the highest one are what the lines tell of from then on. -/
theorem Tells.write (h : l.Tells first ids since) {n last : Nat} {more : List Record} {new : List Nat}
    (follow : new = List.range' (last + 1) n) (some : n ≠ 0) (above : ∀ i ∈ ids, ∀ k ∈ new, i < k)
    (within : last ≤ first + ids.length) (same : ∀ k, k ∈ new ↔ ∃ r ∈ more, r.seq = k) :
    (l.write more).Tells first (ids ++ new) (.some 0) where
  recalls := by
    have final : last + n ∈ new := by
      rw [follow, List.mem_range'_1]
      omega
    obtain ⟨r, hr, number⟩ := (same _).mp final
    refine ⟨r, List.mem_append_right _ hr, fun i hi => ?_⟩
    rw [number]
    rcases List.mem_append.mp hi with hi | hi
    · exact (above i hi _ final).le
    · rw [follow, List.mem_range'_1] at hi
      omega
  issued _ := by
    have : new ≠ [] := by
      rw [follow]
      exact fun none => some (List.range'_eq_nil_iff.mp none)
    simp [this]
  positive i hi := by
    rcases List.mem_append.mp hi with hi | hi
    · exact h.positive i hi
    · rw [follow, List.mem_range'_1] at hi
      omega
  below r hr := by
    rw [List.length_append, follow, List.length_range']
    rcases List.mem_append.mp hr with hr | hr
    · have := h.below r (List.mem_append_left _ hr)
      omega
    · rcases List.mem_append.mp hr with hr | hr
      · have := h.below r (List.mem_append_right _ hr)
        omega
      · have number := (same r.seq).mpr ⟨r, hr, rfl⟩
        rw [follow, List.mem_range'_1] at number
        omega

end JournalFile.Lines

/-! ## One session -/

/-- Whether a path leads to a journal file with these lines, if need be to a new one. -/
def Disk.Bears (d : Disk) (path : String) (l : Lines) : Prop :=
  ∀ policy, ∃ f e, JournalFile.openAt d path policy = (.ok f, e) ∧ l.Shown path f e

/-- Whether a path leads to a file with bytes, if need be to a new one, and `last` is the highest number that is
found there. -/
def Disk.Offers (d : Disk) (path : String) (last : Nat) : Prop :=
  ∃ f e id own rs, JournalFile.openAt d path .never = (.ok f, e) ∧ f.handle = .file id ∧
    (e.fileAt id).content = .bytes own ∧ f.rewind e = .ok rs ∧ JournalFile.highest rs = last

namespace JournalFile

variable {d e : Disk} {path : String} {f : JournalFile} {l : Lines}

/-- What is opened does not depend on when it is to be brought to stable storage. -/
theorem openAt_policy {policy : SyncPolicy} (h : openAt d path policy = (.ok f, e)) (other : SyncPolicy) :
    openAt d path other = (.ok { f with policy := other }, e) := by
  obtain ⟨d₁, handle, data, made, opened, read, rfl⟩ := openAt_ok h
  simp only [openAt, made, opened, read]

theorem Lines.Shown.bears (h : l.Shown path f d) : d.Bears path l := by
  obtain ⟨site, backup, current, isOpen, rfl, lines⟩ := h
  intro policy
  obtain ⟨g, opened, isOpen', path'⟩ := openAt_of_isOpen isOpen policy
  exact ⟨g, d, opened, site, backup, current, isOpen', path', lines⟩

/-- An open journal file shows the records of its lines. -/
theorem Lines.Shown.rewind (h : l.Shown path f d) : f.rewind d = .ok (inOrder (l.kept ++ l.own)) := by
  obtain ⟨site, backup, current, isOpen, -, kept, own⟩ := h
  rw [List.append_nil] at own
  rw [JournalFile.rewind, isOpen.records, kept, own]

end JournalFile

theorem Disk.Offers.bears {d : Disk} {path : String} {last : Nat} (h : d.Offers path last) (wf : d.WellFormed) :
    ∃ l, d.Bears path l ∧ l.highest = last := by
  obtain ⟨f, e, id, own, rs, opened, regular, content, rewound, highest⟩ := h
  have path_eq : f.path = path := by
    obtain ⟨_, _, _, -, -, -, rfl⟩ := JournalFile.openAt_ok opened
    rfl
  obtain ⟨backup, -, there, -⟩ := JournalFile.records_eq_ok_iff.mp rewound
  rw [path_eq] at there
  have bears : d.Bears path ⟨JournalFile.recordsOfBytes backup, JournalFile.recordsOfBytes own⟩ := by
    intro policy
    have opened' := JournalFile.openAt_policy opened policy
    obtain ⟨site, isOpen, path', -⟩ := JournalFile.isOpen_of_openAt wf opened' regular content there
    exact ⟨_, e, opened', site, backup, own, isOpen, path', rfl, (List.append_nil _).symm⟩
  refine ⟨_, bears, ?_⟩
  obtain ⟨g, e', opened', shown⟩ := bears .never
  rw [opened] at opened'
  obtain ⟨same, rfl⟩ := Prod.mk.inj opened'
  obtain rfl := Except.ok.inj same
  rw [shown.rewind] at rewound
  rw [Lines.highest, Except.ok.inj rewound, highest]

namespace Journal

variable {path : String} {l : Lines} {w w' : World}

/-- A journal without database that was initialized is in order, and its numbers follow the highest one on the lines. -/
theorem along_of_init {s : JournalSettings} {j : Journal} (bears : w.disk.Bears s.file.path l)
    (alone : s.database.enabled = false) (small : l.highest < 9223372036854775808)
    (called : Journal.new.init s false w = (.ok (), j, w')) :
    (⟨j, w', [], false⟩ : Course).Along s.file.path l.highest l ∧
      (⟨j, w', [], false⟩ : Course).Numbered l.highest := by
  obtain ⟨-, r, opened, rfl⟩ := init_eq_ok_iff.mp called
  obtain ⟨d₁, d₂, f, rs, sink, last, valid, fileOpened, rewound, databaseOpened, rfl, numbered, rfl⟩ :=
    openRuntime_eq_ok_iff.mp opened
  have databaseOpened : openDatabase s.database false d₁ = (.ok sink, d₂) := databaseOpened
  rw [openDatabase, alone] at databaseOpened
  obtain ⟨same, rfl⟩ := Prod.mk.inj databaseOpened
  obtain rfl := Except.ok.inj same
  obtain rfl := Except.ok.inj numbered
  obtain ⟨g, e, fileOpened', shown⟩ := bears s.file.sync
  have fileOpened : JournalFile.openAt w.disk s.file.path s.file.sync = (.ok f, d₁) := fileOpened
  rw [fileOpened] at fileOpened'
  obtain ⟨same, rfl⟩ := Prod.mk.inj fileOpened'
  obtain rfl := Except.ok.inj same
  rw [shown.rewind] at rewound
  obtain rfl := Except.ok.inj rewound
  have first : Nat.max (JournalFile.highest (JournalFile.inOrder (l.kept ++ l.own))) 0 = l.highest := Nat.max_zero _
  obtain ⟨site, backup, current, isOpen, path_eq, kept, own⟩ := shown
  rw [List.append_nil] at own
  refine ⟨⟨⟨_, rfl, ?_⟩, fun _ r hr => ?_⟩, by simp, fun source hsource => ?_, fun k q hk => absurd hk (by simp)⟩
  · have isOpen : JournalFile.IsOpen site f ({ w with disk := d₁ } : World).disk backup current := isOpen
    have origin : (⟨f.path, JournalFile.recordsOfBytes backup, JournalFile.recordsOfBytes current, [], none,
        l.highest⟩ : Origin) = l.origin s.file.path l.highest := by
      rw [kept, own, path_eq]
      rfl
    have noStore : ∀ store, (none : Option DatabaseSink) = some (.store store) → store.IsOpen d₁ := by
      intro store there
      cases there
    simp only [Option.getD_none, first, ← origin]
    exact inOrder_opened isOpen noStore small (JournalSettings.finalAttempts_of_validate valid)
  · obtain rfl := Option.some.inj hr
    rfl
  · obtain rfl := Option.some.inj hsource
    exact congrArg (· % Sequence.modulus) first

/-- A journal from its initialization on, with what happens to it. -/
structure Session where
  settings : JournalSettings
  moves : List Move

namespace Session

/-- A new journal that was initialized in a world. -/
def start (s : Session) (w : World) : Course := (Course.begin w).step (.call (.init s.settings false))

/-- What becomes of it. -/
def run (s : Session) (w : World) : Course := (s.start w).follow s.moves

/-- The numbers that are issued. -/
def issued (s : Session) (w : World) : List Nat := (s.run w).persisted.map Record.seq

/-- How many rotations there are before the start and after the stop. -/
def rotations (s : Session) (w : World) : Nat × Nat :=
  ((s.start w).rotations .initialized s.moves, (s.start w).rotations .stopped s.moves)

/-- Whether a session is one of a journal without database at a path: it can be initialized, its file is not emptied,
no worker fails, and in the end it has stopped. -/
structure Proper (path : String) (s : Session) (w : World) : Prop where
  path_eq : s.settings.file.path = path
  alone : s.settings.database.enabled = false
  initialized : (Journal.new.init s.settings false w).1 = .ok ()
  keeps : ∀ move ∈ s.moves, move.truncates = false
  stopped : (s.run w).journal.state = .stopped
  survives : (s.run w).failed = false
  fits : ∀ q ∈ (s.run w).persisted, q.event.FitsWords

variable {s : Session} {w : World}

/-- A course whose numbers follow `last` without a gap, as long as they are small. -/
theorem issued_of_numbered {last : Nat} (h : (s.run w).Numbered last)
    (small : last + (s.issued w).length < 9223372036854775808) :
    s.issued w = List.range' (last + 1) (s.issued w).length := by
  refine List.ext_getElem List.length_range'.symm fun k hk _ => ?_
  have hk' : k < (s.run w).persisted.length := by rwa [issued, List.length_map] at hk
  have number := h.number k _ (List.getElem?_eq_getElem hk')
  rw [Nat.mod_eq_of_lt (by rw [Sequence.modulus]; omega)] at number
  simp only [List.getElem_range', issued, List.getElem_map, number]
  omega

/-- A session issues the numbers above the highest one on the lines, and what it persisted comes to the lines between
the rotations before the start and those after the stop. -/
theorem Proper.run (h : s.Proper path w) (bears : w.disk.Bears path l)
    (small : l.highest + (s.issued w).length < 9223372036854775808) :
    s.issued w = List.range' (l.highest + 1) (s.issued w).length ∧
      ∃ more, (∀ r, r ∈ more ↔ r ∈ JournalFile.plain (s.run w).persisted) ∧
        (s.run w).world.disk.Bears path (Lines.rotate^[(s.rotations w).2]
          ((Lines.rotate^[(s.rotations w).1] l).write more)) := by
  obtain ⟨rfl, alone, initialized, keeps, stopped, survives, fits⟩ := h
  obtain ⟨j, w', called⟩ : ∃ j w', Journal.new.init s.settings false w = (.ok (), j, w') :=
    ⟨_, _, Prod.ext initialized rfl⟩
  have started : s.start w = ⟨j, w', [], false⟩ := by
    simp only [start, Course.begin, Course.step, Journal.call, called, Call.records, List.append_nil]
  obtain ⟨along, numbered⟩ := along_of_init bears alone (by omega) called
  rw [← started] at along numbered
  have issued := issued_of_numbered (numbered.follow s.moves) small
  have fits : ∀ q ∈ (s.run w).persisted, q.event.FitsWords ∧ q.seq < 9223372036854775808 := by
    intro q hq
    have number : q.seq ∈ s.issued w := List.mem_map_of_mem hq
    rw [issued, List.mem_range'_1] at number
    exact ⟨fits q hq, by omega⟩
  obtain ⟨more, same, rests⟩ := along.follow keeps stopped survives fits
  obtain ⟨r, -, -, shown⟩ := rests.runtime
  exact ⟨issued, more, same, shown.bears⟩

end Session

/-! ## Many sessions -/

/-- The numbers that are issued in one session after the other. -/
def issuedBy : World → List Session → List (List Nat)
  | _, [] => []
  | w, s :: rest => s.issued w :: issuedBy (s.run w).world rest

/-- Whether sessions are proper, one after the other. -/
def AllProper (path : String) : World → List Session → Prop
  | _, [] => True
  | w, s :: rest => s.Proper path w ∧ AllProper path (s.run w).world rest

/-- How many rotations there have been after a session since records came to the file last; none counts before
numbers were issued. -/
def Session.since (s : Session) (w : World) (before : Option Nat) : Option Nat :=
  if s.issued w = [] then before.map (· + ((s.rotations w).1 + (s.rotations w).2)) else some (s.rotations w).2

/-- Whether no more than one rotation comes between sessions that issue numbers. -/
def Sparing : Option Nat → World → List Session → Prop
  | _, _, [] => True
  | since, w, s :: rest =>
    (s.issued w ≠ [] → ∀ n ∈ since, n ≤ 1) ∧ Sparing (s.since w since) (s.run w).world rest

/-- Whether all numbers of a session are below those of a later one. -/
def Below (earlier later : List Nat) : Prop := ∀ i ∈ earlier, ∀ k ∈ later, i < k

theorem pairwise_below_cons {ids new : List Nat} {later : List (List Nat)} :
    (ids :: new :: later).Pairwise Below ↔ Below ids new ∧ ((ids ++ new) :: later).Pairwise Below := by
  simp only [List.pairwise_cons, List.forall_mem_cons, Below, List.forall_mem_append]
  constructor
  · rintro ⟨⟨first, above⟩, later, rest⟩
    exact ⟨first, fun ks hks => ⟨above ks hks, later ks hks⟩, rest⟩
  · rintro ⟨first, above, rest⟩
    exact ⟨⟨first, fun ks hks => (above ks hks).1⟩, fun ks hks => (above ks hks).2, rest⟩

/-- What lines tell after a session whose numbers are above all others. -/
theorem tells_of_run {first : Nat} {ids : List Nat} {since : Option Nat} {s : Session} {w : World}
    (tells : l.Tells first ids since) (issued : s.issued w = List.range' (l.highest + 1) (s.issued w).length)
    (above : Below ids (s.issued w)) {more : List Record}
    (same : ∀ r, r ∈ more ↔ r ∈ JournalFile.plain (s.run w).persisted) :
    (Lines.rotate^[(s.rotations w).2] ((Lines.rotate^[(s.rotations w).1] l).write more)).Tells first
      (ids ++ s.issued w) (s.since w since) := by
  have before := tells.rotations (s.rotations w).1
  by_cases none : s.issued w = []
  · obtain rfl : more = [] := by
      have nothing : (s.run w).persisted = [] := List.map_eq_nil_iff.mp none
      rw [nothing] at same
      exact List.eq_nil_iff_forall_not_mem.mpr fun r hr => List.not_mem_nil ((same r).mp hr)
    have empty : (Lines.rotate^[(s.rotations w).1] l).write [] = Lines.rotate^[(s.rotations w).1] l := by
      rw [Lines.write, List.append_nil]
    have after := before.rotations (s.rotations w).2
    rw [Option.map_map] at after
    rw [none, List.append_nil, Session.since, if_pos none, empty]
    refine (Option.map_congr fun n _ => ?_) ▸ after
    exact Nat.add_assoc _ _ _
  · rw [Session.since, if_neg none]
    have numbers : ∀ k, k ∈ s.issued w ↔ ∃ r ∈ more, r.seq = k := by
      intro k
      constructor
      · intro hk
        obtain ⟨q, hq, rfl⟩ := List.mem_map.mp hk
        exact ⟨q.withPlainZeros, (same _).mpr (List.mem_map_of_mem hq), rfl⟩
      · rintro ⟨r, hr, rfl⟩
        obtain ⟨q, hq, rfl⟩ := List.mem_map.mp ((same r).mp hr)
        exact (List.mem_map_of_mem hq : q.seq ∈ s.issued w)
    have some : (s.issued w).length ≠ 0 := fun zero => none (List.length_eq_zero_iff.mp zero)
    have written := before.write issued some above (Lines.highest_le tells.below) numbers
    have after := written.rotations (s.rotations w).2
    rwa [Option.map_some, Nat.zero_add] at after

/-- The numbers of later sessions are above those of earlier ones, and above others that the lines may tell of, exactly
if no more than one rotation comes between sessions that issue numbers. -/
theorem pairwise_below_iff {first : Nat} {ids : List Nat} {since : Option Nat} {ss : List Session} {w : World}
    (tells : l.Tells first ids since) (bears : w.disk.Bears path l) (proper : AllProper path w ss)
    (small : first + ids.length + (issuedBy w ss).flatten.length < 9223372036854775808) :
    (ids :: issuedBy w ss).Pairwise Below ↔ Sparing since w ss := by
  induction ss generalizing l ids since w with
  | nil => simp [issuedBy, Sparing]
  | cons s rest ih =>
    obtain ⟨first_proper, rest_proper⟩ := proper
    rw [issuedBy, List.flatten_cons, List.length_append] at small
    have highest := Lines.highest_le tells.below
    obtain ⟨issued, more, same, bears'⟩ := first_proper.run bears (by omega)
    have above_iff := tells.below_iff (s.issued w).length
    rw [← issued, ne_eq, List.length_eq_zero_iff] at above_iff
    rw [issuedBy, pairwise_below_cons, Sparing, ← above_iff]
    refine and_congr_right fun above => ?_
    exact ih (tells_of_run tells issued above same) bears' rest_proper (by rw [List.length_append]; omega)

/-- The numbers that are issued increase from session to session exactly if no more than one rotation comes between
sessions that issue numbers. -/
theorem numbers_increase_iff {first : Nat} {ss : List Session} {w : World} (wf : w.disk.WellFormed)
    (offers : w.disk.Offers path first) (proper : AllProper path w ss)
    (small : first + (issuedBy w ss).flatten.length < 9223372036854775808) :
    (issuedBy w ss).Pairwise Below ↔ Sparing none w ss := by
  obtain ⟨l, bears, rfl⟩ := offers.bears wf
  have tells : l.Tells l.highest [] none :=
    ⟨rfl, fun some => absurd rfl some, List.forall_mem_nil _, fun r hr => Lines.le_highest hr⟩
  have increase := pairwise_below_iff tells bears proper (by simpa using small)
  rw [List.pairwise_cons] at increase
  rw [← increase]
  exact (and_iff_right fun _ _ => List.forall_mem_nil _).symm

/-! ## Two sessions -/

/-- A session in the file `j` that persists a message. After its stop the file is rotated. -/
def messageSession (rotations : Nat) : Session :=
  ⟨fileOnly "j", detourMoves [exampleEvents.1] ++ List.replicate rotations (.call (.rotate true))⟩

theorem keeps_messageSession (rotations : Nat) :
    ∀ move ∈ (messageSession rotations).moves, move.truncates = false := by
  have first : ∀ move ∈ detourMoves [exampleEvents.1], move.truncates = false := by decide
  exact List.forall_mem_append.mpr ⟨first, fun move hm => by rw [List.eq_of_mem_replicate hm]; rfl⟩

/-- Where lines are found a session in the file `j` begins with them. -/
theorem start_of_bears {w : World} {f : JournalFile} {e : Disk} (bears : w.disk.Bears "j" l)
    (valid : (fileOnly "j").validate w.disk = .ok ()) (opened : JournalFile.openAt w.disk "j" .never = (.ok f, e))
    (rotations : Nat) : (Journal.new.init (fileOnly "j") false w).1 = .ok () ∧
      (messageSession rotations).start w = ⟨ofFile f l.highest, { w with disk := e }, [], false⟩ := by
  obtain ⟨g, e', opened', shown⟩ := bears .never
  rw [opened] at opened'
  obtain ⟨same, rfl⟩ := Prod.mk.inj opened'
  obtain rfl := Except.ok.inj same
  have called : Journal.new.init (fileOnly "j") false w = (.ok (), ofFile f l.highest, { w with disk := e }) :=
    init_fileOnly_of valid opened shown.rewind
  refine ⟨congrArg Prod.fst called, ?_⟩
  simp only [messageSession, Session.start, Course.begin, Course.step, Journal.call, called, Call.records,
    List.append_nil]

/-- What becomes of the first session on an empty disk. -/
def firstCourse (rotations : Nat) : Course := Course.exampleStart.follow (messageSession rotations).moves

/-- What becomes of a session that comes after it and issues the numbers above `last`. -/
def secondCourse (rotations last : Nat) : Course :=
  let w := (firstCourse rotations).world
  (⟨ofFile ⟨"j", .file rotations, .never, false⟩ last,
    { w with disk := (JournalFile.openAt w.disk "j" .never).2 }, [], false⟩ : Course).follow (messageSession 0).moves

theorem offers_empty : Disk.empty.Offers "j" 0 := by
  have rewound : JournalFile.rewind ⟨"j", .file 0, .never, false⟩ (JournalFile.openAt .empty "j" .never).2 = .ok [] :=
    records_eq_nil (by decide +kernel) (by decide +kernel)
  exact ⟨⟨"j", .file 0, .never, false⟩, (JournalFile.openAt .empty "j" .never).2, 0, [], [], by decide +kernel, rfl,
    by decide +kernel, rewound, rfl⟩

/-- The first session issues one number, and the lines tell of it unless there are two rotations. -/
theorem first_session {n : Nat} (few : n = 1 ∨ n = 2) :
    (messageSession n).Proper "j" (World.new .epoch) ∧ (messageSession n).issued (World.new .epoch) = [1] ∧
      (messageSession n).run (World.new .epoch) = firstCourse n ∧
      ∃ l : Lines, (firstCourse n).world.disk.Bears "j" l ∧ l.Tells 0 [1] (some n) := by
  obtain ⟨l, bears, highest⟩ := offers_empty.bears Disk.wellFormed_empty
  have opened : JournalFile.openAt .empty "j" .never =
      (.ok ⟨"j", .file 0, .never, false⟩, (JournalFile.openAt .empty "j" .never).2) := by decide +kernel
  obtain ⟨initialized, started⟩ := start_of_bears (w := World.new .epoch) bears (by decide +kernel) opened n
  rw [highest] at started
  have run : (messageSession n).run (World.new .epoch) = firstCourse n := by
    rw [Session.run, started]
    rfl
  obtain ⟨persisted, stopped, survives⟩ : (firstCourse n).persisted = [detourRecord] ∧
      (firstCourse n).journal.state = .stopped ∧ (firstCourse n).failed = false := by
    rcases few with rfl | rfl <;> decide +kernel
  have rotated : ((messageSession n).rotations (World.new .epoch)).2 = n := by
    rw [Session.rotations, started]
    rcases few with rfl | rfl <;> decide +kernel
  have issued : (messageSession n).issued (World.new .epoch) = [1] := by
    rw [Session.issued, run, persisted]
    rfl
  have proper : (messageSession n).Proper "j" (World.new .epoch) := by
    refine ⟨rfl, rfl, initialized, keeps_messageSession n, run ▸ stopped, run ▸ survives, ?_⟩
    rw [run, persisted]
    exact List.forall_mem_singleton.mpr (by decide : 1 ≤ 18446744073709551615)
  obtain ⟨numbers, more, same, bears'⟩ := proper.run bears (by rw [highest, issued]; decide)
  have tells : l.Tells 0 [] none :=
    ⟨rfl, fun some => absurd rfl some, List.forall_mem_nil _, fun r hr => highest ▸ Lines.le_highest hr⟩
  have tells' := tells_of_run tells numbers (List.forall_mem_nil _) same
  rw [issued, Session.since, issued, if_neg (List.cons_ne_nil _ _), rotated] at tells'
  rw [run, rotated] at bears'
  exact ⟨proper, issued, run, _, bears', tells'⟩

/-- The second session issues the number that follows the highest one on the lines. -/
theorem second_session {n last : Nat} (few : n = 1 ∨ n = 2) (low : last = 0 ∨ last = 1)
    (bears : (firstCourse n).world.disk.Bears "j" l) (highest : l.highest = last) :
    (messageSession 0).Proper "j" (firstCourse n).world ∧
      (messageSession 0).issued (firstCourse n).world = [last + 1] := by
  obtain ⟨valid, opened⟩ : (fileOnly "j").validate (firstCourse n).world.disk = .ok () ∧
      (JournalFile.openAt (firstCourse n).world.disk "j" .never).1 = .ok ⟨"j", .file n, .never, false⟩ := by
    rcases few with rfl | rfl <;> decide +kernel
  obtain ⟨initialized, started⟩ := start_of_bears bears valid (Prod.ext opened rfl) 0
  have run : (messageSession 0).run (firstCourse n).world = secondCourse n last := by
    rw [Session.run, started, highest]
    rfl
  obtain ⟨persisted, stopped, survives⟩ :
      (secondCourse n last).persisted = [{ detourRecord with seq := last + 1 }] ∧
      (secondCourse n last).journal.state = .stopped ∧ (secondCourse n last).failed = false := by
    rcases few with rfl | rfl <;> rcases low with rfl | rfl <;> decide +kernel
  constructor
  · refine ⟨rfl, rfl, initialized, keeps_messageSession 0, run ▸ stopped, run ▸ survives, ?_⟩
    rw [run, persisted]
    exact List.forall_mem_singleton.mpr (by decide : 1 ≤ 18446744073709551615)
  · rw [Session.issued, run, persisted]
    rfl

/-- After one rotation the second session goes on with the next number. -/
theorem numbers_increase_iff_messageSession : let ss := [messageSession 1, messageSession 0]
    issuedBy (World.new .epoch) ss = [[1], [2]] ∧ Sparing none (World.new .epoch) ss := by
  intro ss
  obtain ⟨proper, issued, run, l, bears, tells⟩ := first_session (.inl rfl)
  have highest : l.highest = 1 := by
    obtain ⟨-, r, hr, above⟩ := tells.recalls
    have := Lines.le_highest (List.mem_append_left l.own hr)
    have := above 1 (List.mem_singleton.mpr rfl)
    have : l.highest ≤ 1 := Lines.highest_le tells.below
    omega
  obtain ⟨proper', issued'⟩ := second_session (.inl rfl) (.inr rfl) bears highest
  have numbers : issuedBy (World.new .epoch) ss = [[1], [2]] := by
    simp only [ss, issuedBy, issued, run, issued']
  have proper : AllProper "j" (World.new .epoch) ss := ⟨proper, run ▸ proper', trivial⟩
  have small : 0 + (issuedBy (World.new .epoch) ss).flatten.length < 9223372036854775808 := by
    rw [numbers]
    decide
  refine ⟨numbers, (numbers_increase_iff Disk.wellFormed_empty offers_empty proper small).mp ?_⟩
  rw [numbers]
  simp [Below]

/-- After two rotations it starts over. -/
theorem numbers_repeat : let ss := [messageSession 2, messageSession 0]
    Disk.empty.Offers "j" 0 ∧ AllProper "j" (World.new .epoch) ss ∧ issuedBy (World.new .epoch) ss = [[1], [1]] ∧
      ¬(issuedBy (World.new .epoch) ss).Pairwise Below := by
  intro ss
  obtain ⟨proper, issued, run, l, bears, tells⟩ := first_session (.inr rfl)
  have highest : l.highest = 0 := by
    obtain ⟨own, kept⟩ := tells.recalls
    exact Nat.le_zero.mp (Lines.highest_le (by simp [own, kept]))
  obtain ⟨proper', issued'⟩ := second_session (.inr rfl) (.inl rfl) bears highest
  have numbers : issuedBy (World.new .epoch) ss = [[1], [1]] := by
    simp only [ss, issuedBy, issued, run, issued']
  refine ⟨offers_empty, ⟨proper, run ▸ proper', trivial⟩, numbers, ?_⟩
  rw [numbers]
  simp [Below]

end Journal

end Blotter
