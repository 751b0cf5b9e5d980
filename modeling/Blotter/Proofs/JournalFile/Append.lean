import Mathlib
import Blotter.Proofs.Disk.Path
import Blotter.Proofs.JournalFile.Lines

/-!
# Appending on any medium

An attempt to append records leaves the records that were in the file and the first ones of the new records
(`appendOn_spec`), whatever becomes of the writing: all of the new ones if it succeeds, and otherwise at most a torn
line more, which the next attempt ends. The backup stays as it is.
-/

namespace Blotter

namespace Disk

variable {d : Disk} {id : Nat} {old : List UInt8}

theorem extend_nil (h : (d.fileAt id).content = .bytes old) (hid : id < d.files.length) : d.extend id [] = d := by
  rw [extend_of_bytes h, List.append_nil, ← h, setFile]
  have same : d.files.set id (d.fileAt id) = d.files := by
    have : d.fileAt id = d.files[id] := by simp [fileAt, hid]
    rw [this, List.set_getElem_self]
  have whole : ({ d.fileAt id with content := (d.fileAt id).content } : File) = d.fileAt id := rfl
  rw [whole, same]

/-- Bytes that are appended one after the other are appended together. -/
theorem extend_extend (h : (d.fileAt id).content = .bytes old) (hid : id < d.files.length) (a b : List UInt8) :
    (d.extend id a).extend id b = d.extend id (a ++ b) := by
  rw [extend_of_bytes (content_extend h hid a), extend_of_bytes h, extend_of_bytes h, fileAt_setFile hid, setFile,
    setFile, setFile, List.set_set, List.append_assoc]

end Disk

namespace JournalFile

variable {d : Disk} {id : Nat} {old : List UInt8}

/-- A front of the pieces gets into the file, and all of them if the writing succeeds. -/
theorem writePieces_spec (m : Disk.Medium) (sync : Bool) (ps : List (List UInt8))
    (h : (d.fileAt id).content = .bytes old) (hid : id < d.files.length) :
    ∃ result taken, writePieces m (.file id) sync ps d = (result, d.extend id taken) ∧ taken <+: ps.flatten ∧
      (result = .ok () → taken = ps.flatten) := by
  induction ps generalizing d old with
  | nil => exact ⟨.ok (), [], by rw [writePieces, Disk.extend_nil h hid], List.nil_prefix, fun _ => rfl⟩
  | cons piece rest ih =>
    rw [writePieces, List.flatten_cons]
    rcases m.append_file d id piece with taken | ⟨e, taken, front, failed⟩
    · rw [taken]
      simp only
      have h' := Disk.content_extend h hid piece
      have hid' : id < (d.extend id piece).files.length := by rwa [Disk.length_files_extend]
      obtain ⟨result, more, written, hfront, hall⟩ := ih h' hid'
      have later : writePieces m (.file id) sync rest (d.extend id piece) = (result, d.extend id (piece ++ more)) := by
        rw [written, Disk.extend_extend h hid]
      have front : piece ++ more <+: piece ++ rest.flatten := (List.prefix_append_right_inj piece).mpr hfront
      cases sync with
      | false => exact ⟨result, piece ++ more, later, front, fun hr => by rw [hall hr]⟩
      | true =>
        cases m.sync (d.extend id piece) (.file id) with
        | ok => exact ⟨result, piece ++ more, later, front, fun hr => by rw [hall hr]⟩
        | error e => exact ⟨.error e, piece, rfl, List.prefix_append _ _, fun hr => absurd hr (by simp)⟩
    · rw [failed]
      exact ⟨.error e, taken, rfl, front.trans (List.prefix_append _ _), fun hr => absurd hr (by simp)⟩

theorem flatten_pieces (policy : SyncPolicy) (rs : List Record) : (pieces policy rs).flatten = linesOf rs := by
  cases policy
  all_goals simp [pieces, linesOf, List.flatMap_def]

/-! ## Open files -/

/-- What a path leads to. -/
structure Site where
  directory : Disk.Place
  name : String
  id : Nat

/-- A journal file that is open where its path leads, with the bytes of the backup and its own. -/
structure IsOpen (s : Site) (f : JournalFile) (d : Disk) (backup current : List UInt8) : Prop where
  wellFormed : d.WellFormed
  leaf : d.Leaf f.path s.directory s.name
  node : d.nodeAt? (s.directory ++ [s.name]) = some (.file s.id)
  handle : f.handle = .file s.id
  content : (d.fileAt s.id).content = .bytes current
  backup : contents d (Path.backup f.path) = .ok backup
  /-- The last line is whole unless the file says otherwise. -/
  torn : f.torn = false → isTorn current = false

/-- The bytes at a path, by what its place holds. -/
theorem contents_of_place {p : String} {place : Disk.Place} (hp : d.place p = .ok place) :
    contents d p = match d.nodeAt? place with
      | none => .ok []
      | some (.file id) => .ok (d.fileAt id).content.toBytes
      | some .directory => .error .isADirectory
      | some .fullDevice | some .nullDevice => .ok [] := by
  cases hn : d.nodeAt? place with
  | none => simp [contents, Disk.read, Disk.node, hp, hn, bind, Except.bind]
  | some n =>
    have node := Disk.node_of_place hp hn
    cases n <;> simp [contents, Disk.read, node, bind, Except.bind]

/-- The bytes at a path stay as they are when nothing changes but other files. -/
theorem contents_congr {e : Disk} (nodes : e.nodes = d.nodes) {p : String} {place : Disk.Place}
    (hp : d.place p = .ok place)
    (same : ∀ id, d.nodeAt? place = some (.file id) →
      (e.fileAt id).content.toBytes = (d.fileAt id).content.toBytes) :
    contents e p = contents d p := by
  rw [contents_of_place hp, contents_of_place ((Disk.place_congr nodes p).trans hp), Disk.nodeAt?_congr nodes]
  cases hn : d.nodeAt? place with
  | none => rfl
  | some n =>
    cases n with
    | file id => simp only [same id hn]
    | _ => rfl

section

variable {s : Site} {f : JournalFile} {backup current : List UInt8}

theorem IsOpen.id_lt (h : IsOpen s f d backup current) : s.id < d.files.length := h.wellFormed.id_lt_of_nodeAt? h.node

theorem IsOpen.contents_path (h : IsOpen s f d backup current) : contents d f.path = .ok current := by
  rw [contents_of_place h.leaf.place, h.node]
  simp only [h.content]
  rfl

/-- The records of the journal come from the lines of the backup and those of the file. -/
theorem IsOpen.records (h : IsOpen s f d backup current) :
    records d f.path = .ok (inOrder (recordsOfBytes backup ++ recordsOfBytes current)) := by
  simp only [JournalFile.records, h.backup, h.contents_path]
  rfl

theorem IsOpen.backup_ne (h : IsOpen s f d backup current) {id : Nat}
    (hn : d.nodeAt? (s.directory ++ [s.name ++ ".bak"]) = some (.file id)) : s.id ≠ id := by
  rintro rfl
  exact h.leaf.place_ne_placeOfBackup (h.wellFormed.eq_of_nodeAt? h.node hn)

/-- What is appended to the file does not touch the backup. -/
theorem contents_backup_extend (h : IsOpen s f d backup current) (data : List UInt8) :
    contents (d.extend s.id data) (Path.backup f.path) = .ok backup := by
  rw [← h.backup]
  refine contents_congr (Disk.nodes_extend d s.id data) h.leaf.placeOfBackup fun id hn => ?_
  rw [Disk.fileAt_extend_ne (h.backup_ne hn)]

/-- The file after more bytes, with a mark that says whether the last line may be torn. -/
theorem IsOpen.extend (h : IsOpen s f d backup current) (data : List UInt8) {torn : Bool}
    (ht : torn = false → isTorn (current ++ data) = false) :
    IsOpen s { f with torn } (d.extend s.id data) backup (current ++ data) where
  wellFormed := h.wellFormed.extend s.id data
  leaf := h.leaf.mono (.of_nodes (Disk.nodes_extend d s.id data).symm)
  node := by
    rw [Disk.nodeAt?_congr (Disk.nodes_extend d s.id data)]
    exact h.node
  handle := h.handle
  content := Disk.content_extend h.content h.id_lt data
  backup := contents_backup_extend h data
  torn := ht

/-- What is stored in a database does not touch the journal. -/
theorem IsOpen.setTables (h : IsOpen s f d backup current) {id : Nat} {t : Database.Tables}
    (database : (d.fileAt id).content = .database t) (t' : Database.Tables) :
    IsOpen s f (d.setTables id t') backup current := by
  have nodes : (d.setTables id t').nodes = d.nodes := rfl
  have other : id ≠ s.id := by
    rintro rfl
    have content := h.content
    rw [database] at content
    exact absurd content (by simp)
  refine ⟨h.wellFormed.setFile id _, h.leaf.mono (.of_nodes nodes.symm), ?_, h.handle, ?_, ?_, h.torn⟩
  · rw [Disk.nodeAt?_congr nodes]
    exact h.node
  · rw [Disk.setTables, Disk.fileAt_setFile_ne other]
    exact h.content
  · rw [← h.backup]
    refine contents_congr nodes h.leaf.placeOfBackup fun id' _ => ?_
    by_cases same : id = id'
    · rw [← same, Disk.content_setTables database, database]
      rfl
    · rw [Disk.setTables, Disk.fileAt_setFile_ne same]

/-- A torn line is ended, unless that fails too. Either way the records stay as they are. -/
theorem mend_spec (m : Disk.Medium) (h : IsOpen s f d backup current) :
    ∃ result data, f.mend m d = (result, d.extend s.id data) ∧
      recordsOfBytes (current ++ data) = recordsOfBytes current ∧
      (result = .ok () → isTorn (current ++ data) = false) := by
  rw [mend]
  by_cases ht : f.torn = true
  · rw [if_pos ht, h.handle]
    obtain ⟨result, taken, written, front, hall⟩ := writePieces_spec m false [[lineBreak]] h.content h.id_lt
    refine ⟨result, taken, written, ?_, fun hr => ?_⟩
    · rcases List.prefix_cons_iff.mp front with rfl | ⟨rest, rfl, hrest⟩
      · rw [List.append_nil]
      · obtain rfl : rest = [] := by simpa using hrest
        exact recordsOfBytes_mended current
    · rw [hall hr]
      exact isTorn_mended current
  · rw [if_neg ht]
    refine ⟨.ok (), [], ?_, ?_, fun _ => ?_⟩
    · rw [Disk.extend_nil h.content h.id_lt]
    · rw [List.append_nil]
    · rw [List.append_nil]
      exact h.torn (by simpa using ht)

/-- An attempt to append records leaves a front of them behind those that were there. -/
theorem appendOn_spec (m : Disk.Medium) {rs : List Record} (h : IsOpen s f d backup current)
    (hrs : ∀ r ∈ rs, r.FitsWords) :
    ∃ result torn data k, f.appendOn m rs d = (result, { f with torn }, d.extend s.id data) ∧
      IsOpen s { f with torn } (d.extend s.id data) backup (current ++ data) ∧ k ≤ rs.length ∧
      recordsOfBytes (current ++ data) = recordsOfBytes current ++ plain (rs.take k) ∧
      (result = .ok () → k = rs.length) := by
  obtain ⟨result, data, mended, same, whole⟩ := mend_spec m h
  rw [appendOn, mended]
  cases result with
  | error e =>
    refine ⟨.error e, true, data, 0, rfl, h.extend data (by simp), Nat.zero_le _, ?_, by simp⟩
    rw [same, List.take_zero]
    exact (List.append_nil _).symm
  | ok =>
    have mended : IsOpen s { f with torn := true } (d.extend s.id data) backup (current ++ data) :=
      h.extend data (by simp)
    obtain ⟨result, taken, written, front, hall⟩ :=
      writePieces_spec m (f.policy != .never) (pieces f.policy rs) mended.content mended.id_lt
    rw [flatten_pieces] at front hall
    rw [Disk.extend_extend h.content h.id_lt, ← h.handle] at written
    obtain ⟨k, hk, read⟩ := recordsOfBytes_front hrs front
    have records : recordsOfBytes (current ++ (data ++ taken)) = recordsOfBytes current ++ plain (rs.take k) := by
      rw [← List.append_assoc, recordsOfBytes_append (whole rfl), same, read]
    simp only [written]
    cases result with
    | error e => exact ⟨.error e, true, data ++ taken, k, rfl, h.extend _ (by simp), hk, records, by simp⟩
    | ok =>
      obtain rfl := hall rfl
      have total : recordsOfBytes (current ++ (data ++ linesOf rs)) =
          recordsOfBytes current ++ plain (rs.take rs.length) := by
        rw [← List.append_assoc, recordsOfBytes_append (whole rfl), same, recordsOfBytes_linesOf hrs, List.take_length]
      have ended : isTorn (current ++ (data ++ linesOf rs)) = false := by
        rw [← List.append_assoc]
        exact isTorn_append (whole rfl) (isTorn_linesOf rs)
      exact ⟨.ok (), false, _, rs.length, rfl, h.extend _ fun _ => ended, Nat.le_refl _, total, fun _ => rfl⟩

/-! ## Files that take everything -/

theorem writePieces_sound (id : Nat) (sync : Bool) (ps : List (List UInt8)) (d : Disk) :
    (writePieces .sound (.file id) sync ps d).1 = .ok () := by
  induction ps generalizing d with
  | nil => rfl
  | cons piece rest ih =>
    rw [writePieces]
    cases sync
    all_goals exact ih _

/-- On the sound medium a file takes all records. -/
theorem append_spec {rs : List Record} (h : IsOpen s f d backup current) (hrs : ∀ r ∈ rs, r.FitsWords) :
    ∃ g e current', f.append rs d = (.ok (), g, e) ∧ IsOpen s g e backup current' ∧ g.path = f.path ∧
      recordsOfBytes current' = recordsOfBytes current ++ plain rs := by
  obtain ⟨result, torn, data, k, appended, opened, -, read, whole⟩ := appendOn_spec .sound h hrs
  have mended : (f.mend .sound d).1 = .ok () := by
    rw [mend, h.handle]
    split
    · exact writePieces_sound s.id false _ d
    · rfl
  have taken : (f.appendOn .sound rs d).1 = .ok () := by
    rw [appendOn, h.handle]
    generalize f.mend .sound d = front at mended ⊢
    obtain ⟨_, d₁⟩ := front
    obtain rfl := mended
    have written := writePieces_sound s.id (f.policy != .never) (pieces f.policy rs) d₁
    simp only
    generalize writePieces .sound (.file s.id) (f.policy != .never) (pieces f.policy rs) d₁ = lines at written ⊢
    obtain ⟨_, d₂⟩ := lines
    obtain rfl := written
    rfl
  rw [appended] at taken
  obtain rfl : result = .ok () := taken
  rw [whole rfl, List.take_length] at read
  exact ⟨_, _, _, appended, opened, rfl, read⟩

/-- Appends batches one after the other, up to the first one that fails. -/
def appendAll : List (List Record) → JournalFile → Disk → Except IoError Unit × JournalFile × Disk
  | [], f, d => (.ok (), f, d)
  | batch :: rest, f, d =>
    match f.append batch d with
    | (.ok (), f, d) => appendAll rest f d
    | failed => failed

/-- Batches amount to their records. -/
theorem appendAll_spec {batches : List (List Record)} (h : IsOpen s f d backup current)
    (fits : ∀ r ∈ batches.flatten, r.FitsWords) :
    ∃ g e current', appendAll batches f d = (.ok (), g, e) ∧ IsOpen s g e backup current' ∧ g.path = f.path ∧
      recordsOfBytes current' = recordsOfBytes current ++ plain batches.flatten := by
  induction batches generalizing f d current with
  | nil => exact ⟨f, d, current, rfl, h, rfl, (List.append_nil _).symm⟩
  | cons batch rest ih =>
    rw [List.flatten_cons] at fits ⊢
    obtain ⟨g, e, current₁, first, opened, path, read⟩ := append_spec h fun r hr => fits r (List.mem_append_left _ hr)
    obtain ⟨g', e', current₂, later, opened', path', read'⟩ :=
      ih opened fun r hr => fits r (List.mem_append_right _ hr)
    refine ⟨g', e', current₂, ?_, opened', path'.trans path, ?_⟩
    · rw [appendAll, first]
      exact later
    · rw [read', read, List.append_assoc, plain, plain, plain, List.map_append]

end

end JournalFile

end Blotter
