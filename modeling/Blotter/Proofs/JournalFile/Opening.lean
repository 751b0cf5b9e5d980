import Mathlib
import Blotter.Proofs.Disk.Making
import Blotter.Proofs.JournalFile.Append

/-!
# Opening and rotating

- A journal file that is opened is open where its path leads (`isOpen_of_openAt`), and opening it once more finds the
  same bytes (`openAt_of_isOpen`).
- What is opened beside it does not touch a journal file and brings no records to its backup (`IsOpen.grow`). The
  records that can be read then could be read before the file was opened, unless its path goes back up from where
  nothing was (`records_before`).
- A rotation makes the bytes of the file those of the backup and starts an empty file (`rotate_of_isOpen`).
-/

namespace Blotter.JournalFile

open Disk

variable {d d' : Disk} {s : Site} {f : JournalFile} {backup current : List UInt8}

/-- What opening a journal file amounts to. -/
theorem openAt_ok {path : String} {policy : SyncPolicy} (h : openAt d path policy = (.ok f, d')) :
    ∃ d₁ handle data, d.makeParents path = (.ok (), d₁) ∧ d₁.openAppend path = .ok (handle, d') ∧
      d'.read path = .ok data ∧ f = ⟨path, handle, policy, isTorn data⟩ := by
  rw [openAt] at h
  split at h
  · exact absurd (Prod.mk.inj h).1 (by simp)
  · rename_i d₁ made
    split at h
    · exact absurd (Prod.mk.inj h).1 (by simp)
    · rename_i handle d₂ opened
      split at h
      · exact absurd (Prod.mk.inj h).1 (by simp)
      · rename_i data read
        obtain ⟨hf, rfl⟩ := Prod.mk.inj h
        exact ⟨d₁, handle, data, made, opened, read, (Except.ok.inj hf).symm⟩

theorem wellFormed_of_openAt {path : String} {policy : SyncPolicy} (wf : d.WellFormed)
    (h : openAt d path policy = (.ok f, d')) : d'.WellFormed := by
  obtain ⟨d₁, handle, data, made, opened, -, -⟩ := openAt_ok h
  have := wf.makeParents path
  rw [made] at this
  exact this.openAppend opened

/-- What it takes to read the records of a journal. -/
theorem records_eq_ok_iff {path : String} {rs : List Record} : records d path = .ok rs ↔
    ∃ backup current, contents d (Path.backup path) = .ok backup ∧ contents d path = .ok current ∧
      recordsOfContents backup current = rs := by
  rw [records]
  cases contents d (Path.backup path) with
  | error x => simp
  | ok backup => cases contents d path <;> simp

/-- A journal file that is opened is open where its path leads, if that is a file with bytes and the backup can be
read. -/
theorem isOpen_of_openAt {path : String} {policy : SyncPolicy} {id : Nat} (wf : d.WellFormed)
    (h : openAt d path policy = (.ok f, d')) (hid : f.handle = .file id)
    (hc : (d'.fileAt id).content = .bytes current) (hb : contents d' (Path.backup path) = .ok backup) :
    ∃ s, IsOpen s f d' backup current ∧ f.path = path ∧ s.id = id := by
  have wf' := wellFormed_of_openAt wf h
  obtain ⟨d₁, handle, data, -, opened, read, rfl⟩ := openAt_ok h
  obtain rfl : handle = .file id := hid
  have node := node_of_openAppend opened
  obtain ⟨directory, name, leaf, hnode⟩ := leaf_of_file wf' node
  refine ⟨⟨directory, name, id⟩, ⟨wf', leaf, hnode, rfl, hc, hb, ?_⟩, rfl, rfl⟩
  obtain rfl : current = data := by
    simpa [Disk.read, node, hc, bind, Except.bind, Content.toBytes] using read
  exact fun whole => whole

/-- A journal file that is there is opened again with the bytes that it has. -/
theorem openAt_of_isOpen (h : IsOpen s f d backup current) (policy : SyncPolicy) :
    ∃ g, openAt d f.path policy = (.ok g, d) ∧ IsOpen s g d backup current ∧ g.path = f.path := by
  have node := node_of_place h.leaf.place h.node
  have read : d.read f.path = .ok current := by
    simp [Disk.read, node, h.content, bind, Except.bind, Content.toBytes]
  refine ⟨⟨f.path, .file s.id, policy, isTorn current⟩, ?_, ?_, rfl⟩
  · simp only [openAt, makeParents_of_leaf h.leaf, openAppend_of_file h.leaf h.node, read]
  · exact ⟨h.wellFormed, h.leaf, h.node, rfl, h.content, h.backup, fun whole => whole⟩

/-- What is made while a journal file is opened, be it in vain, takes nothing from the disk. -/
theorem grows_openAt (d : Disk) (path : String) (policy : SyncPolicy) : d.Grows (openAt d path policy).2 := by
  have parents := Disk.grows_makeParents d path
  rw [openAt]
  split
  · rename_i made
    rwa [made] at parents
  · rename_i made
    rw [made] at parents
    split
    · exact parents
    · rename_i opened
      have grows := parents.trans (Disk.grows_openAppend opened)
      split
      · exact grows
      · exact grows

/-- A rotation makes the bytes of the file those of the backup and starts an empty file. -/
theorem rotate_of_isOpen (h : IsOpen s f d backup current) :
    ∃ s' g e, f.rotate true d = (.ok (), g, e) ∧ IsOpen s' g e current [] ∧ g.path = f.path := by
  have backupIsNoDirectory : d.nodeAt? (s.directory ++ [s.name ++ ".bak"]) ≠ some .directory := by
    intro hn
    have hb := h.backup
    rw [contents_of_place h.leaf.placeOfBackup, hn] at hb
    exact absurd hb (by simp)
  have notFixed := h.leaf.not_isFixed_backup
  have keeps := KeepsDirectories.relink h.node backupIsNoDirectory
  have inDirectory : d.nodeAt? (s.directory ++ [s.name ++ ".bak"]).dropLast = some .directory := by
    rw [List.dropLast_concat]
    exact h.leaf.isDirectory
  have wf := WellFormed.relink h.node backupIsNoDirectory h.wellFormed inDirectory
  have renamed := rename_of_file h.node backupIsNoDirectory h.leaf.place h.leaf.placeOfBackup
  -- The tree between the two steps: the backup is the old file, and nothing is at the path.
  generalize hm : d.relink (s.directory ++ [s.name]) (s.directory ++ [s.name ++ ".bak"]) (.file s.id) = m at *
  have atBackup : m.nodeAt? (s.directory ++ [s.name ++ ".bak"]) = some (.file s.id) := by
    rw [← hm]
    exact nodeAt?_relink_target notFixed
  have vacant : m.nodeAt? (s.directory ++ [s.name]) = none := by
    rw [← hm]
    exact nodeAt?_relink_source (not_isFixed_of_file h.node) h.leaf.place_ne_placeOfBackup
  have files : m.files = d.files := by rw [← hm]; rfl
  have leaf := h.leaf.mono keeps
  have opened := openAppend_of_none leaf vacant
  have keeps' : m.KeepsDirectories (m.addFile (s.directory ++ [s.name]) ⟨.bytes [], false⟩).2 := .append _ _ _
  refine ⟨⟨s.directory, s.name, m.files.length⟩, { f with handle := .file m.files.length, torn := false },
    (m.addFile (s.directory ++ [s.name]) ⟨.bytes [], false⟩).2, ?_, ⟨?_, leaf.mono keeps', ?_, rfl, ?_, ?_, ?_⟩, rfl⟩
  · simp only [rotate, JournalFile.sync, h.handle, Disk.sync, if_true, renamed, opened]
  · refine wf.addFile ?_ _
    rw [List.dropLast_concat]
    exact leaf.isDirectory
  · rw [addFile, nodeAt?_append m.nodes m.files, vacant]
    simp
  · simp [addFile, fileAt]
  · rw [contents_of_place (leaf.mono keeps').placeOfBackup, addFile, nodeAt?_append m.nodes m.files, atBackup]
    have inside : s.id < d.files.length := h.id_lt
    have content : (d.files.getD s.id default).content = .bytes current := h.content
    have same : (m.files ++ [(⟨.bytes [], false⟩ : Disk.File)]).getD s.id default = d.files.getD s.id default := by
      rw [files]
      simp [List.getElem?_append_left inside]
    rw [Option.some_or]
    simp only [fileAt, same, content]
    rfl
  · intro _
    rfl

end Blotter.JournalFile
