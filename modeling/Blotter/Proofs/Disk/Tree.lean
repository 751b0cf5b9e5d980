import Mathlib
import Blotter.Disk.Medium

/-!
# The tree on the disk

- A disk is well formed if everything lies in a directory and every file has one place (`Disk.WellFormed`). The disk
  without files is, and the operations on files and directories keep it so.
- As long as no directory is lost, paths lead where they led before (`place_mono`).
-/

namespace Blotter.Disk

/-! ## Contents -/

theorem fileAt_setFile {d : Disk} {id : Nat} (h : id < d.files.length) (f : File) : (d.setFile id f).fileAt id = f := by
  simp [fileAt, setFile, h]

theorem fileAt_setFile_ne {d : Disk} {id id' : Nat} (h : id ≠ id') (f : File) :
    (d.setFile id f).fileAt id' = d.fileAt id' := by
  simp [fileAt, setFile, List.getElem?_set_ne h]

@[simp] theorem nodes_setFile (d : Disk) (id : Nat) (f : File) : (d.setFile id f).nodes = d.nodes := rfl

@[simp] theorem length_files_setFile (d : Disk) (id : Nat) (f : File) :
    (d.setFile id f).files.length = d.files.length := by
  simp [setFile]

theorem extend_of_bytes {d : Disk} {id : Nat} {old : List UInt8} (h : (d.fileAt id).content = .bytes old)
    (data : List UInt8) : d.extend id data = d.setFile id { d.fileAt id with content := .bytes (old ++ data) } := by
  simp [extend, h]

@[simp] theorem nodes_extend (d : Disk) (id : Nat) (data : List UInt8) : (d.extend id data).nodes = d.nodes := by
  rw [extend]
  split <;> rfl

@[simp] theorem length_files_extend (d : Disk) (id : Nat) (data : List UInt8) :
    (d.extend id data).files.length = d.files.length := by
  rw [extend]
  split
  · exact length_files_setFile d id _
  · rfl

theorem content_extend {d : Disk} {id : Nat} {old : List UInt8} (h : (d.fileAt id).content = .bytes old)
    (hid : id < d.files.length) (data : List UInt8) :
    ((d.extend id data).fileAt id).content = .bytes (old ++ data) := by
  rw [extend_of_bytes h, fileAt_setFile hid]

theorem fileAt_extend_ne {d : Disk} {id id' : Nat} (h : id ≠ id') (data : List UInt8) :
    (d.extend id data).fileAt id' = d.fileAt id' := by
  rw [extend]
  split
  · exact fileAt_setFile_ne h _
  · rfl

/-- A database is in a file that is there. -/
theorem id_lt_of_database {d : Disk} {id : Nat} {t : Database.Tables} (h : (d.fileAt id).content = .database t) :
    id < d.files.length := by
  by_contra outside
  have none : d.fileAt id = default := by
    rw [fileAt, List.getD_eq_getElem?_getD, List.getElem?_eq_none (by omega)]
    rfl
  rw [none] at h
  exact absurd h (by simp [default])

theorem content_setTables {d : Disk} {id : Nat} {t : Database.Tables} (h : (d.fileAt id).content = .database t)
    (t' : Database.Tables) : ((d.setTables id t').fileAt id).content = .database t' := by
  rw [setTables, fileAt_setFile (id_lt_of_database h)]

/-! ## Places -/

/-- What a place holds is a matter of the tree alone. -/
theorem nodeAt?_congr {d e : Disk} (h : d.nodes = e.nodes) (place : Place) : d.nodeAt? place = e.nodeAt? place := by
  rw [nodeAt?, nodeAt?, h]

theorem follow_congr {d e : Disk} (h : d.nodes = e.nodes) : d.follow = e.follow := by
  funext place piece
  rw [follow, follow, nodeAt?_congr h]

theorem place_congr {d e : Disk} (h : d.nodes = e.nodes) (p : String) : d.place p = e.place p := by
  rw [place, place]
  split <;> simp only [followAll, follow_congr h]

/-- The places that are there on every disk. -/
def IsFixed (place : Place) : Prop :=
  place = [] ∨ place = ["dev"] ∨ place = workingDirectory ∨ place = ["dev", "full"] ∨ place = ["dev", "null"]

theorem nodeAt?_of_not_isFixed {d : Disk} {place : Place} (h : ¬IsFixed place) :
    d.nodeAt? place = d.nodes.lookup place := by
  simp only [IsFixed, not_or] at h
  obtain ⟨root, dev, work, full, null⟩ := h
  simp [nodeAt?, root, dev, work, full, null]

theorem not_isFixed_of_file {d : Disk} {place : Place} {id : Nat} (h : d.nodeAt? place = some (.file id)) :
    ¬IsFixed place := by
  rintro (rfl | rfl | rfl | rfl | rfl) <;> simp [nodeAt?, workingDirectory] at h

theorem mem_nodes_of_file {d : Disk} {place : Place} {id : Nat} (h : d.nodeAt? place = some (.file id)) :
    (place, .file id) ∈ d.nodes := by
  rw [nodeAt?_of_not_isFixed (not_isFixed_of_file h)] at h
  obtain ⟨front, back, hnodes, -⟩ := List.lookup_eq_some_iff.mp h
  rw [hnodes]
  simp

/-- No directory of the first disk is missing on the second one. -/
def KeepsDirectories (d e : Disk) : Prop :=
  ∀ place, d.nodeAt? place = some .directory → e.nodeAt? place = some .directory

theorem KeepsDirectories.of_nodes {d e : Disk} (h : d.nodes = e.nodes) : d.KeepsDirectories e := by
  intro place hd
  rwa [← nodeAt?_congr h]

theorem follow_ok {d : Disk} {place target : Place} {piece : String} (h : d.follow place piece = .ok target) :
    d.nodeAt? place = some .directory ∧
      target = if Path.isVoid piece then place else if piece == ".." then place.dropLast else place ++ [piece] := by
  rw [follow] at h
  split at h
  · exact absurd h (by simp)
  · rename_i directory
    exact ⟨directory, (Except.ok.inj h).symm⟩
  · exact absurd h (by simp)

theorem follow_of_directory {d : Disk} {place : Place} (h : d.nodeAt? place = some .directory) (piece : String) :
    d.follow place piece =
      .ok (if Path.isVoid piece then place else if piece == ".." then place.dropLast else place ++ [piece]) := by
  rw [follow, h]

theorem followAll_mono {d e : Disk} (h : d.KeepsDirectories e) {pieces : List String} {start target : Place}
    (hp : d.followAll start pieces = .ok target) : e.followAll start pieces = .ok target := by
  induction pieces generalizing start with
  | nil => exact hp
  | cons piece pieces ih =>
    rw [followAll, List.foldlM_cons] at hp ⊢
    cases hf : d.follow start piece with
    | error e => rw [hf] at hp; exact absurd hp (by simp [bind, Except.bind])
    | ok next =>
      obtain ⟨directory, rfl⟩ := follow_ok hf
      rw [follow_of_directory directory] at hp
      rw [follow_of_directory (h start directory)]
      exact ih hp

/-- Paths lead where they led before as long as no directory is lost. -/
theorem place_mono {d e : Disk} (h : d.KeepsDirectories e) {p : String} {target : Place} (hp : d.place p = .ok target) :
    e.place p = .ok target := by
  rw [place] at hp ⊢
  split at hp
  · exact absurd hp (by simp)
  · exact absurd hp (by simp)
  · exact followAll_mono h hp
  · exact followAll_mono h hp

/-! ## Well-formed disks -/

/-- Everything lies in a directory, and every file has one place and holds something. -/
structure WellFormed (d : Disk) : Prop where
  parent : ∀ place n, (place, n) ∈ d.nodes → d.nodeAt? place.dropLast = some .directory
  id_lt : ∀ place id, (place, Node.file id) ∈ d.nodes → id < d.files.length
  place_eq : ∀ place place' id, (place, Node.file id) ∈ d.nodes → (place', Node.file id) ∈ d.nodes → place = place'

theorem wellFormed_empty : empty.WellFormed where
  parent := by simp [empty]
  id_lt := by simp [empty]
  place_eq := by simp [empty]

variable {d : Disk}

theorem WellFormed.id_lt_of_nodeAt? (h : d.WellFormed) {place : Place} {id : Nat}
    (hn : d.nodeAt? place = some (.file id)) : id < d.files.length :=
  h.id_lt place id (mem_nodes_of_file hn)

/-- What is there lies in a directory; the root counts as lying in itself. -/
theorem WellFormed.parent_of_node (h : d.WellFormed) {place : Place} {n : Node} (hn : d.nodeAt? place = some n) :
    d.nodeAt? place.dropLast = some .directory := by
  by_cases fixed : IsFixed place
  · rcases fixed with rfl | rfl | rfl | rfl | rfl <;> rfl
  · rw [nodeAt?_of_not_isFixed fixed] at hn
    obtain ⟨front, back, hnodes, -⟩ := List.lookup_eq_some_iff.mp hn
    exact h.parent place n (by rw [hnodes]; simp)

theorem WellFormed.eq_of_nodeAt? (h : d.WellFormed) {place place' : Place} {id : Nat}
    (hn : d.nodeAt? place = some (.file id)) (hn' : d.nodeAt? place' = some (.file id)) : place = place' :=
  h.place_eq place place' id (mem_nodes_of_file hn) (mem_nodes_of_file hn')

/-- Only the tree and the number of files matter. -/
theorem WellFormed.congr {e : Disk} (h : d.WellFormed) (hn : e.nodes = d.nodes)
    (hf : e.files.length = d.files.length) : e.WellFormed where
  parent place n hm := by
    rw [nodeAt?_congr hn]
    exact h.parent place n (hn ▸ hm)
  id_lt place id hm := by
    rw [hf]
    exact h.id_lt place id (hn ▸ hm)
  place_eq place place' id hm hm' := h.place_eq place place' id (hn ▸ hm) (hn ▸ hm')

theorem WellFormed.setFile (h : d.WellFormed) (id : Nat) (f : File) : (d.setFile id f).WellFormed :=
  h.congr rfl (length_files_setFile d id f)

theorem WellFormed.extend (h : d.WellFormed) (id : Nat) (data : List UInt8) : (d.extend id data).WellFormed :=
  h.congr (nodes_extend d id data) (length_files_extend d id data)

/-! ## New places -/

/-- What places hold behind new entries at the end. -/
theorem nodeAt?_append (nodes : List (Place × Node)) (files files' : List File) (place target : Place) (n : Node) :
    (⟨nodes ++ [(target, n)], files'⟩ : Disk).nodeAt? place =
      (((⟨nodes, files⟩ : Disk).nodeAt? place).or (if place == target then some n else none)) := by
  by_cases h : IsFixed place
  · rcases h with rfl | rfl | rfl | rfl | rfl <;> simp [nodeAt?, workingDirectory]
  · rw [nodeAt?_of_not_isFixed h, nodeAt?_of_not_isFixed h, List.lookup_append, List.lookup_cons]
    cases place == target <;> rfl

theorem KeepsDirectories.append (place : Place) (n : Node) (files' : List File) :
    d.KeepsDirectories ⟨d.nodes ++ [(place, n)], files'⟩ := by
  intro q hq
  rw [nodeAt?_append d.nodes d.files files', hq]
  rfl

/-- A new file in a directory keeps the disk well formed. -/
theorem WellFormed.addFile (h : d.WellFormed) {place : Place} (hp : d.nodeAt? place.dropLast = some .directory)
    (f : File) : (d.addFile place f).2.WellFormed where
  parent q n hm := by
    refine KeepsDirectories.append place (.file d.files.length) (d.files ++ [f]) _ ?_
    rcases List.mem_append.mp hm with hm | hm
    · exact h.parent q n hm
    · obtain ⟨rfl, -⟩ := Prod.mk.inj (List.mem_singleton.mp hm)
      exact hp
  id_lt q id hm := by
    rw [Disk.addFile, List.length_append, List.length_singleton]
    rcases List.mem_append.mp hm with hm | hm
    · exact (h.id_lt q id hm).trans (Nat.lt_succ_self _)
    · have := Node.file.inj (Prod.mk.inj (List.mem_singleton.mp hm)).2
      omega
  place_eq q q' id hm hm' := by
    rcases List.mem_append.mp hm with hm | hm <;> rcases List.mem_append.mp hm' with hm' | hm'
    · exact h.place_eq q q' id hm hm'
    · have := Node.file.inj (Prod.mk.inj (List.mem_singleton.mp hm')).2
      exact absurd (h.id_lt q id hm) (by omega)
    · have := Node.file.inj (Prod.mk.inj (List.mem_singleton.mp hm)).2
      exact absurd (h.id_lt q' id hm') (by omega)
    · rw [(Prod.mk.inj (List.mem_singleton.mp hm)).1, (Prod.mk.inj (List.mem_singleton.mp hm')).1]

theorem WellFormed.addDirectory (h : d.WellFormed) {place : Place} (hp : d.nodeAt? place.dropLast = some .directory) :
    (⟨d.nodes ++ [(place, .directory)], d.files⟩ : Disk).WellFormed where
  parent q n hm := by
    refine KeepsDirectories.append place .directory d.files _ ?_
    rcases List.mem_append.mp hm with hm | hm
    · exact h.parent q n hm
    · obtain ⟨rfl, -⟩ := Prod.mk.inj (List.mem_singleton.mp hm)
      exact hp
  id_lt q id hm := by
    rcases List.mem_append.mp hm with hm | hm
    · exact h.id_lt q id hm
    · exact absurd (Prod.mk.inj (List.mem_singleton.mp hm)).2 (by simp)
  place_eq q q' id hm hm' := by
    rcases List.mem_append.mp hm with hm | hm <;> rcases List.mem_append.mp hm' with hm' | hm'
    · exact h.place_eq q q' id hm hm'
    · exact absurd (Prod.mk.inj (List.mem_singleton.mp hm')).2 (by simp)
    · exact absurd (Prod.mk.inj (List.mem_singleton.mp hm)).2 (by simp)
    · exact absurd (Prod.mk.inj (List.mem_singleton.mp hm)).2 (by simp)

/-! ## Moved files -/

section Relink

variable {source target : Place}

theorem lookup_relink_of_ne {place : Place} {n : Node} (hs : place ≠ source) (ht : place ≠ target) :
    (d.relink source target n).nodes.lookup place = d.nodes.lookup place := by
  rw [relink, List.lookup_append]
  have last : [(target, n)].lookup place = none := by simp [List.lookup_cons, beq_false_of_ne ht]
  rw [last, Option.or_none]
  induction d.nodes with
  | nil => rfl
  | cons e nodes ih =>
    by_cases he : e.1 = source ∨ e.1 = target
    · have other : (place == e.1) = false := by
        rw [beq_eq_false_iff_ne]
        rcases he with he | he <;> rw [he]
        · exact hs
        · exact ht
      rw [List.filter_cons_of_neg (by rcases he with he | he <;> simp [he]), ih, List.lookup_cons, other]
    · rw [not_or] at he
      rw [List.filter_cons_of_pos (by simp [he]), List.lookup_cons, List.lookup_cons, ih]

theorem nodeAt?_relink_of_ne {place : Place} {n : Node} (hs : place ≠ source) (ht : place ≠ target) :
    (d.relink source target n).nodeAt? place = d.nodeAt? place := by
  rw [nodeAt?, nodeAt?, lookup_relink_of_ne hs ht]

theorem lookup_filter_eq_none {place : Place} (h : place = source ∨ place = target) :
    (d.nodes.filter fun e => e.1 != source && e.1 != target).lookup place = none := by
  rw [List.lookup_eq_none_iff]
  intro e he
  have := (List.mem_filter.mp he).2
  simp only [Bool.and_eq_true, bne_iff_ne, ne_eq] at this ⊢
  rcases h with rfl | rfl
  · exact fun e => this.1 e.symm
  · exact fun e => this.2 e.symm

theorem nodeAt?_relink_target {n : Node} (h : ¬IsFixed target) :
    (d.relink source target n).nodeAt? target = some n := by
  rw [nodeAt?_of_not_isFixed h, relink, List.lookup_append, lookup_filter_eq_none (.inr rfl)]
  simp

theorem nodeAt?_relink_source {n : Node} (h : ¬IsFixed source) (hne : source ≠ target) :
    (d.relink source target n).nodeAt? source = none := by
  rw [nodeAt?_of_not_isFixed h, relink, List.lookup_append, lookup_filter_eq_none (.inl rfl)]
  simp [List.lookup_cons, beq_false_of_ne hne]

variable {id : Nat} (hs : d.nodeAt? source = some (.file id)) (ht : d.nodeAt? target ≠ some .directory)

include hs ht

/-- A file that moves to where no directory is leaves the directories alone. -/
theorem KeepsDirectories.relink : d.KeepsDirectories (d.relink source target (.file id)) := by
  intro place hd
  rw [nodeAt?_relink_of_ne]
  · exact hd
  · rintro rfl
    exact absurd (hd.symm.trans hs) (by simp)
  · rintro rfl
    exact ht hd

theorem rename_of_file {p q : String} (hp : d.place p = .ok source) (hq : d.place q = .ok target) :
    d.rename p q = .ok (d.relink source target (.file id)) := by
  simp only [rename, hp, hq, bind, Except.bind, hs]
  cases hn : d.nodeAt? target with
  | none => rfl
  | some n =>
    cases n with
    | directory => exact absurd hn ht
    | file _ => rfl
    | fullDevice => rfl
    | nullDevice => rfl

/-- A file that moves into a directory keeps the disk well formed. -/
theorem WellFormed.relink (h : d.WellFormed) (hp : d.nodeAt? target.dropLast = some .directory) :
    (d.relink source target (.file id)).WellFormed where
  parent q n hm := by
    refine KeepsDirectories.relink hs ht _ ?_
    rcases List.mem_append.mp hm with hm | hm
    · exact h.parent q n (List.mem_filter.mp hm).1
    · obtain ⟨rfl, -⟩ := Prod.mk.inj (List.mem_singleton.mp hm)
      exact hp
  id_lt q id' hm := by
    rcases List.mem_append.mp hm with hm | hm
    · exact h.id_lt q id' (List.mem_filter.mp hm).1
    · rw [Node.file.inj (Prod.mk.inj (List.mem_singleton.mp hm)).2]
      exact h.id_lt_of_nodeAt? hs
  place_eq q q' id' hm hm' := by
    have only (place : Place) (hmem : (place, Node.file id) ∈ d.nodes.filter fun e => e.1 != source && e.1 != target) :
        False := by
      obtain ⟨hmem, hne⟩ := List.mem_filter.mp hmem
      rw [h.place_eq place source id hmem (mem_nodes_of_file hs)] at hne
      simp at hne
    rcases List.mem_append.mp hm with hm | hm <;> rcases List.mem_append.mp hm' with hm' | hm'
    · exact h.place_eq q q' id' (List.mem_filter.mp hm).1 (List.mem_filter.mp hm').1
    · rw [Node.file.inj (Prod.mk.inj (List.mem_singleton.mp hm')).2] at hm
      exact (only q hm).elim
    · rw [Node.file.inj (Prod.mk.inj (List.mem_singleton.mp hm)).2] at hm'
      exact (only q' hm').elim
    · rw [(Prod.mk.inj (List.mem_singleton.mp hm)).1, (Prod.mk.inj (List.mem_singleton.mp hm')).1]

end Relink

end Blotter.Disk
