import Mathlib
import Blotter.Database.Store
import Blotter.Proofs.Disk.Operations
import Blotter.Proofs.Table

/-!
# Growing disks

Opening something takes nothing from a disk (`Disk.Grows`): every place holds what it held, new files have new numbers
and no bytes, and only a file of at most one byte may become a database, one without rows. So it is with files
(`grows_openAppend`) and databases (`grows_openDatabase`, `Database.Store.grows_openAt`). The directories that they need
above them come without anything else (`addsDirectories_makeParents`).
-/

namespace Blotter

namespace Disk

/-- Whether the second disk has all that the first one has, and beside it nothing but directories, files without bytes
and databases, the latter also in the place of files that were too short to be anything. -/
structure Grows (d e : Disk) : Prop where
  node : ∀ place n, d.nodeAt? place = some n → e.nodeAt? place = some n
  fresh : ∀ place id, d.nodeAt? place = none → e.nodeAt? place = some (.file id) → d.files.length ≤ id
  length_le : d.files.length ≤ e.files.length
  content : ∀ id, (e.fileAt id).content = (d.fileAt id).content ∨
    ∃ data, (d.fileAt id).content = .bytes data ∧ data.length ≤ 1 ∧ (e.fileAt id).content = .database .empty

/-- Whether the event rows of all databases are in the order of their keys. -/
def RowsInOrder (d : Disk) : Prop := ∀ id t, (d.fileAt id).content = .database t → t.events.Sorted

theorem rowsInOrder_empty : Disk.empty.RowsInOrder := fun _ _ database => nomatch database

variable {d e f : Disk}

theorem Grows.refl (d : Disk) : d.Grows d where
  node _ _ h := h
  fresh _ _ none some := by
    rw [none] at some
    exact absurd some (by simp)
  length_le := Nat.le_refl _
  content _ := .inl rfl

theorem Grows.trans (h : d.Grows e) (h' : e.Grows f) : d.Grows f where
  node place n hn := h'.node place n (h.node place n hn)
  fresh place id none some := by
    cases hn : e.nodeAt? place with
    | none => exact h.length_le.trans (h'.fresh place id hn some)
    | some n =>
      rw [h'.node place n hn] at some
      exact h.fresh place id none (hn.trans some)
  length_le := h.length_le.trans h'.length_le
  content id := by
    rcases h'.content id with same | ⟨data, held, short, database⟩
    · rw [same]
      exact h.content id
    · rcases h.content id with same | ⟨-, -, -, database'⟩
      · exact .inr ⟨data, same ▸ held, short, database⟩
      · rw [database'] at held
        cases held

theorem Grows.rowsInOrder (h : d.Grows e) (ordered : d.RowsInOrder) : e.RowsInOrder := by
  intro id t database
  rcases h.content id with same | ⟨-, -, -, new⟩
  · exact ordered id t (same ▸ database)
  · rw [new] at database
    exact Content.database.inj database ▸ Table.sorted_empty

/-- A file has the same tables, none if it was no database. -/
theorem Grows.tables (h : d.Grows e) (id : Nat) : e.tables id = d.tables id := by
  rw [Disk.tables, Disk.tables]
  rcases h.content id with same | ⟨data, held, -, database⟩
  · rw [same]
  · rw [held, database]

/-- Whether the second disk has what the first one has, and beside it nothing but directories. -/
structure AddsDirectories (d e : Disk) : Prop where
  files : e.files = d.files
  node : ∀ place, e.nodeAt? place = d.nodeAt? place ∨ d.nodeAt? place = none ∧ e.nodeAt? place = some .directory

namespace AddsDirectories

theorem refl (d : Disk) : d.AddsDirectories d := ⟨rfl, fun _ => .inl rfl⟩

theorem trans (h : d.AddsDirectories e) (h' : e.AddsDirectories f) : d.AddsDirectories f where
  files := h'.files.trans h.files
  node place := by
    rcases h'.node place with same' | ⟨vacant, new⟩
    · rw [same']
      exact h.node place
    · rcases h.node place with same | ⟨-, new'⟩
      · exact .inr ⟨same ▸ vacant, new⟩
      · rw [new'] at vacant
        cases vacant

theorem grows (h : d.AddsDirectories e) : d.Grows e where
  node place n hn := by
    rcases h.node place with same | ⟨vacant, -⟩
    · rw [same, hn]
    · rw [hn] at vacant
      cases vacant
  fresh place id none some := by
    rcases h.node place with same | ⟨-, new⟩
    · rw [same, none] at some
      cases some
    · rw [new] at some
      cases some
  length_le := by rw [h.files]
  content id := by
    refine .inl ?_
    rw [fileAt, fileAt, h.files]

end AddsDirectories

/-- A new directory. -/
theorem addsDirectories_concat (place : Place) :
    d.AddsDirectories ⟨d.nodes ++ [(place, .directory)], d.files⟩ := by
  refine ⟨rfl, fun q => ?_⟩
  rw [nodeAt?_append d.nodes d.files]
  cases hn : d.nodeAt? q with
  | some n => exact .inl rfl
  | none =>
    rw [Option.none_or]
    split
    · exact .inr ⟨rfl, rfl⟩
    · exact .inl rfl

/-! ## Files -/

/-- A file without bytes. -/
theorem grows_addFile (place : Place) : d.Grows (d.addFile place ⟨.bytes [], false⟩).2 where
  node q n hn := by
    rw [addFile, nodeAt?_append d.nodes d.files, hn]
    rfl
  fresh q id none some := by
    rw [addFile, nodeAt?_append d.nodes d.files, none, Option.none_or] at some
    split at some
    · obtain rfl := Node.file.inj (Option.some.inj some)
      exact Nat.le_refl _
    · exact absurd some (by simp)
  length_le := by
    rw [addFile, List.length_append]
    exact Nat.le_add_right _ _
  content id := by
    refine .inl ?_
    simp only [addFile, fileAt, List.getD_eq_getElem?_getD]
    rcases Nat.lt_or_ge id d.files.length with inside | outside
    · rw [List.getElem?_append_left inside]
    · rw [List.getElem?_append_right outside, List.getElem?_eq_none outside]
      cases id - d.files.length <;> rfl

/-- A file of at most one byte becomes a database. -/
theorem grows_database {id : Nat} {data : List UInt8} (held : (d.fileAt id).content = .bytes data)
    (short : data.length ≤ 1) :
    d.Grows (d.setFile id { d.fileAt id with content := .database .empty }) where
  node place n hn := by
    rw [nodeAt?_congr (nodes_setFile d id _)]
    exact hn
  fresh place id' none some := by
    rw [nodeAt?_congr (nodes_setFile d id _), none] at some
    exact absurd some (by simp)
  length_le := by rw [length_files_setFile]
  content id' := by
    by_cases other : id = id'
    · subst other
      by_cases inside : id < d.files.length
      · rw [fileAt_setFile inside]
        exact .inr ⟨data, held, short, rfl⟩
      · have same : d.setFile id { d.fileAt id with content := .database .empty } = d := by
          rw [setFile, List.set_eq_of_length_le (by omega)]
        exact .inl (by rw [same])
    · exact .inl (by rw [fileAt_setFile_ne other])

/-! ## Opening -/

theorem addsDirectories_makeDirectory {p : String} (h : d.makeDirectory p = .ok e) : d.AddsDirectories e := by
  rw [makeDirectory] at h
  generalize String.ofList (p.toList.reverse.dropWhile (· == '/')).reverse = p at h
  cases hp : d.place p with
  | error e => simp [hp, bind, Except.bind] at h
  | ok place =>
    simp only [hp, bind, Except.bind] at h
    cases hn : d.nodeAt? place with
    | some n => simp [hn] at h
    | none =>
      simp only [hn, Except.ok.injEq] at h
      exact h ▸ addsDirectories_concat place

theorem addsDirectories_ensureDirectory (d : Disk) (p : String) : d.AddsDirectories (d.ensureDirectory p).2 := by
  rw [ensureDirectory]
  cases h : d.makeDirectory p with
  | ok e => exact addsDirectories_makeDirectory h
  | error e => exact .refl d

theorem addsDirectories_makeDirectoriesUpTo (fuel : Nat) (d : Disk) (p : String) :
    d.AddsDirectories (makeDirectoriesUpTo fuel d p).2 := by
  induction fuel generalizing d p with
  | zero => exact .refl d
  | succ fuel ih =>
    rw [makeDirectoriesUpTo]
    split
    · exact .refl d
    · split
      · rename_i q _ _
        have above := ih d q
        split
        · rename_i made
          rw [made] at above
          exact above.trans (addsDirectories_ensureDirectory _ p)
        · exact above
      · exact addsDirectories_ensureDirectory d p

theorem addsDirectories_makeParents (d : Disk) (p : String) : d.AddsDirectories (d.makeParents p).2 := by
  rw [makeParents]
  split
  · exact .refl d
  · exact .refl d
  · exact addsDirectories_makeDirectoriesUpTo _ d _

theorem grows_makeParents (d : Disk) (p : String) : d.Grows (d.makeParents p).2 :=
  (addsDirectories_makeParents d p).grows

theorem grows_openAppend {p : String} {handle : Handle} (h : d.openAppend p = .ok (handle, e)) : d.Grows e := by
  obtain ⟨place, -, ⟨-, -, rfl⟩ | ⟨rfl, -⟩⟩ := openAppend_ok h
  · exact grows_addFile place
  · exact .refl e

theorem grows_openDatabase {p : String} {id : Option Nat} (h : d.openDatabase p = some (id, e)) : d.Grows e := by
  rw [openDatabase] at h
  split at h
  · rename_i opened
    have grows := grows_openAppend opened
    split at h
    · exact (Prod.mk.inj (Option.some.inj h)).2 ▸ grows
    · rename_i held
      split at h
      · rename_i short
        exact (Prod.mk.inj (Option.some.inj h)).2 ▸ grows.trans (grows_database held short)
      · exact (Prod.mk.inj (Option.some.inj h)).2 ▸ grows
  · exact absurd h (by simp)

end Disk

/-- A database that is opened takes nothing from the disk. -/
theorem Database.Store.grows_openAt (d : Disk) (target : DatabaseTarget) : d.Grows (openAt d target).2 := by
  cases target with
  | memory => exact .refl d
  | file path =>
    rw [openAt]
    split
    · exact .refl d
    · have grows := Disk.grows_makeParents d path
      split
      · rename_i made
        rwa [made] at grows
      · rename_i made
        rw [made] at grows
        split
        · exact grows
        · rename_i opened
          exact grows.trans (Disk.grows_openDatabase opened)
        · rename_i opened
          exact grows.trans (Disk.grows_openDatabase opened)

theorem Disk.RowsInOrder.tables {d : Disk} (h : d.RowsInOrder) (id : Nat) : (d.tables id).events.Sorted := by
  rw [Disk.tables]
  split
  · rename_i t content
    exact h id t content
  · exact Table.sorted_empty

/-- The event rows of a database that was opened are in order. -/
theorem Database.Store.sorted_of_openAt {d e : Disk} {target : DatabaseTarget} {s : Store} (ordered : e.RowsInOrder)
    (h : openAt d target = (.ok s, e)) : (s.tables e).events.Sorted := by
  cases s with
  | file id => exact ordered.tables id
  | memory t =>
    have empty : t = .empty := by
      cases target with
      | memory => exact (Store.memory.inj (Except.ok.inj (Prod.mk.inj h).1)).symm
      | file path =>
        rw [openAt] at h
        split at h
        · exact (Store.memory.inj (Except.ok.inj (Prod.mk.inj h).1)).symm
        · split at h
          · exact absurd (Prod.mk.inj h).1 (by simp)
          · split at h
            · exact absurd (Prod.mk.inj h).1 (by simp)
            · exact absurd (Prod.mk.inj h).1 (by simp)
            · exact absurd (Except.ok.inj (Prod.mk.inj h).1) (by simp)
    subst empty
    exact Table.sorted_empty

end Blotter
