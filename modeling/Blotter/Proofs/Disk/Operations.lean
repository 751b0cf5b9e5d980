import Mathlib
import Blotter.Proofs.Disk.Path

/-!
# Operations on the disk

Every operation on a path keeps a disk well formed: opening (`WellFormed.openAppend`), making directories
(`WellFormed.makeDirectories`), putting bytes (`WellFormed.put`), removing (`WellFormed.remove`), and opening a database
(`WellFormed.openDatabase`). A file that is opened is where its path leads (`node_of_openAppend`).
-/

namespace Blotter.Disk

variable {d e : Disk}

/-! ## Opening -/

/-- Where nothing is yet there is a directory around. -/
theorem WellFormed.parent_of_vacant (h : d.WellFormed) {p : String} {place : Place} (hp : d.place p = .ok place)
    (hn : d.nodeAt? place = none) : d.nodeAt? place.dropLast = some .directory := by
  obtain ⟨init, last, hpieces⟩ := concat_pieces p
  obtain ⟨q, start, init', hq, hfollow, -, -⟩ := place_ok hpieces hp
  obtain ⟨-, rfl⟩ := follow_ok hfollow
  by_cases hvoid : Path.isVoid last = true
  · rw [if_pos hvoid, hq] at hn
    exact absurd hn (by simp)
  · by_cases hup : (last == "..") = true
    · rw [if_neg hvoid, if_pos hup, h.parent_of_node hq] at hn
      exact absurd hn (by simp)
    · rw [if_neg hvoid, if_neg hup, List.dropLast_concat]
      exact hq

/-- What opening a path for appending amounts to. -/
theorem openAppend_ok {p : String} {handle : Handle} (ho : d.openAppend p = .ok (handle, e)) :
    ∃ place, d.place p = .ok place ∧
      ((d.nodeAt? place = none ∧ handle = .file d.files.length ∧ e = (d.addFile place ⟨.bytes [], false⟩).2) ∨
        (e = d ∧ ((∃ id, d.nodeAt? place = some (.file id) ∧ handle = .file id) ∨
          (d.nodeAt? place = some .fullDevice ∧ handle = .fullDevice) ∨
          (d.nodeAt? place = some .nullDevice ∧ handle = .nullDevice)))) := by
  simp only [openAppend] at ho
  split at ho
  · split at ho <;> exact absurd ho (by simp)
  · cases hp : d.place p with
    | error e => simp [hp, bind, Except.bind] at ho
    | ok place =>
      refine ⟨place, rfl, ?_⟩
      simp only [hp, bind, Except.bind] at ho
      cases hn : d.nodeAt? place with
      | none =>
        simp only [hn, Except.ok.injEq, Prod.mk.injEq] at ho
        exact .inl ⟨rfl, ho.1.symm, ho.2.symm⟩
      | some n =>
        cases n with
        | directory => simp [hn] at ho
        | file id =>
          simp only [hn, Except.ok.injEq, Prod.mk.injEq] at ho
          exact .inr ⟨ho.2.symm, .inl ⟨id, rfl, ho.1.symm⟩⟩
        | fullDevice =>
          simp only [hn, Except.ok.injEq, Prod.mk.injEq] at ho
          exact .inr ⟨ho.2.symm, .inr (.inl ⟨rfl, ho.1.symm⟩)⟩
        | nullDevice =>
          simp only [hn, Except.ok.injEq, Prod.mk.injEq] at ho
          exact .inr ⟨ho.2.symm, .inr (.inr ⟨rfl, ho.1.symm⟩)⟩

theorem WellFormed.openAppend (h : d.WellFormed) {p : String} {handle : Handle}
    (ho : d.openAppend p = .ok (handle, e)) : e.WellFormed := by
  obtain ⟨place, hp, ⟨hn, -, rfl⟩ | ⟨rfl, -⟩⟩ := openAppend_ok ho
  · exact h.addFile (h.parent_of_vacant hp hn) _
  · exact h

/-- A file that is opened is where its path leads. -/
theorem node_of_openAppend {p : String} {id : Nat} (ho : d.openAppend p = .ok (.file id, e)) :
    e.node p = .ok (.file id) := by
  obtain ⟨place, hp, ⟨hn, hid, rfl⟩ | ⟨rfl, ⟨id', hn, hid⟩ | ⟨-, hid⟩ | ⟨-, hid⟩⟩⟩ := openAppend_ok ho
  · have keeps : d.KeepsDirectories (d.addFile place ⟨.bytes [], false⟩).2 := .append place _ _
    refine node_of_place (place_mono keeps hp) ?_
    rw [addFile, nodeAt?_append d.nodes d.files, hn, Handle.file.inj hid]
    simp
  · rw [Handle.file.inj hid]
    exact node_of_place hp hn
  · exact absurd hid (by simp)
  · exact absurd hid (by simp)

/-! ## Directories -/

theorem WellFormed.makeDirectory (h : d.WellFormed) {p : String} (hm : d.makeDirectory p = .ok e) : e.WellFormed := by
  rw [Disk.makeDirectory] at hm
  generalize String.ofList (p.toList.reverse.dropWhile (· == '/')).reverse = p at hm
  cases hp : d.place p with
  | error e => simp [hp, bind, Except.bind] at hm
  | ok place =>
    simp only [hp, bind, Except.bind] at hm
    cases hn : d.nodeAt? place with
    | some n => simp [hn] at hm
    | none =>
      simp only [hn, Except.ok.injEq] at hm
      rw [← hm]
      exact h.addDirectory (h.parent_of_vacant hp hn)

theorem WellFormed.ensureDirectory (h : d.WellFormed) (p : String) : (d.ensureDirectory p).2.WellFormed := by
  rw [Disk.ensureDirectory]
  cases hm : d.makeDirectory p with
  | ok e => exact h.makeDirectory hm
  | error e => exact h

theorem WellFormed.makeDirectoriesUpTo (h : d.WellFormed) (fuel : Nat) (p : String) :
    (Disk.makeDirectoriesUpTo fuel d p).2.WellFormed := by
  induction fuel generalizing d p with
  | zero => exact h
  | succ fuel ih =>
    rw [Disk.makeDirectoriesUpTo]
    split
    · exact h
    · split
      · rename_i q _ _
        have above := ih h q
        split
        · rename_i made
          rw [made] at above
          exact above.ensureDirectory p
        · exact above
      · exact h.ensureDirectory p

theorem WellFormed.makeDirectories (h : d.WellFormed) (p : String) : (d.makeDirectories p).2.WellFormed :=
  h.makeDirectoriesUpTo _ p

theorem WellFormed.makeParents (h : d.WellFormed) (p : String) : (d.makeParents p).2.WellFormed := by
  rw [Disk.makeParents]
  split
  · exact h
  · exact h
  · exact h.makeDirectories _

/-! ## Bytes -/

theorem WellFormed.append (h : d.WellFormed) {handle : Handle} {data : List UInt8}
    (ha : d.append handle data = .ok e) : e.WellFormed := by
  cases handle with
  | file id =>
    rw [← Except.ok.inj ha]
    exact h.extend id data
  | fullDevice =>
    simp only [Disk.append] at ha
    split at ha
    · rwa [← Except.ok.inj ha]
    · exact absurd ha (by simp)
  | nullDevice => rwa [← Except.ok.inj ha]

theorem WellFormed.truncate (h : d.WellFormed) {handle : Handle} (ht : d.truncate handle = .ok e) : e.WellFormed := by
  cases handle with
  | file id =>
    rw [← Except.ok.inj ht]
    exact h.setFile id _
  | fullDevice => exact absurd ht (by simp [Disk.truncate])
  | nullDevice => exact absurd ht (by simp [Disk.truncate])

theorem WellFormed.put (h : d.WellFormed) {p : String} {data : List UInt8} {keep : Bool}
    (hput : d.put p data keep = .ok e) : e.WellFormed := by
  rw [Disk.put] at hput
  cases ho : d.openAppend p with
  | error e => simp [ho, bind, Except.bind] at hput
  | ok opened =>
    obtain ⟨handle, d'⟩ := opened
    have h' := h.openAppend ho
    simp only [ho, bind, Except.bind, pure, Except.pure] at hput
    cases keep with
    | true => exact h'.append hput
    | false =>
      cases handle with
      | file id =>
        simp only [Bool.false_eq_true, if_false, Disk.truncate] at hput
        exact WellFormed.append (h'.setFile id _) hput
      | fullDevice =>
        simp only [Bool.false_eq_true, if_false] at hput
        exact h'.append hput
      | nullDevice =>
        simp only [Bool.false_eq_true, if_false] at hput
        exact h'.append hput

theorem WellFormed.makeReadOnly (h : d.WellFormed) {p : String} (hm : d.makeReadOnly p = .ok e) : e.WellFormed := by
  rw [Disk.makeReadOnly] at hm
  cases hn : d.node p with
  | error e => simp [hn, bind, Except.bind] at hm
  | ok n =>
    simp only [hn, bind, Except.bind] at hm
    cases n with
    | file id =>
      rw [← Except.ok.inj hm]
      exact h.setFile id _
    | directory => rwa [← Except.ok.inj hm]
    | fullDevice => rwa [← Except.ok.inj hm]
    | nullDevice => rwa [← Except.ok.inj hm]

/-- What is removed takes everything below with it, so nothing is left without its directory. -/
theorem WellFormed.remove (h : d.WellFormed) {p : String} (hr : d.remove p = .ok e) : e.WellFormed := by
  rw [Disk.remove] at hr
  cases hp : d.place p with
  | error e => simp [hp, bind, Except.bind] at hr
  | ok place =>
    simp only [hp, bind, Except.bind] at hr
    cases hn : d.nodeAt? place with
    | none => simp [hn] at hr
    | some n =>
      simp only [hn, Except.ok.injEq] at hr
      subst hr
      refine ⟨fun q n hm => ?_, fun q id hm => ?_, fun q q' id hm hm' => ?_⟩
      · obtain ⟨hm, outside⟩ := List.mem_filter.mp hm
        have above := h.parent q n hm
        by_cases fixed : IsFixed q.dropLast
        · rcases fixed with e | e | e | e | e <;> rw [e] at above ⊢ <;> exact above
        · have lookup :
              (d.nodes.filter fun e => !(place.isPrefixOf e.1)).lookup q.dropLast = d.nodes.lookup q.dropLast := by
            have kept : place.isPrefixOf q.dropLast = false := by
              rw [Bool.eq_false_iff]
              intro inside
              have : place <+: q := (List.isPrefixOf_iff_prefix.mp inside).trans (List.dropLast_prefix q)
              simp [List.isPrefixOf_iff_prefix.mpr this] at outside
            clear above hm outside h hn hp
            induction d.nodes with
            | nil => rfl
            | cons e nodes ih =>
              by_cases hq : e.1 = q.dropLast
              · rw [List.filter_cons_of_pos (by simp [hq, kept]), List.lookup_cons, List.lookup_cons, ih]
              · have other : (q.dropLast == e.1) = false := beq_false_of_ne (Ne.symm hq)
                rw [List.lookup_cons, other, List.filter_cons]
                split
                · rw [List.lookup_cons, other, ih]
                · exact ih
          rw [nodeAt?_of_not_isFixed fixed] at above ⊢
          rw [lookup]
          exact above
      · exact h.id_lt q id (List.mem_filter.mp hm).1
      · exact h.place_eq q q' id (List.mem_filter.mp hm).1 (List.mem_filter.mp hm').1

/-! ## Databases -/

theorem WellFormed.openDatabase (h : d.WellFormed) {p : String} {id : Option Nat}
    (ho : d.openDatabase p = some (id, e)) : e.WellFormed := by
  rw [Disk.openDatabase] at ho
  split at ho
  · rename_i opened
    have h' := h.openAppend opened
    split at ho
    · rwa [← (Prod.mk.inj (Option.some.inj ho)).2]
    · split at ho
      · rw [← (Prod.mk.inj (Option.some.inj ho)).2]
        exact h'.setFile _ _
      · rwa [← (Prod.mk.inj (Option.some.inj ho)).2]
  · exact absurd ho (by simp)

theorem WellFormed.setTables (h : d.WellFormed) (id : Nat) (t : Database.Tables) : (d.setTables id t).WellFormed :=
  h.setFile id _

end Blotter.Disk
