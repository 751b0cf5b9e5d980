import Mathlib
import Blotter.Proofs.Disk.Path
import Blotter.Proofs.Failure

/-!
# Parents

- A parent is shorter than its path (`Path.length_parent?_lt`), so there is fuel for all paths above one
  (`Path.ancestors_of_parent?`).
- A path that ends in a name leads to that name in the directory of its parent (`Disk.place_of_parent?`).
- The directories above a path that leads to a file are not made again (`Disk.makeParents_of_leaf`).
-/

namespace Blotter

/-! ## Paths of parents -/

namespace Path

variable {p q : String}

theorem intercalate_pieces (p : String) : "/".intercalate (pieces p) = p := by
  have whole : String.toList ∘ String.ofList = id := by
    funext cs
    simp
  have slash : "/".toList = ['/'] := rfl
  rw [← String.toList_inj, String.toList_intercalate, pieces, List.map_map, whole, List.map_id, slash,
    ← List.splitOn_eq_splitOnP, List.intercalate_splitOn]

/-- Something is taken off where a piece names something. -/
theorem exists_dropLast_append {ps : List String} (h : dropVoid ps ≠ []) :
    ∃ more, more ≠ [] ∧ ps = dropVoid (dropVoid ps).dropLast ++ more := by
  obtain ⟨voids, hps, -⟩ := dropVoid_append ps
  obtain ⟨voids', hfront, -⟩ := dropVoid_append (dropVoid ps).dropLast
  refine ⟨voids' ++ [(dropVoid ps).getLast h] ++ voids, by simp, ?_⟩
  conv_lhs => rw [hps, ← List.dropLast_append_getLast h, hfront]
  simp only [List.append_assoc]

/-- A parent is shorter than its path. -/
theorem length_parent?_lt (h : parent? p = some q) : q.length < p.length := by
  have joined := intercalate_pieces p
  have slash : "/".length = 1 := rfl
  rw [parent?] at h
  split at h
  · cases h
  · rename_i first rest hp
    rw [hp] at joined
    split at h
    · split at h
      · cases h
      · rename_i named
        obtain rfl := Option.some.inj h
        refine Nat.pos_of_ne_zero fun zero => ?_
        obtain rfl : p = "" := String.length_eq_zero_iff.mp zero
        have empty : pieces "" = [""] := rfl
        rw [empty] at hp
        exact named (by rw [← (List.cons.inj hp).1]; rfl)
    · rename_i named
      obtain rfl := Option.some.inj h
      obtain ⟨more, some, hrest⟩ := exists_dropLast_append named
      generalize dropVoid (dropVoid rest).dropLast = front at *
      have longer : p = "/".intercalate (first :: front) ++ "/" ++ "/".intercalate more := by
        rw [← joined, hrest, ← List.cons_append, String.intercalate_append_of_ne_nil (by simp) some]
      have length := congrArg String.length longer
      rw [String.length_append, String.length_append] at length
      split
      · rename_i root
        obtain ⟨rfl, rfl⟩ : front = [] ∧ first = "" := by simpa using root
        refine lt_of_not_ge fun short => named ?_
        -- the path would be a slash alone, which has no last part to take off
        have nothing : "/".intercalate more = "" := by
          rw [← String.length_eq_zero_iff]
          omega
        have alone : pieces "/" = ["", ""] := rfl
        rw [longer, nothing] at hp
        have rest_eq : rest = [""] := (List.cons.inj (hp.symm.trans alone)).2
        rw [rest_eq]
        rfl
      · omega

/-- A path of one piece lies in the working directory. -/
theorem parent?_of_single {p name : String} (hp : pieces p = [name]) (hn : name ≠ "") : parent? p = some "" := by
  have empty : dropVoid [] = [] := rfl
  rw [parent?, hp]
  simp [empty, hn]

/-- The parent of a path whose last piece names something. -/
theorem parent?_of_pieces {p first name : String} {rest : List String} (hp : pieces p = first :: (rest ++ [name]))
    (hv : isVoid name = false) :
    parent? p =
      some (if (dropVoid rest).isEmpty && first == "" then "/" else "/".intercalate (first :: dropVoid rest)) := by
  rw [parent?, hp]
  simp only [dropVoid_concat hv, List.dropLast_concat]
  split
  · rename_i e
    exact absurd e (by simp)
  · rfl

/-- The path of the parent has the pieces in front of the last one, without those at their end that name nothing. -/
theorem pieces_parent {p first last : String} {rest : List String} (hp : pieces p = first :: rest ++ [last]) :
    pieces ("/".intercalate (first :: dropVoid rest)) = first :: dropVoid rest := by
  obtain ⟨voids, hrest, -⟩ := dropVoid_append rest
  refine pieces_intercalate (fun piece hm => slash_notMem_of_mem_pieces (p := p) ?_) (by simp)
  rw [hp, List.mem_append]
  rcases List.mem_cons.mp hm with rfl | hm
  · simp
  · rw [hrest]
    simp [hm]

/-- The parent of a path whose last piece names something is the working directory, the root, a dot, or a path of the
same kind. -/
theorem parent?_cases {init : List String} {name : String} (hp : pieces p = init ++ [name])
    (hv : isVoid name = false) : ∃ q, parent? p = some q ∧ (q = "" ∨ q = "/" ∨ q = "." ∨
      ∃ front last, pieces q = front ++ [last] ∧ isVoid last = false) := by
  cases init with
  | nil =>
    exact ⟨"", parent?_of_single hp (ne_empty_of_isVoid hv), .inl rfl⟩
  | cons first rest =>
    refine ⟨_, parent?_of_pieces hp hv, ?_⟩
    by_cases root : ((dropVoid rest).isEmpty && first == "") = true
    · exact .inr (.inl (if_pos root))
    · rw [if_neg root]
      have hq := pieces_parent hp
      rcases List.eq_nil_or_concat (dropVoid rest) with none | ⟨front, last, some⟩
      · rw [none] at root hq ⊢
        have named : first ≠ "" := by simpa using root
        by_cases dot : first = "."
        · exact .inr (.inr (.inl (by rw [dot]; rfl)))
        · exact .inr (.inr (.inr ⟨[], first, hq, by simp [isVoid, named, dot]⟩))
      · rw [List.concat_eq_append] at some
        refine .inr (.inr (.inr ⟨first :: front, last, by rw [hq, some]; rfl, ?_⟩))
        exact isVoid_of_getLast?_dropVoid (by rw [some, List.getLast?_concat])

/-- A path whose last piece names something does not end in a slash. -/
theorem head?_reverse_of_name {init : List String} {name : String} (hp : pieces p = init ++ [name])
    (hv : isVoid name = false) : p.toList.reverse.head? ≠ some '/' := by
  refine head?_reverse_ne_slash fun slash => ?_
  rw [hp, List.getLast?_concat] at slash
  rw [Option.some.inj slash] at hv
  exact absurd hv (by decide)

/-- The path of a parent has no slash at its end, unless it is the root. -/
theorem parent?_tidy {init : List String} {name : String} (hp : pieces p = init ++ [name]) (hv : isVoid name = false)
    (parent : parent? p = some q) : q = "" ∨ q = "/" ∨ q.toList.reverse.head? ≠ some '/' := by
  obtain ⟨q', parent', kind⟩ := parent?_cases hp hv
  obtain rfl : q' = q := Option.some.inj (parent'.symm.trans parent)
  rcases kind with empty | root | rfl | ⟨front, last, hq, hl⟩
  · exact .inl empty
  · exact .inr (.inl root)
  · exact .inr (.inr (by decide))
  · exact .inr (.inr (head?_reverse_of_name hq hl))

end Path

namespace Disk

variable {d : Disk}

/-! ## Places in directories -/

/-- The place that a parent stands for. The empty path stands for the working directory. -/
def base (d : Disk) (p : String) : Except IoError Place := if p == "" then .ok workingDirectory else d.place p

/-- A piece that names nothing leads nowhere else. -/
theorem follow_void {piece : String} (hv : Path.isVoid piece = true) (q : Place) (name : String) :
    (d.follow q piece >>= fun q => d.follow q name) = d.follow q name := by
  cases hq : d.nodeAt? q with
  | none => simp [follow, hq, bind, Except.bind]
  | some n =>
    cases n with
    | directory =>
      rw [follow_of_directory hq, if_pos hv]
      rfl
    | _ => simp [follow, hq, bind, Except.bind]

theorem followAll_voids_concat (start : Place) (ps : List String) {voids : List String} {name : String}
    (hv : ∀ piece ∈ voids, Path.isVoid piece = true) :
    d.followAll start (ps ++ voids ++ [name]) = d.followAll start ps >>= fun q => d.follow q name := by
  induction voids using List.reverseRecOn with
  | nil => rw [List.append_nil, followAll_concat]
  | append_singleton voids piece ih =>
    have front : ∀ piece ∈ voids, Path.isVoid piece = true := fun x hx => hv x (List.mem_append_left _ hx)
    have last : Path.isVoid piece = true := hv piece (List.mem_append_right _ (List.mem_singleton_self _))
    rw [← List.append_assoc, followAll_concat, followAll_concat, bind_assoc]
    simp only [follow_void last]
    rw [← followAll_concat]
    exact ih front

/-- A path whose last piece names something leads to that name in the directory of its parent. -/
theorem place_of_parent? {p q name : String} {init : List String} (hp : Path.pieces p = init ++ [name])
    (hv : Path.isVoid name = false) (parent : Path.parent? p = some q) :
    d.place p = d.base q >>= fun q => d.follow q name := by
  cases init with
  | nil =>
    have named := Path.ne_empty_of_isVoid hv
    rw [Path.parent?_of_single hp named] at parent
    obtain rfl := Option.some.inj parent
    rw [place_eq_route, hp, List.nil_append, route_cons named]
    exact followAll_concat workingDirectory [] name
  | cons first rest =>
    rw [Path.parent?_of_pieces hp hv] at parent
    obtain rfl := Option.some.inj parent
    obtain ⟨voids, hrest, hvoids⟩ := Path.dropVoid_append rest
    rw [place_eq_route, hp]
    by_cases root : ((Path.dropVoid rest).isEmpty && first == "") = true
    · obtain ⟨none, rfl⟩ : Path.dropVoid rest = [] ∧ first = "" := by simpa using root
      rw [none] at hrest
      rw [if_pos root, List.cons_append, route_slash (by simp), hrest]
      exact followAll_voids_concat [] [] hvoids
    · have hq := Path.pieces_parent hp
      have above : ("/".intercalate (first :: Path.dropVoid rest) == "") = false := by
        rw [beq_eq_false_iff_ne]
        intro empty
        rw [empty] at hq
        have single : Path.pieces "" = [""] := rfl
        obtain ⟨rfl, none⟩ := List.cons.inj (single.symm.trans hq)
        exact root (by rw [← none]; rfl)
      rw [if_neg root, base, above, if_neg Bool.false_ne_true, place_eq_route, hq]
      by_cases hf : first = ""
      · subst hf
        have some : Path.dropVoid rest ≠ [] := fun none => root (by rw [none]; rfl)
        rw [List.cons_append, route_slash (by simp), route_slash some]
        conv_lhs => rw [hrest]
        exact followAll_voids_concat [] (Path.dropVoid rest) hvoids
      · rw [List.cons_append, route_cons hf, route_cons hf]
        conv_lhs => rw [hrest]
        exact followAll_voids_concat workingDirectory (first :: Path.dropVoid rest) hvoids

/-- If the parent is a directory, the path leads into it. -/
theorem place_of_base {p q name : String} {init : List String} {r : Place} (hp : Path.pieces p = init ++ [name])
    (hv : Path.isVoid name = false) (hup : name ≠ "..") (parent : Path.parent? p = some q) (hq : d.base q = .ok r)
    (directory : d.nodeAt? r = some .directory) : d.place p = .ok (r ++ [name]) := by
  rw [place_of_parent? hp hv parent, hq]
  exact (follow_of_directory directory name).trans (by simp [hv, hup])

/-! ## Directories that are there or made -/

/-- Where no slash is at the end none is taken off. -/
theorem withoutSlashes_eq {p : String} (hend : p.toList.reverse.head? ≠ some '/') :
    String.ofList (p.toList.reverse.dropWhile (· == '/')).reverse = p := by
  have all : p.toList.reverse.dropWhile (· == '/') = p.toList.reverse := by
    cases hcs : p.toList.reverse with
    | nil => rfl
    | cons c cs =>
      rw [hcs] at hend
      have : c ≠ '/' := by simpa using hend
      simp [this]
  rw [all, List.reverse_reverse, String.ofList_toList]

/-- A directory that is there is not made again. -/
theorem ensureDirectory_of_place {p : String} {q : Place} (hend : p.toList.reverse.head? ≠ some '/')
    (hp : d.place p = .ok q) (hq : d.nodeAt? q = some .directory) : d.ensureDirectory p = (.ok (), d) := by
  have directory : d.isDirectory p = true := by
    simp [isDirectory, node_of_place hp hq, Except.toOption]
  simp [ensureDirectory, makeDirectory, withoutSlashes_eq hend, hp, hq, bind, Except.bind, directory]

/-- A directory is made where nothing is yet. -/
theorem ensureDirectory_of_vacant {p : String} {q : Place} (hend : p.toList.reverse.head? ≠ some '/')
    (hp : d.place p = .ok q) (hq : d.nodeAt? q = none) :
    d.ensureDirectory p = (.ok (), ⟨d.nodes ++ [(q, .directory)], d.files⟩) := by
  simp [ensureDirectory, makeDirectory, withoutSlashes_eq hend, hp, hq, bind, Except.bind]

/-- No directory is made where the path does not lead anywhere. -/
theorem ensureDirectory_of_error {p : String} {e : IoError} (hend : p.toList.reverse.head? ≠ some '/')
    (hp : d.place p = .error e) : d.ensureDirectory p = (.error e, d) := by
  have nowhere : d.isDirectory p = false := by
    simp [isDirectory, node, hp, bind, Except.bind, Except.toOption]
  simp [ensureDirectory, makeDirectory, withoutSlashes_eq hend, hp, bind, Except.bind, nowhere]

theorem ensureDirectory_root : d.ensureDirectory "/" = (.ok (), d) := by
  have root : d.place "/" = .ok [] := rfl
  have directory : d.isDirectory "/" = true := by
    simp [isDirectory, node_of_place root rfl, Except.toOption]
  have nowhere : d.makeDirectory "/" = .error .notFound := rfl
  simp [ensureDirectory, nowhere, directory]

theorem makeDirectories_of_ensureDirectory {p : String} (h : d.ensureDirectory p = (.ok (), d)) :
    d.makeDirectories p = (.ok (), d) := by
  rw [makeDirectories, makeDirectoriesUpTo]
  split
  · rfl
  · simp [h]

/-- The directories above a file that is there are not made again. -/
theorem makeParents_of_leaf {p name : String} {directory : Place} (h : d.Leaf p directory name) :
    d.makeParents p = (.ok (), d) := by
  obtain ⟨init, last, hp⟩ := concat_pieces p
  obtain rfl : last = name := by simpa [hp] using h.getLast
  obtain ⟨q, parent, -⟩ := Path.parent?_cases hp h.isVoid
  have leads := h.place
  rw [place_of_parent? hp h.isVoid parent] at leads
  obtain ⟨r, hq, follows⟩ := exists_of_bind_eq_ok leads
  rw [makeParents, parent]
  rcases Path.parent?_tidy hp h.isVoid parent with rfl | rfl | tidy
  · rfl
  · exact makeDirectories_of_ensureDirectory ensureDirectory_root
  · by_cases empty : q = ""
    · subst empty
      rfl
    · rw [base, if_neg (by simpa using empty)] at hq
      have made := makeDirectories_of_ensureDirectory (ensureDirectory_of_place tidy hq (follow_ok follows).1)
      split
      · rfl
      · rfl
      · rename_i same
        rw [← Option.some.inj same]
        exact made

end Disk

end Blotter
