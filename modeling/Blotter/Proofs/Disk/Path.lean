import Mathlib
import Blotter.Proofs.Disk.Tree

/-!
# Where paths lead

- A path that leads to a file ends in the name of the file, and the path of its backup leads into the same directory
  (`leaf_of_file`).
- A file that is there is opened as it is (`openAppend_of_file`), and where none is a new one is made
  (`openAppend_of_none`).
-/

namespace Blotter

namespace Path

/-! ## Pieces -/

theorem pieces_ne_nil (p : String) : pieces p ≠ [] := by
  simp [pieces]

theorem slash_notMem_of_mem_pieces {p piece : String} (h : piece ∈ pieces p) : '/' ∉ piece.toList := by
  have split (cs : List Char) : ∀ w ∈ cs.splitOnP (· == '/'), '/' ∉ w := by
    induction cs with
    | nil => simp
    | cons c cs ih =>
      rw [List.splitOnP_cons_eq_if_modifyHead]
      split
      · simpa using ih
      · rename_i hc
        rcases List.exists_cons_of_ne_nil (List.splitOnP_ne_nil (· == '/') cs) with ⟨w, ws, hws⟩
        rw [hws] at ih ⊢
        rw [List.modifyHead_cons]
        intro v hv
        rcases List.mem_cons.mp hv with rfl | hv
        · have := ih w (by simp)
          rw [List.mem_cons, not_or]
          exact ⟨fun e => hc (by simp [← e]), this⟩
        · exact ih v (by simp [hv])
  obtain ⟨w, hw, rfl⟩ := List.mem_map.mp h
  rw [String.toList_ofList]
  exact split p.toList w hw

/-- The pieces of pieces joined by slashes are the pieces. -/
theorem pieces_intercalate {ps : List String} (h : ∀ piece ∈ ps, '/' ∉ piece.toList) (hne : ps ≠ []) :
    pieces ("/".intercalate ps) = ps := by
  rw [pieces, String.toList_intercalate, ← List.splitOn_eq_splitOnP]
  have slash : "/".toList = ['/'] := rfl
  rw [slash, List.splitOn_intercalate '/' (by simpa using h) (by simpa using hne), List.map_map]
  have : String.ofList ∘ String.toList = id := by
    funext s
    simp
  rw [this, List.map_id]

theorem exists_concat_splitOnP (cs : List Char) :
    ∃ init last, cs.splitOnP (· == '/') = init ++ [last] := by
  rcases List.eq_nil_or_concat (cs.splitOnP (· == '/')) with e | ⟨init, last, e⟩
  · exact absurd e (List.splitOnP_ne_nil _ _)
  · exact ⟨init, last, by rw [e, List.concat_eq_append]⟩

/-- What has no slash in it goes to the last part. -/
theorem splitOnP_append {t : List Char} (ht : '/' ∉ t) (cs : List Char) :
    ∀ (init : List (List Char)) (last : List Char), cs.splitOnP (· == '/') = init ++ [last] →
      (cs ++ t).splitOnP (· == '/') = init ++ [last ++ t] := by
  induction cs with
  | nil =>
    intro init last e
    rw [List.splitOnP_nil] at e
    obtain ⟨rfl, rfl⟩ : init = [] ∧ last = [] := by
      rcases init with _ | ⟨w, ws⟩
      · simpa using e.symm
      · simp at e
    simpa using List.splitOnP_eq_singleton (p := (· == '/')) (fun c hc => by
      rw [beq_eq_false_iff_ne]
      rintro rfl
      exact ht hc)
  | cons c cs ih =>
    intro init last e
    obtain ⟨init', last', e'⟩ := exists_concat_splitOnP cs
    have longer := ih init' last' e'
    rw [List.splitOnP_cons_eq_if_modifyHead, e'] at e
    rw [List.cons_append, List.splitOnP_cons_eq_if_modifyHead, longer]
    split at e
    · rename_i hc
      rw [if_pos hc]
      rw [← List.cons_append] at e ⊢
      obtain ⟨rfl, rfl⟩ := List.append_inj' e rfl |>.imp_right (by simpa using ·)
      rfl
    · rename_i hc
      rw [if_neg hc]
      cases init' with
      | nil =>
        simp only [List.nil_append, List.modifyHead_cons] at e ⊢
        obtain ⟨rfl, rfl⟩ : init = [] ∧ last = c :: last' := by
          rcases init with _ | ⟨w, ws⟩
          · simpa using e.symm
          · simp at e
        rfl
      | cons w ws =>
        simp only [List.cons_append, List.modifyHead_cons] at e ⊢
        rw [← List.cons_append] at e ⊢
        obtain ⟨rfl, rfl⟩ := List.append_inj' e rfl |>.imp_right (by simpa using ·)
        rfl

/-- What is put behind a path goes to its last piece. -/
theorem pieces_append {p s last : String} {init : List String} (h : pieces p = init ++ [last]) (hs : '/' ∉ s.toList) :
    pieces (p ++ s) = init ++ [last ++ s] := by
  obtain ⟨init', last', e⟩ := exists_concat_splitOnP p.toList
  have longer := splitOnP_append hs p.toList init' last' e
  rw [pieces, e, List.map_append, List.map_singleton] at h
  obtain ⟨rfl, hlast⟩ := List.append_inj' h rfl
  rw [pieces, String.toList_append, longer, List.map_append, List.map_singleton, ← List.singleton_inj.mp hlast]
  simp [String.ofList_append]

/-- The pieces behind the last one that names something are void. -/
theorem dropVoid_append (ps : List String) :
    ∃ voids, ps = dropVoid ps ++ voids ∧ ∀ piece ∈ voids, isVoid piece = true := by
  refine ⟨(ps.reverse.takeWhile isVoid).reverse, ?_, ?_⟩
  · rw [dropVoid, ← List.reverse_append, List.takeWhile_append_dropWhile, List.reverse_reverse]
  · intro piece h
    exact List.mem_takeWhile_imp (List.mem_reverse.mp h)

theorem ne_empty_of_isVoid {piece : String} (h : isVoid piece = false) : piece ≠ "" := by
  rintro rfl
  cases h

theorem dropVoid_concat {init : List String} {last : String} (h : isVoid last = false) :
    dropVoid (init ++ [last]) = init ++ [last] := by
  simp [dropVoid, h]

theorem isVoid_of_getLast?_dropVoid {ps : List String} {piece : String} (h : (dropVoid ps).getLast? = some piece) :
    isVoid piece = false := by
  rw [dropVoid, List.getLast?_reverse] at h
  have := List.head?_dropWhile_not isVoid ps.reverse
  rwa [h] at this

/-- A path whose last piece is not empty does not end in a slash. -/
theorem head?_reverse_ne_slash {p : String} (h : (pieces p).getLast? ≠ some "") :
    p.toList.reverse.head? ≠ some '/' := by
  intro e
  rw [List.head?_reverse] at e
  obtain ⟨front, hcs⟩ := List.getLast?_eq_some_iff.mp e
  apply h
  rw [pieces, hcs, List.splitOnP_append_cons front [] (by simp)]
  simp

/-- Whether the last piece of a path is a name: it names something and does not go back up. -/
def EndsInName (p : String) : Prop := ∃ init name, pieces p = init ++ [name] ∧ isVoid name = false ∧ name ≠ ".."

/-- The name of a backup is no name that does not end like one. -/
theorem name_backup_ne {name s : String} (h : ¬".bak".toList <:+ s.toList) : name ++ ".bak" ≠ s := by
  rintro rfl
  exact h (by rw [String.toList_append]; exact List.suffix_append _ _)

/-- The path of a backup ends in the name of the file with an addition. -/
theorem pieces_backup {p name : String} {init : List String} (h : pieces p = init ++ [name]) :
    pieces (backup p) = init ++ [name ++ ".bak"] := pieces_append h (by decide)

/-- The name of a backup is a name. -/
theorem isName_backup (name : String) : isVoid (name ++ ".bak") = false ∧ name ++ ".bak" ≠ ".." := by
  have named : name ++ ".bak" ≠ "" := name_backup_ne (by decide)
  have dot : name ++ ".bak" ≠ "." := name_backup_ne (by decide)
  exact ⟨by simp [isVoid, named, dot], name_backup_ne (by decide)⟩

end Path

namespace Disk

variable {d : Disk}

/-! ## The last piece -/

/-- The start of a path and the pieces that lead on from there. -/
def route : List String → Option (Place × List String)
  | [] | [""] => none
  | "" :: rest => some ([], rest)
  | ps => some (workingDirectory, ps)

theorem place_eq_route (d : Disk) (p : String) :
    d.place p = match route (Path.pieces p) with
      | none => .error .notFound
      | some (start, ps) => d.followAll start ps := by
  rw [place]
  split
  · rename_i h
    simp [route, h]
  · rename_i h
    simp [route, h]
  · rename_i rest hne h
    obtain ⟨x, xs, rfl⟩ := List.exists_cons_of_ne_nil hne
    simp [route, h]
  · rename_i h₁ h₂ h₃
    have : route (Path.pieces p) = some (workingDirectory, Path.pieces p) := by
      rw [route.eq_def]
      split
      · rename_i h
        exact absurd h h₁
      · rename_i h
        exact absurd h h₂
      · rename_i h
        exact absurd h (h₃ _)
      · rfl
    rw [this]

theorem route_cons {first : String} (h : first ≠ "") (rest : List String) :
    route (first :: rest) = some (workingDirectory, first :: rest) := by
  rw [route.eq_def]
  split
  · rename_i e
    exact absurd e (by simp)
  · rename_i e
    exact absurd (List.cons.inj e).1 h
  · rename_i e
    exact absurd (List.cons.inj e).1 h
  · rfl

theorem route_slash {rest : List String} (h : rest ≠ []) : route ("" :: rest) = some ([], rest) := by
  obtain ⟨x, xs, rfl⟩ := List.exists_cons_of_ne_nil h
  rfl

/-- Where the last piece of a path is taken does not depend on the piece. -/
theorem route_concat (init : List String) : ∃ start init', ∀ last, init ≠ [] ∨ last ≠ "" →
    route (init ++ [last]) = some (start, init' ++ [last]) := by
  cases init with
  | nil => exact ⟨workingDirectory, [], fun last h => route_cons (by simpa using h) []⟩
  | cons first rest =>
    by_cases hf : first = ""
    · subst hf
      exact ⟨[], rest, fun last _ => route_slash (by simp)⟩
    · exact ⟨workingDirectory, first :: rest, fun last _ => route_cons hf _⟩

theorem followAll_concat (start : Place) (init : List String) (last : String) :
    d.followAll start (init ++ [last]) = d.followAll start init >>= fun q => d.follow q last := by
  rw [followAll, followAll, List.foldlM_append]
  simp

theorem concat_pieces (p : String) : ∃ init last, Path.pieces p = init ++ [last] := by
  rcases List.eq_nil_or_concat (Path.pieces p) with e | ⟨init, last, e⟩
  · exact absurd e (Path.pieces_ne_nil p)
  · exact ⟨init, last, by rw [e, List.concat_eq_append]⟩

theorem place_concat {p last : String} {init : List String} {target : Place} (hp : Path.pieces p = init ++ [last])
    (h : d.place p = .ok target) : init ≠ [] ∨ last ≠ "" := by
  by_contra hne
  simp only [not_or, not_not] at hne
  rw [place_eq_route, hp, hne.1, hne.2] at h
  exact absurd h (by simp [route])

/-- A path that leads somewhere leads into a directory first, and takes its last piece there. -/
theorem place_ok {p last : String} {init : List String} {target : Place} (hp : Path.pieces p = init ++ [last])
    (h : d.place p = .ok target) : ∃ q start init', d.nodeAt? q = some .directory ∧ d.follow q last = .ok target ∧
      d.followAll start init' = .ok q ∧
      ∀ last', init ≠ [] ∨ last' ≠ "" → route (init ++ [last']) = some (start, init' ++ [last']) := by
  obtain ⟨start, init', hroute⟩ := route_concat init
  have named := place_concat hp h
  rw [place_eq_route, hp, hroute last named] at h
  simp only [followAll_concat] at h
  cases hq : d.followAll start init' with
  | error e =>
    rw [hq] at h
    exact absurd h (by simp [bind, Except.bind])
  | ok q =>
    rw [hq] at h
    exact ⟨q, start, init', (follow_ok h).1, h, hq, hroute⟩

/-- What stands where a path leads to a file: the directory, and the name that the file has there. -/
structure Leaf (d : Disk) (p : String) (directory : Place) (name : String) : Prop where
  isDirectory : d.nodeAt? directory = some .directory
  place : d.place p = .ok (directory ++ [name])
  placeOfBackup : d.place (Path.backup p) = .ok (directory ++ [name ++ ".bak"])
  getLast : (Path.pieces p).getLast? = some name
  isVoid : Path.isVoid name = false

/-- A path that leads somewhere and ends in a name leads into a directory, and so does the path of the backup. -/
theorem leaf_of_place {p name : String} {init : List String} {target : Place} (hp : Path.pieces p = init ++ [name])
    (hv : Path.isVoid name = false) (hup : name ≠ "..") (h : d.place p = .ok target) :
    ∃ directory, d.Leaf p directory name ∧ target = directory ++ [name] := by
  obtain ⟨q, start, init', hq, hfollow, hinit, hroute⟩ := place_ok hp h
  obtain ⟨-, rfl⟩ := follow_ok hfollow
  rw [if_neg (by simp [hv]), if_neg (by simpa using hup)] at h ⊢
  obtain ⟨named, up⟩ := Path.isName_backup name
  refine ⟨q, ⟨hq, h, ?_, by simp [hp], hv⟩, rfl⟩
  rw [place_eq_route, Path.pieces_backup hp, hroute _ (.inr (Path.ne_empty_of_isVoid named))]
  simp only [followAll_concat, hinit, bind, Except.bind, follow_of_directory hq]
  rw [if_neg (by simp [named]), if_neg (by simpa using up)]

/-- A path that leads to a file ends in a name, since anything else would lead to a directory. -/
theorem endsInName_of_file (h : d.WellFormed) {p : String} {target : Place} {id : Nat} (hp : d.place p = .ok target)
    (hn : d.nodeAt? target = some (.file id)) : Path.EndsInName p := by
  obtain ⟨init, name, hpieces⟩ := concat_pieces p
  obtain ⟨q, -, -, hq, hfollow, -, -⟩ := place_ok hpieces hp
  obtain ⟨-, rfl⟩ := follow_ok hfollow
  refine ⟨init, name, hpieces, Bool.eq_false_iff.mpr fun hvoid => ?_, fun hup => ?_⟩
  · rw [if_pos hvoid, hq] at hn
    exact absurd hn (by simp)
  · subst hup
    rw [if_neg (by decide), if_pos (by decide), h.parent_of_node hq] at hn
    exact absurd hn (by simp)

theorem place_of_node {p : String} {n : Node} (h : d.node p = .ok n) :
    ∃ target, d.place p = .ok target ∧ d.nodeAt? target = some n := by
  rw [node] at h
  cases hplace : d.place p with
  | error e =>
    rw [hplace] at h
    exact absurd h (by simp [bind, Except.bind])
  | ok target =>
    rw [hplace] at h
    refine ⟨target, rfl, ?_⟩
    cases hnode : d.nodeAt? target with
    | none => simp [bind, Except.bind, hnode] at h
    | some n => simpa [bind, Except.bind, hnode] using h

/-- A path that leads to a file ends in its name, and the path of the backup leads into the same directory. -/
theorem leaf_of_file (h : d.WellFormed) {p : String} {id : Nat} (hn : d.node p = .ok (.file id)) :
    ∃ directory name, d.Leaf p directory name ∧ d.nodeAt? (directory ++ [name]) = some (.file id) := by
  obtain ⟨target, hplace, hnode⟩ := place_of_node hn
  obtain ⟨init, name, hp, hv, hup⟩ := endsInName_of_file h hplace hnode
  obtain ⟨directory, leaf, rfl⟩ := leaf_of_place hp hv hup hplace
  exact ⟨directory, name, leaf, hnode⟩

/-! ## Opening -/

/-- What is at the end of a path is what its place holds. -/
theorem node_of_place {p : String} {place : Place} {n : Node} (hp : d.place p = .ok place)
    (hn : d.nodeAt? place = some n) : d.node p = .ok n := by
  simp [node, hp, hn, bind, Except.bind]

theorem not_slash_of_leaf {p name : String} {directory : Place} (h : d.Leaf p directory name) :
    (1 < (Path.pieces p).length && (Path.pieces p).getLast? == some "") = false := by
  simp [h.getLast, Path.ne_empty_of_isVoid h.isVoid]

/-- A file that is there is opened as it is. -/
theorem openAppend_of_file {p name : String} {directory : Place} {id : Nat} (h : d.Leaf p directory name)
    (hn : d.nodeAt? (directory ++ [name]) = some (.file id)) : d.openAppend p = .ok (.file id, d) := by
  simp [openAppend, not_slash_of_leaf h, h.place, hn, bind, Except.bind]

/-- Where a file is missing a new one is made. -/
theorem openAppend_of_none {p name : String} {directory : Place} (h : d.Leaf p directory name)
    (hn : d.nodeAt? (directory ++ [name]) = none) :
    d.openAppend p =
      .ok (.file d.files.length, (d.addFile (directory ++ [name]) ⟨.bytes [], false⟩).2) := by
  simp [openAppend, not_slash_of_leaf h, h.place, hn, bind, Except.bind, addFile]

/-- A leaf stays one as long as no directory is lost. -/
theorem Leaf.mono {e : Disk} {p name : String} {directory : Place} (h : d.Leaf p directory name)
    (hd : d.KeepsDirectories e) : e.Leaf p directory name where
  isDirectory := hd _ h.isDirectory
  place := place_mono hd h.place
  placeOfBackup := place_mono hd h.placeOfBackup
  getLast := h.getLast
  isVoid := h.isVoid

theorem Leaf.place_ne_placeOfBackup {p name : String} {directory : Place} (_ : d.Leaf p directory name) :
    directory ++ [name] ≠ directory ++ [name ++ ".bak"] := by
  intro e
  have := List.singleton_inj.mp (List.append_cancel_left e)
  have := congrArg String.length this
  simp at this

/-- The place of a backup is none of those that are there on every disk. -/
theorem Leaf.not_isFixed_backup {p name : String} {directory : Place} (_ : d.Leaf p directory name) :
    ¬IsFixed (directory ++ [name ++ ".bak"]) := by
  have last {place : Place} {s : String} (e : directory ++ [name ++ ".bak"] = place) (hs : place.getLast? = some s) :
      name ++ ".bak" = s := by
    rw [← e] at hs
    simpa using hs
  rintro (e | e | e | e | e)
  · simp at e
  · exact Path.name_backup_ne (by decide) (last e rfl)
  · exact Path.name_backup_ne (by decide) (last e rfl)
  · exact Path.name_backup_ne (by decide) (last e rfl)
  · exact Path.name_backup_ne (by decide) (last e rfl)

end Disk

end Blotter
