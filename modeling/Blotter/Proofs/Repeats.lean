import Mathlib

/-!
# Elements that share a key

Of the elements of a list that share a key, either the first or the last may be kept.

- `List.eraseDupsBy` keeps the first one, so one more element at the end is kept if its key is new
  (`eraseDupsBy_concat`).
- `List.pwFilter` keeps the last one, so one more element at the end takes the place of the one with its key
  (`pwFilter_concat`, `mem_pwFilter`).
- Elements that are chosen by something that their key determines may be chosen before or after that
  (`filter_eraseDupsBy`, `filter_pwFilter`).
- Elements with distinct numbers have one order only (`mergeSort_eq_of_perm`).
- Keys that tell the same elements apart are as many (`length_dedup_map`).
-/

namespace Blotter

variable {α κ : Type} [DecidableEq κ] {key : α → κ} {l : List α} {p : α → Bool}

theorem any_filter_ne {x a : α} (h : key a ≠ key x) (l : List α) :
    (l.filter fun b => decide ((key b == key x) = false)).any (key · == key a) = l.any (key · == key a) := by
  rw [List.any_filter]
  refine congrArg (List.any l) (funext fun b => ?_)
  by_cases same : key b = key a
  · simp [same, h]
  · simp [same]

/-- The first elements of their keys, with one more element at the end. -/
theorem eraseDupsBy_concat (key : α → κ) (l : List α) (a : α) :
    (l ++ [a]).eraseDupsBy (fun x y => key x == key y) =
      if l.any (key · == key a) then l.eraseDupsBy fun x y => key x == key y
      else l.eraseDupsBy (fun x y => key x == key y) ++ [a] := by
  induction length : l.length using Nat.strong_induction_on generalizing l with
  | _ n ih =>
    cases l with
    | nil => rfl
    | cons x l =>
      rw [List.cons_append, List.eraseDupsBy_cons, List.eraseDupsBy_cons, List.filter_append, List.any_cons]
      by_cases same : key a = key x
      · rw [List.filter_cons_of_neg (by simp [same]), List.filter_nil, List.append_nil, same, beq_self_eq_true,
          Bool.true_or, if_pos rfl]
      · have shorter : (l.filter fun b => decide ((key b == key x) = false)).length < n := by
          rw [← length, List.length_cons]
          exact Nat.lt_succ_of_le (List.length_filter_le _ _)
        have other : (key x == key a) = false := beq_false_of_ne (Ne.symm same)
        rw [List.filter_cons_of_pos (by simp [same]), List.filter_nil, ih _ shorter _ rfl, any_filter_ne same, other,
          Bool.false_or]
        split
        · rfl
        · rfl

/-- Which keys there are does not change. -/
theorem any_eraseDupsBy (key : α → κ) (l : List α) (k : κ) :
    (l.eraseDupsBy fun x y => key x == key y).any (key · == k) = l.any (key · == k) := by
  induction l using List.reverseRecOn with
  | nil => rfl
  | append_singleton l a ih =>
    rw [eraseDupsBy_concat, List.any_append]
    split
    · rename_i known
      rw [ih, List.any_cons, List.any_nil, Bool.or_false]
      by_cases same : key a = k
      · rw [← same, known, Bool.true_or]
      · rw [beq_false_of_ne same, Bool.or_false]
    · rw [List.any_append, ih]

/-- Elements may be chosen by their keys before the first ones are kept, or after that. -/
theorem filter_eraseDupsBy (chosen : ∀ x ∈ l, ∀ y ∈ l, key x = key y → p x = p y) :
    (l.eraseDupsBy fun x y => key x == key y).filter p = (l.filter p).eraseDupsBy fun x y => key x == key y := by
  induction l using List.reverseRecOn with
  | nil => rfl
  | append_singleton l a ih =>
    have before := ih fun x hx y hy => chosen x (List.mem_append_left _ hx) y (List.mem_append_left _ hy)
    have known : p a = true → (l.filter p).any (key · == key a) = l.any (key · == key a) := by
      intro ha
      rw [List.any_filter, List.any_eq, List.any_eq]
      refine decide_eq_decide.mpr (exists_congr fun x => and_congr_right fun hx => ?_)
      rw [Bool.and_eq_true, beq_iff_eq]
      refine and_iff_right_of_imp fun same => ?_
      rw [chosen x (List.mem_append_left _ hx) a (by simp) same, ha]
    rw [eraseDupsBy_concat, List.filter_append]
    cases ha : p a with
    | true =>
      rw [List.filter_cons_of_pos ha, List.filter_nil, eraseDupsBy_concat, known ha]
      split
      · exact before
      · rw [List.filter_append, before, List.filter_cons_of_pos ha, List.filter_nil]
    | false =>
      rw [List.filter_cons_of_neg (by simp [ha]), List.filter_nil, List.append_nil]
      split
      · exact before
      · rw [List.filter_append, before, List.filter_cons_of_neg (by simp [ha]), List.filter_nil, List.append_nil]

/-- The last elements of their keys, with one more element at the end. -/
theorem pwFilter_concat (key : α → κ) (l : List α) (a : α) :
    (l ++ [a]).pwFilter (fun x y => key x ≠ key y) =
      (l.pwFilter fun x y => key x ≠ key y).filter (fun x => key x != key a) ++ [a] := by
  induction l with
  | nil => rfl
  | cons x l ih =>
    rw [List.cons_append]
    by_cases later : ∀ y ∈ l.pwFilter fun x y => key x ≠ key y, key x ≠ key y
    · rw [List.pwFilter_cons_of_pos later]
      by_cases same : key x = key a
      · rw [List.pwFilter_cons_of_neg, ih, List.filter_cons_of_neg (by simp [same])]
        rw [ih]
        exact fun apart => apart a (by simp) same
      · rw [List.pwFilter_cons_of_pos, ih, List.filter_cons_of_pos (by simp [same]), List.cons_append]
        rw [ih]
        intro y hy
        rcases List.mem_append.mp hy with hy | hy
        · exact later y (List.mem_filter.mp hy).1
        · rw [List.mem_singleton.mp hy]
          exact same
    · rw [List.pwFilter_cons_of_neg later, List.pwFilter_cons_of_neg, ih]
      rw [ih]
      intro apart
      refine later fun y hy same => ?_
      -- an element with the key of `x` is still there unless the new one has taken its place
      by_cases last : key y = key a
      · exact apart a (by simp) (same.trans last)
      · exact apart y (List.mem_append_left _ (List.mem_filter.mpr ⟨hy, by simpa using last⟩)) same

theorem getLast?_filter_concat (p : α → Bool) (l : List α) (a : α) :
    ((l ++ [a]).filter p).getLast? = if p a then some a else (l.filter p).getLast? := by
  rw [List.filter_append]
  cases ha : p a with
  | true => rw [List.filter_cons_of_pos ha, List.filter_nil, List.getLast?_concat, if_pos rfl]
  | false => rw [List.filter_cons_of_neg (by simp [ha]), List.filter_nil, List.append_nil, if_neg (by simp)]

/-- An element is kept if it is the last one with its key. -/
theorem mem_pwFilter (key : α → κ) (l : List α) (x : α) :
    x ∈ l.pwFilter (fun x y => key x ≠ key y) ↔ (l.filter (key · == key x)).getLast? = some x := by
  induction l using List.reverseRecOn with
  | nil => simp
  | append_singleton l a ih =>
    rw [pwFilter_concat, getLast?_filter_concat, List.mem_append, List.mem_filter, List.mem_singleton, ih, bne_iff_ne]
    by_cases same : key a = key x
    · rw [if_pos (beq_iff_eq.mpr same), Option.some.injEq]
      constructor
      · rintro (⟨-, other⟩ | rfl)
        · exact absurd same.symm other
        · rfl
      · exact fun last => .inr last.symm
    · rw [if_neg (by simpa using same)]
      constructor
      · rintro (⟨last, -⟩ | rfl)
        · exact last
        · exact absurd rfl same
      · exact fun last => .inl ⟨last, Ne.symm same⟩

/-- Elements may be chosen by their keys before the last ones are kept, or after that. -/
theorem filter_pwFilter (chosen : ∀ x ∈ l, ∀ y ∈ l, key x = key y → p x = p y) :
    (l.pwFilter fun x y => key x ≠ key y).filter p = (l.filter p).pwFilter fun x y => key x ≠ key y := by
  induction l using List.reverseRecOn with
  | nil => rfl
  | append_singleton l a ih =>
    have before := ih fun x hx y hy => chosen x (List.mem_append_left _ hx) y (List.mem_append_left _ hy)
    rw [pwFilter_concat, List.filter_append, List.filter_append, List.filter_comm, before]
    cases ha : p a with
    | true => rw [List.filter_cons_of_pos ha, List.filter_nil, pwFilter_concat]
    | false =>
      rw [List.filter_cons_of_neg (by simp [ha]), List.filter_nil, List.append_nil, List.append_nil, ← before,
        List.filter_eq_self]
      intro x hx
      obtain ⟨hx, chosen'⟩ := List.mem_filter.mp hx
      rw [bne_iff_ne]
      intro same
      have := chosen x (List.mem_append_left _ (List.pwFilter_subset _ hx)) a (by simp) same
      rw [chosen', ha] at this
      cases this

/-- Elements in the order of their numbers, none of which is there twice, are what sorting makes of them. -/
theorem mergeSort_eq_of_perm {ι : Type} [LinearOrder ι] {number : α → ι} {l l' : List α} (perm : l.Perm l')
    (increasing : l'.Pairwise fun x y => number x < number y) :
    (l.mergeSort fun x y => decide (number x ≤ number y)) = l' := by
  have sorted : (l.mergeSort fun x y => decide (number x ≤ number y)).Pairwise fun x y => number x ≤ number y := by
    have sorted := @List.pairwise_mergeSort α (fun x y => decide (number x ≤ number y))
      (fun a b c hab hbc => decide_eq_true ((of_decide_eq_true hab).trans (of_decide_eq_true hbc)))
      (fun a b => by simpa using le_total (number a) (number b)) l
    exact sorted.imp fun h => of_decide_eq_true h
  have numbers := List.pairwise_map.mpr (increasing.imp fun h => h.ne)
  have same := (List.mergeSort_perm l fun x y => decide (number x ≤ number y)).trans perm
  refine same.eq_of_pairwise (fun a b ha hb hab hba => ?_) sorted (increasing.imp fun h => h.le)
  exact List.inj_on_of_nodup_map numbers (same.mem_iff.mp ha) hb (le_antisymm hab hba)

/-- Two ways to tell apart the elements of a list that agree give as many kinds of elements. -/
theorem length_dedup_map {β γ : Type} [DecidableEq β] [DecidableEq γ] {f : α → β} {g : α → γ} :
    ∀ {l : List α}, (∀ x ∈ l, ∀ y ∈ l, f x = f y ↔ g x = g y) → (l.map f).dedup.length = (l.map g).dedup.length
  | [], _ => rfl
  | a :: l, agree => by
    have rest := length_dedup_map fun x hx y hy => agree x (List.mem_cons_of_mem a hx) y (List.mem_cons_of_mem a hy)
    have known : f a ∈ l.map f ↔ g a ∈ l.map g := by
      rw [List.mem_map, List.mem_map]
      refine exists_congr fun x => and_congr_right fun hx => ?_
      exact agree x (List.mem_cons_of_mem a hx) a List.mem_cons_self
    rw [List.map_cons, List.map_cons]
    by_cases old : f a ∈ l.map f
    · rw [List.dedup_cons_of_mem old, List.dedup_cons_of_mem (known.mp old), rest]
    · rw [List.dedup_cons_of_notMem old, List.dedup_cons_of_notMem (mt known.mpr old), List.length_cons,
        List.length_cons, rest]

end Blotter
