import Mathlib
import Blotter.Json.Document

/-!
# Members under their names

Where no name occurs twice (`namesAreDistinct_iff`), a member is looked up whatever the order of the members is
(`lookup_eq_some_iff`, `lookup_perm`).
-/

namespace Blotter.Json

theorem namesAreDistinct_iff {ms : List (String × Json)} : namesAreDistinct ms = true ↔ (ms.map Prod.fst).Nodup := by
  induction ms with
  | nil => simp [namesAreDistinct]
  | cons m ms ih =>
    have absent : (!(ms.any (·.1 == m.1))) = true ↔ m.1 ∉ ms.map Prod.fst := by
      simp only [Bool.not_eq_true', List.any_eq_false, beq_iff_eq, List.mem_map, not_exists, not_and]
    rw [namesAreDistinct, Bool.and_eq_true, absent, ih, List.map_cons, List.nodup_cons]

section

variable {α : Type} {ms ms' : List (String × α)} {name : String}

/-- Where no name occurs twice, the member is there that is looked up. -/
theorem lookup_eq_some_iff (h : (ms.map Prod.fst).Nodup) {v : α} : ms.lookup name = some v ↔ (name, v) ∈ ms := by
  rw [List.lookup_eq_some_iff]
  constructor
  · rintro ⟨before, after, rfl, -⟩
    simp
  · intro hm
    obtain ⟨before, after, rfl⟩ := List.append_of_mem hm
    refine ⟨before, after, rfl, ?_⟩
    intro m hb
    rw [List.map_append, List.map_cons] at h
    have apart := (List.disjoint_of_nodup_append h) (List.mem_map_of_mem hb)
    simp only [bne_iff_ne]
    rintro rfl
    exact apart (by simp)

/-- So the order of the members does not matter. -/
theorem lookup_perm (h : (ms.map Prod.fst).Nodup) (hp : ms.Perm ms') : ms'.lookup name = ms.lookup name := by
  apply Option.ext
  intro v
  rw [lookup_eq_some_iff h, lookup_eq_some_iff ((hp.map _).nodup_iff.mp h), hp.mem_iff]

end

/-! ## Known members -/

variable {names : List String} {v : Json} {ms : List (String × Json)}

theorem objectMembers?_eq_some_iff : objectMembers? names v = some ms ↔
    ∃ all, v = .object all ∧ all.filter (fun m => names.contains m.1) = ms ∧ (ms.map Prod.fst).Nodup := by
  cases v with
  | object all =>
    rw [objectMembers?, ← namesAreDistinct_iff]
    constructor
    · intro h
      split at h
      · rename_i distinct
        obtain rfl := Option.some.inj h
        exact ⟨all, rfl, rfl, distinct⟩
      · cases h
    · rintro ⟨_, ⟨⟩, rfl, distinct⟩
      exact if_pos distinct
  | _ => simp [objectMembers?]

/-- A known member is looked up as it is among all members. -/
theorem lookup_objectMembers? {all : List (String × Json)} (h : objectMembers? names (.object all) = some ms)
    {name : String} (known : name ∈ names) {x : Json} : ms.lookup name = some x ↔ (name, x) ∈ all := by
  obtain ⟨_, ⟨⟩, rfl, distinct⟩ := objectMembers?_eq_some_iff.mp h
  rw [lookup_eq_some_iff distinct, List.mem_filter, List.contains_iff_mem]
  exact and_iff_left known

end Blotter.Json
