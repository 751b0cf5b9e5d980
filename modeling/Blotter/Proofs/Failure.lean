import Mathlib
import Blotter.Failure

/-!
# Computations that come to an end

What a computation with steps that may fail has done if it did not fail. A computation over a list does one step for
each element (`foldlM_concat`), and a condition may be asked of all of its steps (`HoldsAlong`).
-/

namespace Blotter

variable {ε α β : Type}

/-- A computation that comes to an end has done its first step. -/
theorem exists_of_bind_eq_ok {x : Except ε α} {f : α → Except ε β} {b : β} (h : x >>= f = .ok b) :
    ∃ a, x = .ok a ∧ f a = .ok b := by
  cases x with
  | error e => exact absurd h (by simp [bind, Except.bind])
  | ok a => exact ⟨a, rfl, h⟩

theorem exists_of_isOk {x : Except ε α} (h : x.isOk = true) : ∃ a, x = .ok a := by
  cases x with
  | error e => cases h
  | ok a => exact ⟨a, rfl⟩

/-- Readings that all succeed. -/
theorem mapM_eq_ok {f : α → Except ε β} {g : α → β} {l : List α} (h : ∀ a ∈ l, f a = .ok (g a)) :
    l.mapM f = .ok (l.map g) := by
  induction l with
  | nil => rfl
  | cons a l ih =>
    rw [List.mapM_cons, h a (by simp), ih fun b hb => h b (by simp [hb])]
    rfl

/-- Readings that all succeed give what is read one by one. -/
theorem exists_mapM_eq_ok {f : α → Except ε β} {l : List α} (h : ∀ a ∈ l, ∃ b, f a = .ok b) :
    ∃ bs, l.mapM f = .ok bs ∧ ∀ b, b ∈ bs ↔ ∃ a ∈ l, f a = .ok b := by
  induction l with
  | nil => exact ⟨[], rfl, by simp⟩
  | cons a l ih =>
    obtain ⟨b, first⟩ := h a List.mem_cons_self
    obtain ⟨bs, later, mem⟩ := ih fun c hc => h c (List.mem_cons_of_mem a hc)
    refine ⟨b :: bs, by rw [List.mapM_cons, first, later]; rfl, fun x => ?_⟩
    rw [List.mem_cons, mem, List.exists_mem_cons_iff, first, Except.ok.injEq, eq_comm]

/-! ## Computations over lists -/

section Steps

variable {σ : Type} {step : σ → α → Except ε σ} {holds : σ → α → Prop} {s s' : σ} {as : List α} {a : α}

/-- The last step of a computation over a list. -/
theorem foldlM_concat (step : σ → α → Except ε σ) (s : σ) (as : List α) (a : α) :
    (as ++ [a]).foldlM step s = as.foldlM step s >>= fun t => step t a := by
  rw [List.foldlM_append]
  congr 1
  funext t
  rw [List.foldlM_cons]
  exact bind_pure _

theorem foldlM_concat_ok (h : (as ++ [a]).foldlM step s = .ok s') :
    ∃ t, as.foldlM step s = .ok t ∧ step t a = .ok s' := by
  rw [foldlM_concat] at h
  exact exists_of_bind_eq_ok h

/-- Whether a condition holds at every step of a computation over a list, as far as the computation comes. -/
def HoldsAlong (step : σ → α → Except ε σ) (holds : σ → α → Prop) : σ → List α → Prop
  | _, [] => True
  | s, a :: as => holds s a ∧ ∀ t ∈ (step s a).toOption, HoldsAlong step holds t as

instance decidableHoldsAlong [(s : σ) → (a : α) → Decidable (holds s a)] :
    (s : σ) → (as : List α) → Decidable (HoldsAlong step holds s as)
  | _, [] => .isTrue trivial
  | s, a :: as =>
    have (t : σ) : Decidable (HoldsAlong step holds t as) := decidableHoldsAlong t as
    inferInstanceAs (Decidable (holds s a ∧ ∀ t ∈ (step s a).toOption, HoldsAlong step holds t as))

/-- A condition that holds at every step holds at the last one. -/
theorem HoldsAlong.of_concat (h : HoldsAlong step holds s (as ++ [a])) :
    HoldsAlong step holds s as ∧ ∀ t, as.foldlM step s = .ok t → holds t a := by
  induction as generalizing s with
  | nil => exact ⟨trivial, fun t ended => Except.ok.inj ended ▸ h.1⟩
  | cons b as ih =>
    refine ⟨⟨h.1, fun t ht => (ih (h.2 t ht)).1⟩, fun t ended => ?_⟩
    rw [List.foldlM_cons] at ended
    obtain ⟨u, first, later⟩ := exists_of_bind_eq_ok ended
    exact (ih (h.2 u (by rw [first]; rfl))).2 t later

theorem HoldsAlong.of_append {bs : List α} (h : HoldsAlong step holds s (as ++ bs)) : HoldsAlong step holds s as := by
  induction bs using List.reverseRecOn with
  | nil => rwa [List.append_nil] at h
  | append_singleton bs b ih =>
    rw [← List.append_assoc] at h
    exact ih h.of_concat.1

end Steps

end Blotter
