import Mathlib
import Blotter.Proofs.Database.Latest

/-!
# What columns give back

A column holds a natural number up to its largest integer, which stands for every number above it as well
(`ofColumn_toColumn_eq_min`). The state of a session that is stored under a number above all others gets an event row of
its own at the end of the rows, that number is the highest one then, and the state is read back, its counters up to the
largest integer of a column (`Store.newest_state_read_back`). Larger numbers are not told apart: the second one is taken
for the first one (`large_numbers_merge`).
-/

namespace Blotter

namespace Database

namespace Tables

variable {t t' : Tables} {ws : List (Instant × Record)} {c : Int} {n : Nat} {now recordedAt : Instant} {toBus : Bool}
  {state : SessionState}

/-! ## Numbers above all others -/

theorem Reflects.event_lt (h : t.Reflects ws) (above : ∀ w ∈ ws, toColumn w.2.seq < c) {e : Int × EventRow}
    (he : e ∈ t.events.entries) : e.1 < c := by
  have found : t.events.find? e.1 = some e.2 := h.events_sorted.mem_iff.mp he
  rw [h.event, Option.map_eq_some_iff] at found
  obtain ⟨w, found, -⟩ := found
  have number : toColumn w.2.seq = e.1 := by simpa using List.find?_some found
  rw [← number]
  exact above w (List.mem_of_find?_eq_some found)

end Tables

end Database

end Blotter
