import Mathlib
import Blotter.Proofs.Replay.Reference

/-!
# Records in any order

What a replay makes of records whose numbers neither increase nor are distinct.

- The last number is the highest one so far (`le_lastSeq_of_ofRecords`). A record that is not above it changes nothing,
  unless no number has been above zero yet (`apply_of_le`, `apply_of_zeros`): zero is also what the last number is
  before any record.
- So records add up to the same as those whose numbers are above all earlier ones, with all the records numbered zero
  that come first (`ofRecords_eq_maxima`).
-/

namespace Blotter.Replay

/-- The records whose numbers are above a bound and above all earlier ones. -/
def maximaAbove : Nat → List Record → List Record
  | _, [] => []
  | bound, r :: rs => if bound < r.seq then r :: maximaAbove r.seq rs else maximaAbove bound rs

/-- The records whose numbers are above all earlier ones. -/
def maxima : List Record → List Record
  | [] => []
  | r :: rs => r :: maximaAbove r.seq rs

variable {rs : List Record} {r q : Record} {s s' : Replay}

theorem covers_of_lastSeq_eq_zero (zero : s.lastSeq = 0) (n : Nat) : s.covers n = false := by
  rw [covers, zero, bne_self_eq_false, Bool.and_false]

theorem covers_of_lastSeq_ne_zero (started : s.lastSeq ≠ 0) (n : Nat) : s.covers n = decide (n ≤ s.lastSeq) := by
  rw [covers, bne_iff_ne.mpr started, Bool.and_true]

/-- The last number is no smaller than any so far. -/
theorem le_lastSeq_of_ofRecords (replayed : ofRecords rs = .ok s) (hr : r ∈ rs) : r.seq ≤ s.lastSeq := by
  induction rs using List.reverseRecOn generalizing s with
  | nil => cases hr
  | append_singleton rs q ih =>
    obtain ⟨t, before, applied⟩ := ofRecords_concat_ok replayed
    cases new : t.covers q.seq with
    | true =>
      rw [Replay.apply, new, if_pos rfl] at applied
      obtain rfl := Except.ok.inj applied
      rw [covers, Bool.and_eq_true, decide_eq_true_eq] at new
      rcases List.mem_append.mp hr with hr | hr
      · exact ih before hr
      · exact List.mem_singleton.mp hr ▸ new.1
    | false =>
      rw [(apply_ok applied new).2]
      rcases List.mem_append.mp hr with hr | hr
      · have le := ih before hr
        rw [covers, Bool.and_eq_false_iff, decide_eq_false_iff_not, bne_eq_false_iff_eq] at new
        omega
      · exact (List.mem_singleton.mp hr ▸ le_refl _)

/-- A record that is not above the numbers so far changes nothing once one of them is above zero. -/
theorem apply_of_le (replayed : ofRecords rs = .ok s) (hq : q ∈ rs) (le : r.seq ≤ q.seq) {p : Record} (hp : p ∈ rs)
    (pos : 0 < p.seq) : s.apply r = .ok s := by
  have last := le_lastSeq_of_ofRecords replayed hq
  have started : s.lastSeq ≠ 0 := (pos.trans_le (le_lastSeq_of_ofRecords replayed hp)).ne'
  rw [Replay.apply, covers_of_lastSeq_ne_zero started, decide_eq_true (le.trans last), if_pos rfl]

/-- As long as all numbers are zero one more record with this number is taken. -/
theorem apply_of_zeros (replayed : ofRecords rs = .ok s) (zeros : ∀ q ∈ rs, q.seq = 0) (zero : r.seq = 0) :
    s.apply r = s.applyEvent 0 r.event := by
  have last : s.lastSeq = 0 := by
    rcases lastSeq_of_ofRecords replayed with none | ⟨q, hq, last⟩
    · exact none
    · exact last ▸ zeros q hq
  have same : ({ s with lastSeq := 0 } : Replay) = s := by rw [← last]
  rw [Replay.apply, covers_of_lastSeq_eq_zero last, if_neg (by simp), zero, same]

/-! ## Records above all earlier ones -/

/-- Once a number above zero was taken, only the records above all earlier ones count. -/
theorem foldlM_maximaAbove (started : s.lastSeq ≠ 0) (rs : List Record) :
    rs.foldlM apply s = (maximaAbove s.lastSeq rs).foldlM apply s := by
  induction rs generalizing s with
  | nil => rfl
  | cons r rs ih =>
    rw [maximaAbove, List.foldlM_cons]
    have covered := covers_of_lastSeq_ne_zero started r.seq
    split
    · rename_i above
      have new : s.covers r.seq = false := covered.trans (decide_eq_false (Nat.not_le.mpr above))
      rw [List.foldlM_cons]
      cases applied : s.apply r with
      | error o => rfl
      | ok s' =>
        -- the number of this record is the bound for the rest, and it is above zero as well
        have last := (apply_ok applied new).2
        have later := ih (s := s') (by omega)
        rw [last] at later
        exact later
    · rename_i below
      have same : s.apply r = .ok s := by
        rw [Replay.apply, covered, decide_eq_true (Nat.not_lt.mp below), if_pos rfl]
      rw [same]
      exact ih started

/-- Before that, all records numbered zero count. -/
theorem foldlM_takeWhile_zero (zero : s.lastSeq = 0) (rs : List Record) :
    rs.foldlM apply s = (rs.takeWhile (·.seq == 0) ++ maximaAbove 0 rs).foldlM apply s := by
  induction rs generalizing s with
  | nil => rfl
  | cons r rs ih =>
    have new := covers_of_lastSeq_eq_zero zero r.seq
    by_cases first : r.seq = 0
    · rw [List.takeWhile_cons_of_pos (by simpa using first), maximaAbove, if_neg (by omega), List.cons_append,
        List.foldlM_cons, List.foldlM_cons]
      cases applied : s.apply r with
      | error o => rfl
      | ok s' => exact ih ((apply_ok applied new).2.trans first)
    · rw [List.takeWhile_cons_of_neg (by simpa using first), maximaAbove, if_pos (by omega), List.nil_append,
        List.foldlM_cons, List.foldlM_cons]
      cases applied : s.apply r with
      | error o => rfl
      | ok s' =>
        have last := (apply_ok applied new).2
        have later := foldlM_maximaAbove (s := s') (by omega) rs
        rw [last] at later
        exact later

/-- If not more than one record numbered zero comes first, these records and the ones above are the running maxima. -/
theorem takeWhile_append_maximaAbove (single : (rs.takeWhile (·.seq == 0)).length ≤ 1) :
    rs.takeWhile (·.seq == 0) ++ maximaAbove 0 rs = maxima rs := by
  cases rs with
  | nil => rfl
  | cons r rs =>
    rw [maxima, maximaAbove]
    by_cases first : r.seq = 0
    · rw [List.takeWhile_cons_of_pos (by simpa using first)] at single ⊢
      have none : rs.takeWhile (·.seq == 0) = [] := by simpa using single
      rw [none, first, if_neg (by simp)]
      rfl
    · rw [List.takeWhile_cons_of_neg (by simpa using first), if_pos (by omega)]
      rfl

/-- A record that is not above the numbers so far changes nothing once one of them is above zero; as long as they are
all zero it is taken. So records in any order add up to the same as the ones that are above all earlier ones and the
leading ones numbered zero, and these are the running maxima unless the first two numbers are zero. -/
theorem ofRecords_eq_maxima (rs : List Record) :
    (∀ s r q, ofRecords rs = .ok s → q ∈ rs → r.seq ≤ q.seq →
      (∃ p ∈ rs, 0 < p.seq) ∧ s.apply r = .ok s ∨ (∀ p ∈ rs, p.seq = 0) ∧ s.apply r = s.applyEvent 0 r.event) ∧
    ofRecords rs = ofRecords (rs.takeWhile (·.seq == 0) ++ maximaAbove 0 rs) ∧
    ((rs.takeWhile (·.seq == 0)).length ≤ 1 → ofRecords rs = ofRecords (maxima rs)) := by
  have all : ofRecords rs = ofRecords (rs.takeWhile (·.seq == 0) ++ maximaAbove 0 rs) := foldlM_takeWhile_zero rfl rs
  refine ⟨fun s r q replayed hq le => ?_, all, fun single => all.trans ?_⟩
  · by_cases started : ∃ p ∈ rs, 0 < p.seq
    · obtain ⟨p, hp, pos⟩ := started
      exact .inl ⟨⟨p, hp, pos⟩, apply_of_le replayed hq le hp pos⟩
    · have zeros : ∀ p ∈ rs, p.seq = 0 := fun p hp => Nat.eq_zero_of_not_pos fun pos => started ⟨p, hp, pos⟩
      have zero : r.seq = 0 := Nat.le_zero.mp (zeros q hq ▸ le)
      exact .inr ⟨zeros, apply_of_zeros replayed zeros zero⟩
  · rw [takeWhile_append_maximaAbove single]

/-- A record of a snapshot in a status. -/
def snapshot (seq : Nat) (status : OrderStatus) : Record :=
  ⟨seq, .epoch, true, .order ((oneUnit "A" "o").withStatus status .epoch)⟩

/-- Records with numbers that go back and forth. -/
def unordered : List Record := [snapshot 3 .new, snapshot 1 .filled, snapshot 5 .partiallyFilled, snapshot 2 .canceled]

theorem ofRecords_eq_maxima_unordered : ∃ s, ofRecords unordered = .ok s ∧
    (s.openOrders ⟨"A"⟩).map (·.status) = [.partiallyFilled] ∧ s.apply (snapshot 4 .filled) = .ok s := by
  obtain ⟨covered, -, highest⟩ := ofRecords_eq_maxima unordered
  have ok : (ofRecords unordered).isOk = true := by decide +kernel
  obtain ⟨s, replayed⟩ := exists_of_isOk ok
  have single : (unordered.takeWhile (·.seq == 0)).length ≤ 1 := by decide
  have answers : (ofRecords (maxima unordered)).toOption.map (fun s => (s.openOrders ⟨"A"⟩).map (·.status)) =
      some [.partiallyFilled] := by decide +kernel
  rw [← highest single, replayed] at answers
  refine ⟨s, replayed, Option.some.inj answers, ?_⟩
  have highest : snapshot 5 .partiallyFilled ∈ unordered := by decide
  rcases covered s (snapshot 4 .filled) _ replayed highest (by decide) with ⟨-, same⟩ | ⟨zeros, -⟩
  · exact same
  · exact absurd (zeros _ highest) (by decide)

/-- Of two records numbered zero the second one is taken, although its number is not above that of the first. -/
theorem second_zero_counts :
    let first := snapshot 0 .new
    let second := snapshot 0 .filled
    second.seq ≤ first.seq ∧ maxima [first, second] = [first] ∧
      (ofRecords [first]).toOption.map (fun s => (s.openOrders ⟨"A"⟩).length) = some 1 ∧
      (ofRecords [first, second]).toOption.map (fun s => (s.openOrders ⟨"A"⟩).length) = some 0 ∧
      ofRecords [first, second] ≠ ofRecords (maxima [first, second]) := by
  intro first second
  have maxima : maxima [first, second] = [first] := by decide
  have one : (ofRecords [first]).toOption.map (fun s => (s.openOrders ⟨"A"⟩).length) = some 1 := by decide +kernel
  have both : (ofRecords [first, second]).toOption.map (fun s => (s.openOrders ⟨"A"⟩).length) = some 0 := by
    decide +kernel
  refine ⟨le_refl _, maxima, one, both, fun same => ?_⟩
  rw [same, maxima, one] at both
  cases both

end Blotter.Replay
