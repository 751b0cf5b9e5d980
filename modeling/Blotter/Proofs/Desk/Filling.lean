import Mathlib
import Blotter.Proofs.Decimal.Value
import Blotter.Proofs.Desk.Reports
import Blotter.Proofs.Desk.Requests

/-!
# How much of an order is filled

A desk counts what is filled of an order report by report: every delivery of a fill counts, also a second one of the
same execution, as long as the order is tracked; an acknowledgement puts the order back to what was sent.

- The tally of an order after reports (`Tally.after`) is what its last snapshot in the journal says, and the order is
  tracked if the tally says so (`Desk.filled_eq_tally`). Since the last acknowledgement it is the sum of all deliveries
  (`Tally.since_ack`).
- So a fill that is delivered twice counts twice, and an acknowledgement that comes late undoes the fills before it
  (`Desk.redelivery_counts`).
-/

namespace Blotter

/-- What fills come to. -/
def Fill.total (fills : List Fill) : ℚ := (fills.map fun f => f.quantity.toRat).sum

theorem Fill.total_cons (f : Fill) (fills : List Fill) : total (f :: fills) = f.quantity.toRat + total fills :=
  List.sum_cons

theorem Fill.total_nonneg {fills : List Fill} (positive : ∀ f ∈ fills, 0 < f.quantity.toRat) : 0 ≤ total fills := by
  refine List.sum_nonneg fun q hq => ?_
  obtain ⟨f, hf, rfl⟩ := List.mem_map.mp hq
  exact (positive f hf).le

/-- How much of an order is filled, and whether it is tracked. -/
structure Tally where
  filled : ℚ
  tracked : Bool

namespace Tally

open Fill (total)

/-- The tally of an order that has just been sent or acknowledged. -/
def fresh : Tally := ⟨0, true⟩

/-- The tally of an order of a quantity after a report about it. -/
def after (quantity : ℚ) (t : Tally) : ExecutionReport → Tally
  | .ack _ => fresh
  | .fill f =>
    if t.tracked then ⟨t.filled + f.quantity.toRat, decide (t.filled + f.quantity.toRat < quantity)⟩ else t
  | .reject _ _ | .canceled _ => t

variable {quantity : ℚ} {fills : List Fill}

/-- Fills that do not come to more than the quantity all count. -/
theorem foldl_fills (positive : ∀ f ∈ fills, 0 < f.quantity.toRat) {s : ℚ} (fits : s + total fills ≤ quantity) :
    (fills.map ExecutionReport.fill).foldl (after quantity) ⟨s, decide (s < quantity)⟩ =
      ⟨s + total fills, decide (s + total fills < quantity)⟩ := by
  induction fills generalizing s with
  | nil => simp [total]
  | cons f fills ih =>
    have later (g : Fill) (hg : g ∈ fills) : 0 < g.quantity.toRat := positive g (List.mem_cons_of_mem f hg)
    have first : 0 < f.quantity.toRat := positive f (List.mem_cons_self ..)
    rw [Fill.total_cons, ← add_assoc] at fits ⊢
    have room : s < quantity := by linarith [Fill.total_nonneg later]
    rw [List.map_cons, List.foldl_cons, after, decide_eq_true room, if_pos rfl]
    exact ih later fits

/-- Since the last acknowledgement every delivery counts, if the deliveries do not come to more than the quantity. -/
theorem since_ack (whole : 0 < quantity) {earlier : List ExecutionReport}
    (start : earlier = [] ∨ ∃ q, earlier.getLast? = some (.ack q)) (positive : ∀ f ∈ fills, 0 < f.quantity.toRat)
    (fits : total fills ≤ quantity) : (earlier ++ fills.map ExecutionReport.fill).foldl (after quantity) fresh =
      ⟨total fills, decide (total fills < quantity)⟩ := by
  have begins : earlier.foldl (after quantity) fresh = ⟨0, decide (0 < quantity)⟩ := by
    rw [decide_eq_true whole]
    rcases start with rfl | ⟨q, last⟩
    · rfl
    · obtain ⟨before, rfl⟩ := List.getLast?_eq_some_iff.mp last
      rw [List.foldl_concat]
      rfl
  rw [← zero_add (total fills)] at fits ⊢
  rw [List.foldl_append, begins, foldl_fills positive fits]

end Tally

namespace Desk

open DeskOp

variable {ω ρ σ : Type}

/-- The snapshot that an event is of an order. -/
def snapshotOf? (orderId : OrderId) (e : Event) : Option Order := e.snapshot?.filter (·.orderId == orderId)

/-- The last snapshot of an order among events. -/
def lastSnapshot? (orderId : OrderId) (es : List Event) : Option Order := (es.filterMap (snapshotOf? orderId)).getLast?

theorem lastSnapshot?_concat {orderId : OrderId} (es : List Event) {o : Order} (h : o.orderId = orderId) :
    lastSnapshot? orderId (es ++ [.order o]) = some o := by
  have snapshot : snapshotOf? orderId (.order o) = some o := by simp [snapshotOf?, Event.snapshot?, h]
  rw [lastSnapshot?, List.filterMap_append, List.filterMap_cons_some snapshot, List.filterMap_nil,
    List.getLast?_concat]

end Desk

theorem Adds.events {rs rs' : List Record} {es : List Event} (h : Adds rs es rs') :
    rs'.map (·.event) = rs.map (·.event) ++ es := by
  induction es generalizing rs with
  | nil =>
    obtain rfl : rs' = rs := h
    exact (List.append_nil _).symm
  | cons e es ih =>
    obtain ⟨r, rfl, -, later⟩ := h
    rw [ih later, List.map_append, List.append_assoc]
    rfl

namespace Desk

open DeskOp

variable {ω ρ σ : Type} [KeepingJournal ω] {d d' : Desk ω ρ σ}

/-- The last snapshot of an order in the journal of a desk. -/
def lastJournaled? (d : Desk ω ρ σ) (orderId : OrderId) : Option Order :=
  lastSnapshot? orderId (d.records.map (·.event))

theorem lastJournaled?_of_adds {orderId : OrderId} {o : Order} (es : List Event) (h : o.orderId = orderId)
    (added : Adds d.records (es ++ [.order o]) d'.records) : d'.lastJournaled? orderId = some o := by
  rw [lastJournaled?, added.events, ← List.append_assoc, lastSnapshot?_concat _ h]

/-- Whether a report is an acknowledgement of an order as it was sent, or a fill of it of a strategy that is known. -/
def Concerns (d : Desk ω ρ σ) (o : Order) : ExecutionReport → Prop
  | .ack q => ∃ now, q = o.withStatus .new now
  | .fill f => f.orderId = o.orderId ∧ d.knows f.strategy = true
  | .reject _ _ | .canceled _ => False

/-- Whether a report does not round what is filled of the order that it is about. -/
def SumsExactly (d : Desk ω ρ σ) : ExecutionReport → Prop
  | .fill f => ∀ o ∈ d.tracked.find? f.orderId, ∀ s ∈ (o.filledQuantity.add f.quantity).toOption,
      s.toRat = o.filledQuantity.toRat + f.quantity.toRat
  | .ack _ | .reject _ _ | .canceled _ => True

/-- Whether a tally is that of an order: in the journal, and among the tracked orders if it is tracked. -/
structure Tallied (o : Order) (t : Tally) (d : Desk ω ρ σ) : Prop where
  known : d.knows o.strategy = true
  journaled : ∃ q, d.lastJournaled? o.orderId = some q ∧ q.filledQuantity.toRat = t.filled
  tracked : t.tracked = true → ∃ q, d.tracked.find? o.orderId = some q ∧ q.filledQuantity.toRat = t.filled ∧
    q.quantity = o.quantity ∧ q.orderId = o.orderId
  untracked : t.tracked = false → d.tracked.find? o.orderId = none

/-- A fill adds to what is filled, and the order stays open while that is below its quantity. -/
theorem applyFill_filled {o o' : Order} {quantity price : Decimal} {now : Instant}
    (h : o.applyFill quantity price now = .ok o') : o.filledQuantity.add quantity = .ok o'.filledQuantity ∧
      o'.quantity = o.quantity ∧ o'.isOpen = !o.quantity.le o'.filledQuantity := by
  obtain ⟨added, status, -, quantity, -⟩ := Order.applyFill_ok h
  refine ⟨added, quantity, ?_⟩
  rw [Order.isOpen, status]
  cases o.quantity.le o'.filledQuantity with
  | true => rfl
  | false => rfl

variable {o : Order} {t : Tally} {report : ExecutionReport}

/-- An acknowledgement starts the tally of an order anew. -/
theorem Tallied.ack (h : Tallied o t d) (unfilled : o.filledQuantity.toRat = 0) {now : Instant}
    (ran : settled ((onReport (.ack (o.withStatus .new now))).run d) = some d') :
    Tallied o .fresh d' ∧ d'.strategies = d.strategies := by
  have dispatched : d.dispatch (.ack (o.withStatus .new now)) = .ok _ := rfl
  obtain ⟨j, tr, carried, added⟩ := onReport_carried dispatched h.known
  rw [carried] at ran
  obtain rfl := Option.some.inj ran
  refine ⟨⟨h.known, ⟨o.withStatus .new now, lastJournaled?_of_adds [] rfl added, unfilled⟩, fun _ => ?_, nofun⟩, rfl⟩
  exact ⟨_, Table.find?_insert_self _ _ _, unfilled, rfl, rfl⟩

/-- A fill of an order that is tracked adds to its tally. -/
theorem Tallied.fill (h : Tallied o t d) (live : t.tracked = true) {f : Fill} (concerns : Concerns d o (.fill f))
    (exact : SumsExactly d (.fill f)) (ran : settled ((onReport (.fill f)).run d) = some d') :
    Tallied o ⟨t.filled + f.quantity.toRat, decide (t.filled + f.quantity.toRat < o.quantity.toRat)⟩ d' ∧
      d'.strategies = d.strategies := by
  obtain ⟨same, known⟩ := concerns
  obtain ⟨q, found, filled, quantity, orderId⟩ := h.tracked live
  have found' : d.tracked.find? f.orderId = some q := by rw [same, found]
  cases applied : q.applyFill f.quantity f.price d.now with
  | error e =>
    have dispatched : d.dispatch (.fill f) = .error (.overflow e) := by
      rw [dispatch, found']
      simp only [applied]
    rw [onReport_run, dispatched] at ran
    cases ran
  | ok q' =>
    have dispatched : d.dispatch (.fill f) = .ok ⟨if q'.isOpen then d.tracked.insert q'.orderId q'
        else d.tracked.erase q'.orderId, f.strategy, [.fill f, .order q'], .fill q' f⟩ := by
      rw [dispatch, found']
      simp only [applied]
    obtain ⟨j, tr, carried, added⟩ := onReport_carried dispatched known
    rw [carried] at ran
    obtain rfl := Option.some.inj ran
    obtain ⟨sum, quantity', isOpen⟩ := applyFill_filled applied
    have orderId' : q'.orderId = o.orderId := (applyFill_same applied).2.trans orderId
    have total : q'.filledQuantity.toRat = t.filled + f.quantity.toRat := by
      rw [exact q found' q'.filledQuantity (by rw [sum]; rfl), filled]
    have opens : q'.isOpen = decide (t.filled + f.quantity.toRat < o.quantity.toRat) := by
      rw [isOpen, quantity, Decimal.not_le_eq_lt, total]
    rw [← opens, orderId']
    refine ⟨⟨h.known, ⟨q', lastJournaled?_of_adds [.fill f] orderId' added, total⟩, fun live' => ?_, fun closed => ?_⟩,
      rfl⟩
    · simp only
      rw [if_pos live', Table.find?_insert_self]
      exact ⟨q', rfl, total, quantity'.trans quantity, orderId'⟩
    · simp only
      rw [if_neg (ne_true_of_eq_false closed), Table.find?_erase, if_pos rfl]

/-- A report about an order changes its tally as it should. -/
theorem Tallied.step (h : Tallied o t d) (unfilled : o.filledQuantity.toRat = 0) (concerns : Concerns d o report)
    (exact : SumsExactly d report) (ran : settled ((onReport report).run d) = some d') :
    Tallied o (t.after o.quantity.toRat report) d' ∧ d'.strategies = d.strategies := by
  cases report with
  | reject _ _ => exact concerns.elim
  | canceled _ => exact concerns.elim
  | ack q =>
    obtain ⟨now, rfl⟩ := concerns
    exact h.ack unfilled ran
  | fill f =>
    rw [Tally.after]
    cases live : t.tracked with
    | true => exact h.fill live concerns exact ran
    | false =>
      have dispatched : d.dispatch (.fill f) = .error (.reported (.unknownOrder f.orderId)) := by
        rw [dispatch, concerns.1, h.untracked live]
      rw [onReport_run, dispatched] at ran
      obtain rfl := Option.some.inj ran
      exact ⟨h, rfl⟩

/-! ## Runs -/

/-- The desk after reports, one after the other; `none` if a decimal overflows. -/
def reports (d : Desk ω ρ σ) (rs : List ExecutionReport) : Option (Desk ω ρ σ) :=
  rs.foldlM (fun d r => settled ((onReport r).run d)) d

/-- Whether no report rounds what is filled. -/
def AllSumExactly (d : Desk ω ρ σ) : List ExecutionReport → Prop
  | [] => True
  | r :: rs => SumsExactly d r ∧ ∀ d' ∈ settled ((onReport r).run d), AllSumExactly d' rs

instance (d : Desk ω ρ σ) : (report : ExecutionReport) → Decidable (SumsExactly d report)
  | .fill f => inferInstanceAs <| Decidable <| ∀ o ∈ d.tracked.find? f.orderId,
      ∀ s ∈ (o.filledQuantity.add f.quantity).toOption, s.toRat = o.filledQuantity.toRat + f.quantity.toRat
  | .ack _ | .reject _ _ | .canceled _ => .isTrue trivial

instance decidableAllSumExactly : (d : Desk ω ρ σ) → (rs : List ExecutionReport) → Decidable (AllSumExactly d rs)
  | _, [] => .isTrue trivial
  | d, r :: rs =>
    have (d' : Desk ω ρ σ) : Decidable (AllSumExactly d' rs) := decidableAllSumExactly d' rs
    inferInstanceAs (Decidable (SumsExactly d r ∧ ∀ d' ∈ settled ((onReport r).run d), AllSumExactly d' rs))

omit [KeepingJournal ω] in
theorem Concerns.of_strategies (same : d'.strategies = d.strategies) (h : Concerns d o report) :
    Concerns d' o report := by
  cases report with
  | ack q => exact h
  | fill f =>
    refine ⟨h.1, ?_⟩
    rw [knows, same]
    exact h.2
  | reject _ _ => exact h
  | canceled _ => exact h

/-- Reports about an order change its tally as they should. -/
theorem Tallied.run {rs : List ExecutionReport} (h : Tallied o t d) (unfilled : o.filledQuantity.toRat = 0)
    (concerns : ∀ r ∈ rs, Concerns d o r) (exact : AllSumExactly d rs) (ran : d.reports rs = some d') :
    Tallied o (rs.foldl (Tally.after o.quantity.toRat) t) d' := by
  induction rs generalizing d t with
  | nil =>
    obtain rfl := Option.some.inj ran
    exact h
  | cons r rs ih =>
    rw [reports, List.foldlM_cons] at ran
    obtain ⟨d₁, first, later⟩ := Option.bind_eq_some_iff.mp ran
    obtain ⟨tallied, same⟩ := h.step unfilled (concerns r (List.mem_cons_self ..)) exact.1 first
    refine ih tallied (fun r' hr' => ?_) (exact.2 d₁ first) later
    exact (concerns r' (List.mem_cons_of_mem r hr')).of_strategies same

/-- An order that is sent and accepted is tracked, and its snapshot is the last one of it in the journal. -/
theorem sendNew_accepted [Router ρ] [StageKind σ] {sent : Order}
    (accepted : (sendNew o).run d = .ok (.accepted sent) d') :
    d'.tracked.find? sent.orderId = some sent ∧ d'.lastJournaled? sent.orderId = some sent := by
  have way := sendNew_run d o
  rw [accepted] at way
  generalize result : (EStateM.Result.ok (RouteOutcome.accepted sent) d' : EStateM.Result _ _ _) = r at way
  cases way with
  | refused => cases result
  | rejected _ _ => cases result
  | accepted _ added =>
    cases result
    exact ⟨Table.find?_insert_self _ _ _, lastJournaled?_of_adds [_] rfl added⟩

/-- What is filled of an order that was sent with nothing filled is, after any acknowledgements and fills of it, what
the tally says, in the last snapshot in the journal and among the tracked orders; and the tally is the sum of all
deliveries since the last acknowledgement, as long as that is not more than the quantity. -/
theorem filled_eq_tally [Router ρ] [StageKind σ] {d₀ d₁ : Desk ω ρ σ} {sent : Order} {rs : List ExecutionReport}
    (accepted : (sendNew o).run d₀ = .ok (.accepted sent) d₁) (unfilled : sent.filledQuantity.toRat = 0)
    (whole : 0 < sent.quantity.toRat) (known : d₁.knows sent.strategy = true) (concerns : ∀ r ∈ rs, Concerns d₁ sent r)
    (exact : AllSumExactly d₁ rs) (ran : d₁.reports rs = some d) :
    Tallied sent (rs.foldl (Tally.after sent.quantity.toRat) .fresh) d ∧
      ∀ earlier fills, rs = earlier ++ fills.map ExecutionReport.fill →
        (earlier = [] ∨ ∃ q, earlier.getLast? = some (.ack q)) → (∀ f ∈ fills, 0 < f.quantity.toRat) →
        Fill.total fills ≤ sent.quantity.toRat → Tallied sent
          ⟨Fill.total fills, decide (Fill.total fills < sent.quantity.toRat)⟩ d := by
  obtain ⟨tracked, journaled⟩ := sendNew_accepted accepted
  have start : Tallied sent .fresh d₁ :=
    ⟨known, ⟨sent, journaled, unfilled⟩, fun _ => ⟨sent, tracked, unfilled, rfl, rfl⟩, nofun⟩
  have tallied := start.run unfilled concerns exact ran
  refine ⟨tallied, ?_⟩
  rintro earlier fills rfl begins positive fits
  rwa [Tally.since_ack whole begins positive fits] at tallied

/-! ## Runs on a ledger -/

/-- A desk that has sent an order of five units. -/
def sentDesk : Desk Ledger ScriptedRouter := ({ exampleDesk with ready := true }.ask (.send fiveUnits)).2

/-- The acknowledgement of an order of five units. -/
def fiveUnitsAck : ExecutionReport := .ack (fiveUnits.withStatus .new .epoch)

theorem filled_eq_tally_sentDesk :
    let rs := [.fill twoUnits, fiveUnitsAck, .fill twoUnits, .fill twoUnits]
    (sendNew fiveUnits).run { exampleDesk with ready := true } = .ok (.accepted fiveUnits) sentDesk ∧
      AllSumExactly sentDesk rs ∧ ∃ d, sentDesk.reports rs = some d ∧ Tallied fiveUnits ⟨4, true⟩ d := by
  intro rs
  have accepted : (sendNew fiveUnits).run { exampleDesk with ready := true } = .ok (.accepted fiveUnits) sentDesk := rfl
  have exact : AllSumExactly sentDesk rs := by decide +kernel
  have fill : Concerns sentDesk fiveUnits (.fill twoUnits) := ⟨rfl, rfl⟩
  have ack : Concerns sentDesk fiveUnits fiveUnitsAck := ⟨.epoch, rfl⟩
  have concerns : ∀ r ∈ rs, Concerns sentDesk fiveUnits r := by simp [rs, fill, ack]
  have total : Fill.total [twoUnits, twoUnits] = 4 := by decide +kernel
  have whole : fiveUnits.quantity.toRat = 5 := by decide +kernel
  obtain ⟨d, ran⟩ := Option.isSome_iff_exists.mp (by decide +kernel : (sentDesk.reports rs).isSome = true)
  obtain ⟨-, since⟩ := filled_eq_tally accepted (by decide +kernel) (by decide +kernel) rfl concerns exact ran
  have tallied := since [.fill twoUnits, fiveUnitsAck] [twoUnits, twoUnits] rfl (.inr ⟨_, rfl⟩) (by decide +kernel)
    (by decide +kernel)
  rw [total, whole, decide_eq_true (by norm_num)] at tallied
  exact ⟨accepted, exact, d, ran, tallied⟩

/-- A fill that is delivered twice counts twice, and an acknowledgement after a fill undoes it. -/
theorem redelivery_counts :
    ((sentDesk.reports [.fill twoUnits, .fill twoUnits]).bind (·.tracked.find? fiveUnits.orderId)).map
        (·.filledQuantity) = some (units 4 (by decide)) ∧
      ((sentDesk.reports [.fill twoUnits, fiveUnitsAck]).bind (·.tracked.find? fiveUnits.orderId)).map
        (·.filledQuantity) = some .zero := by
  decide +kernel

end Desk

end Blotter
