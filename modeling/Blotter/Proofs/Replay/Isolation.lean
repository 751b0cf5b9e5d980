import Mathlib
import Blotter.Proofs.Replay.Reference

/-!
# Accounts apart

What the records of one account add up to does not depend on those of the others.

- Of the records only the orders and fills of the account count (`eventsOf`), as long as the names of its orders and
  executions are its own (`KeepsApart`): for its open orders (`Meets.openOrders_eventsOf`), for its fills
  (`firstFills_eventsOf`) and for its positions (`ofFills_eventsOf`).
- So the answers for the account are the same after all records that agree on them, unless the fills of a position of
  another account lead nowhere: then there are no answers at all (`answers_isolated`).
-/

namespace Blotter

/-- The account of the order or the fill that an event records. -/
def Event.account? : Event → Option AccountId
  | .order o | .orderReject o _ => some o.account
  | .fill f => some f.account
  | .command _ | .sessionState _ | .sessionMessage _ | .fillCopy _ | .pnlSnapshot _ | .messagingStats _ => none

namespace Replay

/-- The events that record orders and fills of an account. -/
def eventsOf (account : AccountId) (es : List Event) : List Event := es.filter (·.account? == some account)

/-- Whether no name of an order or of an execution of an account is used for another account. -/
structure KeepsApart (account : AccountId) (es : List Event) : Prop where
  orders : ∀ o ∈ es.filterMap Event.snapshot?, ∀ q ∈ es.filterMap Event.snapshot?, o.orderId = q.orderId →
    o.account = account → q.account = account
  executions : ∀ f ∈ es.filterMap Event.fill?, ∀ g ∈ es.filterMap Event.fill?, f.execId = g.execId →
    f.account = account → g.account = account

/-- What is asked about an account. -/
def answers (s : Replay) (account : AccountId) : List Order × List Position × (Date → List Fill) :=
  (s.openOrders account, s.openPositions account, s.fillsOn account)

variable {rs rs' : List Record} {es : List Event} {s s' : Replay} {account : AccountId} {key : PositionKey}

/-! ## What counts for an account -/

theorem snapshots_eventsOf (account : AccountId) (es : List Event) :
    (es.filterMap Event.snapshot?).filter (·.account == account) =
      (eventsOf account es).filterMap Event.snapshot? := by
  rw [eventsOf, List.filter_filterMap, List.filterMap_filter]
  congr
  funext e
  cases e with
  | order o => simp [Event.snapshot?, Event.account?, Option.filter]
  | orderReject o r => simp [Event.snapshot?, Event.account?, Option.filter, Order.withStatus]
  | _ => simp [Event.snapshot?]

theorem fills_eventsOf (account : AccountId) (es : List Event) :
    (es.filterMap Event.fill?).filter (·.account == account) = (eventsOf account es).filterMap Event.fill? := by
  rw [eventsOf, List.filter_filterMap, List.filterMap_filter]
  congr
  funext e
  cases e with
  | fill f => simp [Event.fill?, Event.account?, Option.filter]
  | _ => simp [Event.fill?]

theorem map_lastSnapshots (rs : List Record) : (lastSnapshots rs).map (·.order) =
    ((rs.map (·.event)).filterMap Event.snapshot?).pwFilter fun o q => o.orderId ≠ q.orderId := by
  have orders : (rs.map (·.event)).filterMap Event.snapshot? = (rs.filterMap Record.snapshot?).map (·.order) := by
    rw [List.map_filterMap, List.filterMap_map]
    congr
    funext r
    rw [Record.snapshot?, Option.map_map]
    exact (Option.map_id' ..).symm
  rw [orders, List.pwFilter_map, lastSnapshots]

/-- The open orders of an account are the open ones among the last snapshots of its orders. -/
theorem Meets.openOrders_eventsOf (h : Meets rs s) (wellFormed : s.WellFormed)
    (increasing : rs.Pairwise fun r q => r.seq < q.seq) (apart : KeepsApart account (rs.map (·.event))) :
    s.openOrders account = (((eventsOf account (rs.map (·.event))).filterMap Event.snapshot?).pwFilter
      fun o q => o.orderId ≠ q.orderId).filter (·.isOpen) := by
  have chosen : (lastSnapshots rs).filter (fun x => x.order.account == account && x.order.isOpen) =
      (lastSnapshots rs).filter ((fun o => o.isOpen && o.account == account) ∘ (·.order)) := by
    simp only [Function.comp_def, Bool.and_comm]
  rw [h.openOrders wellFormed increasing, chosen, ← List.filter_map, ← List.filter_filter, map_lastSnapshots,
    filter_pwFilter, snapshots_eventsOf]
  intro o ho q hq same
  rw [Bool.eq_iff_iff, beq_iff_eq, beq_iff_eq]
  exact ⟨apart.orders o ho q hq same, apart.orders q hq o ho same.symm⟩

/-- The first fills of an account are those among its own. -/
theorem firstFills_eventsOf (apart : KeepsApart account es) :
    (firstFills es).filter (·.account == account) = firstFills (eventsOf account es) := by
  rw [firstFills, firstFills, filter_eraseDupsBy, fills_eventsOf]
  intro f hf g hg same
  rw [Bool.eq_iff_iff, beq_iff_eq, beq_iff_eq]
  exact ⟨apart.executions f hf g hg same, apart.executions g hg f hf same.symm⟩

/-- A position of an account is led to by its own fills. -/
theorem ofFills_eventsOf (apart : KeepsApart account es) (own : key.account = account) :
    Position.ofFills key (firstFills es) = Position.ofFills key (firstFills (eventsOf account es)) := by
  rw [← firstFills_eventsOf apart, Position.ofFills, Position.ofFills, List.filter_filter]
  congr
  funext f
  by_cases same : f.positionKey = key
  · have owned : f.account = account := (congrArg PositionKey.account same).trans own
    rw [owned, beq_self_eq_true, Bool.and_true]
  · rw [beq_false_of_ne same, Bool.false_and]

/-! ## Records that agree on an account -/

/-- Positions in their order are the same if there are the same ones. -/
theorem openPositions_eq (h : Meets rs s) (h' : Meets rs' s')
    (same : ∀ p, p ∈ s.openPositions account ↔ p ∈ s'.openPositions account) :
    s.openPositions account = s'.openPositions account := by
  let order := compareLex (compareOn Position.strategy) (compareOn Position.instrument)
  have asymm : Std.Asymm fun p q => order p q = .lt := by
    refine ⟨fun p q below above => ?_⟩
    rw [Std.OrientedCmp.gt_of_lt above] at below
    cases below
  have sorted : (s.openPositions account).Pairwise fun p q => order p q = .lt := h.openPositions_sorted account
  have sorted' : (s'.openPositions account).Pairwise fun p q => order p q = .lt := h'.openPositions_sorted account
  exact sorted.eq_of_mem_iff sorted' same

/-- Records that agree on the orders and fills of an account give the same answers about it, unless the fills of a
position of another account lead nowhere. -/
theorem answers_isolated (increasing : rs.Pairwise fun r q => r.seq < q.seq)
    (increasing' : rs'.Pairwise fun r q => r.seq < q.seq) (apart : KeepsApart account (rs.map (·.event)))
    (apart' : KeepsApart account (rs'.map (·.event)))
    (same : eventsOf account (rs.map (·.event)) = eventsOf account (rs'.map (·.event)))
    (replayed : ofRecords rs = .ok s) :
    (∃ s', ofRecords rs' = .ok s' ∧ s'.answers account = s.answers account) ∨
      ∃ o key, ofRecords rs' = .error o ∧ key.account ≠ account ∧
        Position.ofFills key (firstFills (rs'.map (·.event))) = .error o := by
  have meets := meets_of_ofRecords increasing replayed
  have positions : ∀ key : PositionKey, key.account = account →
      Position.ofFills key (firstFills (rs'.map (·.event))) = Position.ofFills key (firstFills (rs.map (·.event))) := by
    intro key own
    rw [ofFills_eventsOf apart own, ofFills_eventsOf apart' own, same]
  rcases ofRecords_cases increasing' with ⟨s', replayed', meets'⟩ | ⟨o, key, failed, nowhere⟩
  · refine .inl ⟨s', replayed', ?_⟩
    have openOrders : s'.openOrders account = s.openOrders account := by
      rw [meets.openOrders_eventsOf (wellFormed_of_ofRecords replayed) increasing apart,
        meets'.openOrders_eventsOf (wellFormed_of_ofRecords replayed') increasing' apart', same]
    have openPositions : s'.openPositions account = s.openPositions account := by
      refine openPositions_eq meets' meets fun p => ?_
      rw [meets.mem_openPositions, meets'.mem_openPositions]
      exact and_congr_right fun own => by rw [positions p.key own]
    have fillsOn : s'.fillsOn account = s.fillsOn account := by
      funext date
      have split : ∀ fills : List Fill, fills.filter (fun f => f.account == account && f.executedAt.date == date) =
          (fills.filter (·.account == account)).filter (·.executedAt.date == date) := by
        intro fills
        rw [List.filter_filter]
        simp only [Bool.and_comm]
      rw [meets.fillsOn, meets'.fillsOn, split, split, firstFills_eventsOf apart, firstFills_eventsOf apart', same]
    rw [answers, answers, openOrders, openPositions, fillsOn]
  -- a position of the account itself would have led nowhere before
  · refine .inr ⟨o, key, failed, fun own => ?_, nowhere⟩
    obtain ⟨p, led⟩ := (exists_ofRecords_iff increasing).mp ⟨s, replayed⟩ key
    rw [positions key own, led] at nowhere
    cases nowhere

/-- The records of an account between those of another one. -/
def crowdedRecords : List Record :=
  [⟨3, .epoch, true, .order (oneUnit "B" "other")⟩, ⟨4, .epoch, true, .order (oneUnit "A" "first")⟩,
    ⟨6, .epoch, true, .fill (oneFill "B" "other" "e1")⟩, ⟨8, .epoch, true, .fill (oneFill "A" "first" "e2")⟩]

/-- The records of the account alone. -/
def lonelyRecords : List Record :=
  [⟨1, .epoch, true, .order (oneUnit "A" "first")⟩, ⟨2, .epoch, true, .fill (oneFill "A" "first" "e2")⟩]

theorem answers_isolated_crowdedRecords : ∃ s s', ofRecords lonelyRecords = .ok s ∧
    ofRecords crowdedRecords = .ok s' ∧ s'.answers ⟨"A"⟩ = s.answers ⟨"A"⟩ := by
  have alone : (ofRecords lonelyRecords).isOk = true := by decide +kernel
  have among : (ofRecords crowdedRecords).isOk = true := by decide +kernel
  have increasing : lonelyRecords.Pairwise fun r q => r.seq < q.seq := by decide
  have increasing' : crowdedRecords.Pairwise fun r q => r.seq < q.seq := by decide
  have apart : KeepsApart ⟨"A"⟩ (lonelyRecords.map (·.event)) := ⟨by decide +kernel, by decide +kernel⟩
  have apart' : KeepsApart ⟨"A"⟩ (crowdedRecords.map (·.event)) := ⟨by decide +kernel, by decide +kernel⟩
  obtain ⟨s, replayed⟩ := exists_of_isOk alone
  rcases answers_isolated increasing increasing' apart apart' (by decide +kernel) replayed with
    ⟨s', replayed', same⟩ | ⟨o, key, failed, -⟩
  · exact ⟨s, s', replayed, replayed', same⟩
  · obtain ⟨s', replayed'⟩ := exists_of_isOk among
    cases failed.symm.trans replayed'

/-- A fill of another account that cannot be booked takes all answers away. -/
theorem overflow_silences_others :
    let own : Record := ⟨1, .epoch, true, .order (oneUnit "A" "o")⟩
    let other : Record := ⟨2, .epoch, true, .fill (boundlessFill "B" "e")⟩
    KeepsApart ⟨"A"⟩ [own.event] ∧ KeepsApart ⟨"A"⟩ [own.event, other.event] ∧
      eventsOf ⟨"A"⟩ [own.event] = eventsOf ⟨"A"⟩ [own.event, other.event] ∧
      (ofRecords [own]).toOption.map (·.openOrders ⟨"A"⟩) = some [oneUnit "A" "o"] ∧
      ofRecords [own, other] = .error .multiplication := by
  intro own other
  refine ⟨⟨by decide +kernel, by decide +kernel⟩, ⟨by decide +kernel, by decide +kernel⟩, by decide +kernel,
    by decide +kernel, by decide +kernel⟩

end Replay

end Blotter
