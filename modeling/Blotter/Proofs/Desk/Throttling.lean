import Mathlib
import Blotter.Proofs.Desk.Limits

/-!
# New orders within a second

The stages that settings ask for are the quantity limit and, unless it is switched off, the throttle behind it, which
counts orders within a second.

- The first stage that refuses an order decides: the stages behind it are not asked, whichever they are
  (`StageKind.checkAll_refused`).
- Within a second no time that the throttle holds runs out, so its state follows from the orders that were sent: it
  holds the times of the first ones with a quantity that fits, as many as it lets pass (`DeskSettings.stagesAfter`,
  `Chain.stages_calls`).
- So an order reaches the router exactly if its quantity fits and not too many orders with quantities that fit were
  sent before it; any other is rejected with the name of the first stage that refuses it, and the chain stays as it is
  (`Chain.sends_within_second`).
-/

namespace Blotter

/-! ## Stages one after the other -/

section Stages

variable {σ : Type} [StageKind σ] {o : Order} {now : Int}

/-- Stages that let an order pass hand it on to the ones behind them. -/
theorem StageKind.checkAll_append {front : List σ} (passed : (checkAll o now front).1 = none) (back : List σ) :
    checkAll o now (front ++ back) =
      ((checkAll o now back).1, (checkAll o now front).2 ++ (checkAll o now back).2) := by
  induction front with
  | nil => rfl
  | cons s front ih =>
    rw [List.cons_append, checkAll, checkAll]
    rw [checkAll] at passed
    rcases checked : check s o now with ⟨reason, s'⟩
    rw [checked] at passed
    cases reason with
    | some reason => cases passed
    | none =>
      have handed := ih passed
      simp only [handed, List.cons_append]

/-- The first stage that refuses an order gives the reason, whatever stages are behind it, and these are not asked. -/
theorem StageKind.checkAll_refused {front : List σ} {s s' : σ} {reason : String}
    (passed : (checkAll o now front).1 = none) (refused : check s o now = (some reason, s')) (behind : List σ) :
    checkAll o now (front ++ s :: behind) =
      (some (rejectReason s' reason), (checkAll o now front).2 ++ s' :: behind) := by
  rw [checkAll_append passed, checkAll, refused]

end Stages

namespace Stage

variable {most : Decimal} {limit window : Nat} {passed : List Int} {o : Order} {now : Int}

/-- What a stage answers is its veto in words. -/
theorem stageKind_check (s : Stage) (o : Order) (now : Int) :
    StageKind.check s o now = (s.check o now).map (·.map Veto.reason) id := rfl

/-- The quantity limit lets an order pass exactly if its quantity is positive and not above the limit. -/
theorem check_quantityLimit_eq_none_iff (now : Int) : ((quantityLimit most).check o now).1 = none ↔
    0 < o.quantity.toRat ∧ o.quantity.toRat ≤ most.toRat := by
  constructor
  · intro passed
    have checked : (StageKind.check (quantityLimit most) o now).1 = none := Option.map_eq_none_iff.mpr passed
    exact within_of_check checked
  · rintro ⟨positive, below⟩
    have notZero : ¬o.quantity.le .zero = true := by
      rw [Decimal.le_iff, Decimal.toRat_zero, not_le]
      exact positive
    have notAbove : ¬most.lt o.quantity = true := by
      rw [Decimal.lt_iff, not_lt]
      exact below
    simp only [check, if_neg notZero, if_neg notAbove]

/-- While none of its times has run out, the throttle refuses an order if it holds as many as it lets pass, and notes
its time otherwise. -/
theorem check_throttle (fresh : ∀ t ∈ passed, now - t < window) : (throttle limit window passed).check o now =
    if limit ≤ passed.length then (some (.tooMany limit window), throttle limit window passed)
    else (none, throttle limit window (passed ++ [now])) := by
  have all : recent window now passed = passed := by
    rw [recent]
    cases passed with
    | nil => rfl
    | cons t passed => exact List.dropWhile_cons_of_neg (by simpa using fresh t List.mem_cons_self)
  rw [check, all]

end Stage

/-! ## What the settings let pass -/

namespace DeskSettings

/-- Whether the quantity of an order is positive and not above the limit. -/
def Fits (s : DeskSettings) (o : Order) : Prop := 0 < o.quantity.toRat ∧ o.quantity.toRat ≤ s.maxOrderQuantity.toRat

instance (s : DeskSettings) (o : Order) : Decidable (s.Fits o) := inferInstanceAs (Decidable (_ ∧ _))

/-- Whether an order may be sent within a second in which these have been sent before it: its quantity fits and, unless
any number may be sent, fewer orders with quantities that fit came before it than may be sent. -/
def LetsPass (s : DeskSettings) (earlier : List (Order × Instant)) (o : Order) : Prop :=
  s.Fits o ∧ (s.maxOrdersPerSecond ≠ 0 → (earlier.countP fun e => s.Fits e.1) < s.maxOrdersPerSecond)

instance (s : DeskSettings) (earlier : List (Order × Instant)) (o : Order) : Decidable (s.LetsPass earlier o) :=
  inferInstanceAs (Decidable (_ ∧ (_ → _)))

/-- The nanoseconds of a second. -/
def second : Nat := 1000000000

/-- The times that the throttle holds when these orders have been sent within a second. -/
def passedOf (s : DeskSettings) (sent : List (Order × Instant)) : List Int :=
  ((sent.filter fun e => s.Fits e.1).take s.maxOrdersPerSecond).map (·.2.toNanos)

/-- The stages when these orders have been sent within a second. -/
def stagesAfter (s : DeskSettings) (sent : List (Order × Instant)) : List Stage :=
  .quantityLimit s.maxOrderQuantity ::
    if s.maxOrdersPerSecond == 0 then [] else [.throttle s.maxOrdersPerSecond second (s.passedOf sent)]

variable {s : DeskSettings} {sent : List (Order × Instant)} {o : Order} {now : Instant}

theorem stagesAfter_nil (s : DeskSettings) : s.stagesAfter [] = Stage.ofSettings s := by
  rw [stagesAfter, passedOf, List.filter_nil, List.take_nil, List.map_nil]
  rfl

theorem length_passedOf (s : DeskSettings) (sent : List (Order × Instant)) :
    (s.passedOf sent).length = min s.maxOrdersPerSecond (sent.countP fun e => s.Fits e.1) := by
  rw [passedOf, List.length_map, List.length_take, List.countP_eq_length_filter]

/-- The times of the throttle are among those at which orders were sent. -/
theorem mem_passedOf {t : Int} (h : t ∈ s.passedOf sent) : ∃ e ∈ sent, e.2.toNanos = t := by
  obtain ⟨e, he, rfl⟩ := List.mem_map.mp h
  exact ⟨e, List.mem_of_mem_filter (List.mem_of_mem_take he), rfl⟩

/-- An order whose quantity does not fit leaves no time. -/
theorem passedOf_concat_of_not_fits (h : ¬s.Fits o) : s.passedOf (sent ++ [(o, now)]) = s.passedOf sent := by
  rw [passedOf, List.filter_append, List.filter_cons_of_neg (by simpa using h), List.filter_nil, List.append_nil,
    passedOf]

/-- An order whose quantity fits leaves its time, unless as many as may pass have done so. -/
theorem passedOf_concat_of_fits (h : s.Fits o) : s.passedOf (sent ++ [(o, now)]) =
    if (sent.countP fun e => s.Fits e.1) < s.maxOrdersPerSecond then s.passedOf sent ++ [now.toNanos]
    else s.passedOf sent := by
  rw [passedOf, List.filter_append, List.filter_cons_of_pos (by simpa using h), List.filter_nil, List.take_append,
    List.map_append, ← passedOf, ← List.countP_eq_length_filter]
  split
  · rename_i room
    rw [List.take_of_length_le (by rw [List.length_singleton]; omega), List.map_cons, List.map_nil]
  · rename_i full
    rw [Nat.sub_eq_zero_of_le (Nat.not_lt.mp full), List.take_zero, List.map_nil, List.append_nil]

/-! ## One order -/

/-- How stages refuse an order: the one that does, its reason, and the stages before it, which let the order pass. They
stay as they are, and so do the stages behind, whichever these are. -/
structure Refusal (stages : List Stage) (o : Order) (now : Instant) where
  front : List Stage
  stage : Stage
  back : List Stage
  veto : Veto
  split : stages = front ++ stage :: back
  passed : ∀ s ∈ front, (s.check o now.toNanos).1 = none
  refused : (stage.check o now.toNanos).1 = some veto
  unasked : ∀ others, StageKind.checkAll o now.toNanos (front ++ stage :: others) =
    (some s!"{stage.name}: {veto.reason}", front ++ stage :: others)

/-- A stage refuses an order, and neither it nor the stages before it change. -/
theorem nonempty_refusal {front : List Stage} {stage : Stage} {veto : Veto} (back : List Stage)
    (passed : StageKind.checkAll o now.toNanos front = (none, front))
    (refused : stage.check o now.toNanos = (some veto, stage)) : Nonempty (Refusal (front ++ stage :: back) o now) := by
  have allowed : (StageKind.checkAll o now.toNanos front).1 = none := by rw [passed]
  have vetoed : StageKind.check stage o now.toNanos = (some veto.reason, stage) := by
    rw [Stage.stageKind_check, refused]
    rfl
  refine ⟨⟨front, stage, back, veto, rfl, fun s hs => ?_, by rw [refused], fun others => ?_⟩⟩
  · exact Option.map_eq_none_iff.mp ((StageKind.checkAll_eq_none_iff o now.toNanos front).mp allowed s hs)
  · rw [StageKind.checkAll_refused allowed vetoed others, passed]
    rfl

/-- The quantity limit in front lets orders pass whose quantities fit. -/
theorem checkAll_quantityLimit (h : s.Fits o) (now : Instant) :
    StageKind.checkAll o now.toNanos [Stage.quantityLimit s.maxOrderQuantity] =
      (none, [.quantityLimit s.maxOrderQuantity]) := by
  have passed : (StageKind.check (Stage.quantityLimit s.maxOrderQuantity) o now.toNanos).1 = none :=
    Option.map_eq_none_iff.mpr ((Stage.check_quantityLimit_eq_none_iff now.toNanos).mpr h)
  have same := Stage.check_quantityLimit s.maxOrderQuantity o now.toNanos
  rw [StageKind.checkAll]
  rcases checked : StageKind.check (Stage.quantityLimit s.maxOrderQuantity) o now.toNanos with ⟨reason, stage⟩
  rw [checked] at passed same
  obtain rfl : reason = none := passed
  obtain rfl : stage = .quantityLimit s.maxOrderQuantity := same
  rfl

section Fresh

variable (fresh : ∀ e ∈ sent, now.toNanos - e.2.toNanos < second)
include fresh

/-- The throttle refuses an order exactly if as many orders with quantities that fit have been sent as may be. -/
theorem check_throttle :
    (Stage.throttle s.maxOrdersPerSecond second (s.passedOf sent)).check o now.toNanos =
      if (sent.countP fun e => s.Fits e.1) < s.maxOrdersPerSecond then
        (none, .throttle s.maxOrdersPerSecond second (s.passedOf sent ++ [now.toNanos]))
      else (some (.tooMany s.maxOrdersPerSecond second), .throttle s.maxOrdersPerSecond second (s.passedOf sent)) := by
  have within : ∀ t ∈ s.passedOf sent, now.toNanos - t < second := by
    intro t ht
    obtain ⟨e, he, rfl⟩ := mem_passedOf ht
    exact fresh e he
  rw [Stage.check_throttle within, length_passedOf]
  by_cases room : (sent.countP fun e => s.Fits e.1) < s.maxOrdersPerSecond
  · rw [if_neg (by omega), if_pos room]
  · rw [if_pos (by omega), if_neg room]

/-- An order that may be sent passes all stages. -/
theorem checkAll_of_letsPass (h : s.LetsPass sent o) :
    StageKind.checkAll o now.toNanos (s.stagesAfter sent) = (none, s.stagesAfter (sent ++ [(o, now)])) := by
  obtain ⟨fits, room⟩ := h
  have first := checkAll_quantityLimit fits now
  rw [stagesAfter, stagesAfter, passedOf_concat_of_fits fits]
  by_cases off : s.maxOrdersPerSecond = 0
  · rw [if_pos (beq_iff_eq.mpr off), if_pos (beq_iff_eq.mpr off)]
    exact first
  · have throttled := check_throttle (s := s) (o := o) fresh
    rw [if_pos (room off)] at throttled
    rw [if_neg (by simpa using off), if_neg (by simpa using off), if_pos (room off), ← List.singleton_append,
      StageKind.checkAll_append (by rw [first]), first, StageKind.checkAll, Stage.stageKind_check, throttled]
    rfl

/-- An order that may not be sent is refused, and the times of the throttle stay as they are. -/
theorem refusal_of_not_letsPass (h : ¬s.LetsPass sent o) :
    Nonempty (Refusal (s.stagesAfter sent) o now) ∧ s.stagesAfter (sent ++ [(o, now)]) = s.stagesAfter sent := by
  by_cases fits : s.Fits o
  · have off : s.maxOrdersPerSecond ≠ 0 := fun off => h ⟨fits, fun on => absurd off on⟩
    have full : ¬(sent.countP fun e => s.Fits e.1) < s.maxOrdersPerSecond := fun room => h ⟨fits, fun _ => room⟩
    have throttled := check_throttle (s := s) (o := o) fresh
    rw [if_neg full] at throttled
    rw [stagesAfter, stagesAfter, passedOf_concat_of_fits fits, if_neg full, if_neg (by simpa using off)]
    exact ⟨nonempty_refusal [] (checkAll_quantityLimit fits now) throttled, rfl⟩
  · have stopped : ((Stage.quantityLimit s.maxOrderQuantity).check o now.toNanos).1 ≠ none :=
      fun passed => fits ((Stage.check_quantityLimit_eq_none_iff now.toNanos).mp passed)
    obtain ⟨veto, vetoed⟩ := Option.ne_none_iff_exists'.mp stopped
    have same : ((Stage.quantityLimit s.maxOrderQuantity).check o now.toNanos).2 = .quantityLimit s.maxOrderQuantity :=
      Stage.check_quantityLimit s.maxOrderQuantity o now.toNanos
    rw [stagesAfter, stagesAfter, passedOf_concat_of_not_fits fits]
    have asked_first : StageKind.checkAll o now.toNanos ([] : List Stage) = (none, []) := rfl
    exact ⟨nonempty_refusal _ asked_first (Prod.ext vetoed same), rfl⟩

end Fresh

end DeskSettings

/-! ## Orders one after the other -/

namespace Chain

variable {ρ σ : Type} [Router ρ]

/-- The chain after something was asked of it at a time. -/
def call [StageKind σ] (c : Chain ρ σ) : RouterCall × Instant → Chain ρ σ
  | (.send o, now) => (c.send o now).2
  | (.cancel orderId, _) => (c.cancel orderId).2
  | (.modify orderId quantity limitPrice, _) => (c.modify orderId quantity limitPrice).2
  | (.restore o, _) => c.restore o

/-- The chain after it was asked one thing after the other. -/
def calls [StageKind σ] (c : Chain ρ σ) (asked : List (RouterCall × Instant)) : Chain ρ σ := asked.foldl call c

theorem calls_concat [StageKind σ] (c : Chain ρ σ) (asked : List (RouterCall × Instant)) (last : RouterCall × Instant) :
    c.calls (asked ++ [last]) = (c.calls asked).call last :=
  List.foldl_concat ..

end Chain

/-- The orders that are sent among what is asked of a chain, with their times. -/
def sends (asked : List (RouterCall × Instant)) : List (Order × Instant) :=
  asked.filterMap fun
    | (.send o, now) => some (o, now)
    | _ => none

/-- Whether orders are sent within a second. -/
def WithinSecond (sent : List (Order × Instant)) : Prop :=
  sent.Pairwise fun e e' => e'.2.toNanos - e.2.toNanos < (DeskSettings.second : Int)

namespace Chain

variable {ρ : Type} [Router ρ] {s : DeskSettings} {sent : List (Order × Instant)} {o : Order} {now : Instant}
  {c : Chain ρ}

open DeskSettings

/-- An order that may be sent goes to the router. -/
theorem send_of_letsPass (stages : c.stages = s.stagesAfter sent)
    (fresh : ∀ e ∈ sent, now.toNanos - e.2.toNanos < second) (h : s.LetsPass sent o) :
    c.send o now = (⟨(Router.send o now c.router).1, false⟩,
      ⟨s.stagesAfter (sent ++ [(o, now)]), (Router.send o now c.router).2⟩) := by
  rw [send, stages, checkAll_of_letsPass fresh h]

/-- An order that may not be sent is rejected, and the chain stays as it is. -/
theorem send_of_refusal (r : Refusal c.stages o now) :
    c.send o now = (⟨.rejected (.ofOrder .locally o s!"{r.stage.name}: {r.veto.reason}" now), true⟩, c) := by
  have unasked := r.unasked r.back
  rw [← r.split] at unasked
  rw [send, unasked]

/-- The stages after an order was sent within a second. -/
theorem stages_send (stages : c.stages = s.stagesAfter sent)
    (fresh : ∀ e ∈ sent, now.toNanos - e.2.toNanos < second) :
    (c.send o now).2.stages = s.stagesAfter (sent ++ [(o, now)]) := by
  by_cases h : s.LetsPass sent o
  · rw [send_of_letsPass stages fresh h]
  · obtain ⟨⟨r⟩, same⟩ := refusal_of_not_letsPass fresh h
    rw [← stages] at r
    rw [send_of_refusal r, same]
    exact stages

/-- The stages of a chain that the settings ask for, after orders were sent within a second. Whatever else is asked of
the chain does not change them. -/
theorem stages_calls (router : ρ) {asked : List (RouterCall × Instant)} (h : WithinSecond (sends asked)) :
    ((ofSettings router s).calls asked).stages = s.stagesAfter (sends asked) := by
  induction asked using List.reverseRecOn with
  | nil => exact (stagesAfter_nil s).symm
  | append_singleton asked call ih =>
    rw [sends, List.filterMap_append, ← sends] at h ⊢
    have before := ih (List.pairwise_append.mp h).1
    rw [calls_concat]
    rcases call with ⟨call, now⟩
    cases call with
    | send o => exact stages_send before fun e he => (List.pairwise_append.mp h).2.2 e he (o, now) List.mem_cons_self
    | cancel orderId => exact before.trans (by simp)
    | modify orderId quantity limitPrice => exact before.trans (by simp)
    | restore o => exact before.trans (by simp)

/-- Whatever is asked of a chain that the settings ask for, with all orders sent within a second: an order goes to the
router, which gives the answer, exactly if it may be sent after the ones before it. Otherwise it is rejected with the
name and the reason of the first stage that refuses it, the stages behind that one are not asked, and the chain stays
as it is. -/
theorem sends_within_second (s : DeskSettings) (router : ρ) (earlier : List (RouterCall × Instant)) (o : Order)
    (now : Instant) (h : WithinSecond (sends earlier ++ [(o, now)])) :
    let c : Chain ρ := (ofSettings router s).calls earlier
    (s.LetsPass (sends earlier) o → (c.send o now).1 = ⟨(Router.send o now c.router).1, false⟩ ∧
      (c.send o now).2.router = (Router.send o now c.router).2) ∧
    (¬s.LetsPass (sends earlier) o → ∃ r : Refusal c.stages o now,
      c.send o now = (⟨.rejected (.ofOrder .locally o s!"{r.stage.name}: {r.veto.reason}" now), true⟩, c)) := by
  intro c
  obtain ⟨before, -, apart⟩ := List.pairwise_append.mp h
  have stages : c.stages = s.stagesAfter (sends earlier) := stages_calls router before
  have fresh : ∀ e ∈ sends earlier, now.toNanos - e.2.toNanos < second :=
    fun e he => apart e he (o, now) List.mem_cons_self
  constructor
  · intro lets
    rw [send_of_letsPass stages fresh lets]
    exact ⟨rfl, rfl⟩
  · intro stops
    obtain ⟨⟨r⟩, -⟩ := refusal_of_not_letsPass (s := s) fresh stops
    rw [← stages] at r
    exact ⟨r, send_of_refusal r⟩

/-- An order with too large a quantity, one whose quantity fits, and a cancel. -/
def exampleAsked : List (RouterCall × Instant) :=
  [(.send { Desk.fiveUnits with quantity := Desk.units 11 (by decide) }, .epoch), (.send Desk.fiveUnits, .epoch),
    (.cancel Desk.fiveUnits.orderId, .epoch)]

/-- Where one order of up to ten units may be sent in a second, the second one that fits is refused by the throttle. -/
theorem sends_within_second_exampleAsked :
    let s : DeskSettings := { maxOrderQuantity := Desk.units 10 (by decide), maxOrdersPerSecond := 1 }
    let c : Chain ScriptedRouter := (ofSettings {} s).calls exampleAsked
    WithinSecond (sends exampleAsked ++ [(Desk.fiveUnits, .epoch)]) ∧ ¬s.LetsPass (sends exampleAsked) Desk.fiveUnits ∧
      (∃ r : Refusal c.stages Desk.fiveUnits .epoch, c.send Desk.fiveUnits .epoch =
        (⟨.rejected (.ofOrder .locally Desk.fiveUnits s!"{r.stage.name}: {r.veto.reason}" .epoch), true⟩, c)) ∧
      c.router.calls = [.send Desk.fiveUnits, .cancel Desk.fiveUnits.orderId] ∧
      (c.send Desk.fiveUnits .epoch).1.outcome =
        .rejected (.ofOrder .locally Desk.fiveUnits "throttle: more than 1 orders within 1s" .epoch) := by
  intro s c
  have window : WithinSecond (sends exampleAsked ++ [(Desk.fiveUnits, .epoch)]) := by
    simp [WithinSecond, exampleAsked, sends, second, Instant.toNanos]
  have stops : ¬s.LetsPass (sends exampleAsked) Desk.fiveUnits := by decide +kernel
  have refused := (sends_within_second s ({} : ScriptedRouter) exampleAsked Desk.fiveUnits .epoch window).2 stops
  exact ⟨window, stops, refused, by decide +kernel, by decide +kernel⟩

end Chain

end Blotter
