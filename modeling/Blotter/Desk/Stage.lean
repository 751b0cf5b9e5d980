import Blotter.Decimal.Text
import Blotter.Order
import Blotter.Settings.Basic
import Blotter.Text.Duration

/-!
# Stages

A stage looks at a new order before it leaves and may refuse it. What it looks at is its own business (`StageKind`);
the stages that settings can ask for (`Stage`) refuse an order because of its quantity, or because too many orders have
passed within a window of time.
-/

namespace Blotter

/-- Checks of new orders with states of type `σ`. -/
class StageKind (σ : Type) where
  name : σ → String
  /-- Checks an order at a time in nanoseconds: why it is refused, if it is, and the stage afterwards. -/
  check : σ → Order → Int → Option String × σ

namespace StageKind

/-- A stage of either of two kinds. -/
instance {σ σ' : Type} [StageKind σ] [StageKind σ'] : StageKind (σ ⊕ σ') where
  name := Sum.elim name name
  check
    | .inl s, o, now => (check s o now).map id .inl
    | .inr s, o, now => (check s o now).map id .inr

variable {σ : Type} [StageKind σ]

/-- Why a stage refuses an order and the name of the stage, as the reason of a reject. -/
def rejectReason (s : σ) (reason : String) : String := s!"{name s}: {reason}"

/-- Checks an order with one stage after the other, up to the first that refuses it: the reason of the reject, if there
is one, and the stages afterwards. -/
def checkAll (o : Order) (now : Int) : List σ → Option String × List σ
  | [] => (none, [])
  | s :: rest =>
    match check s o now with
    | (some reason, s) => (some (rejectReason s reason), s :: rest)
    | (none, s) =>
      let (reason, rest) := checkAll o now rest
      (reason, s :: rest)

end StageKind

/-- A check of new orders that settings can ask for. -/
inductive Stage where
  /-- Quantities have to be positive and not above a limit. -/
  | quantityLimit (most : Decimal)
  /-- At most `most` orders pass within a window of so many nanoseconds; `passed` are the times of those that count. -/
  | throttle (most window : Nat) (passed : List Int)
deriving DecidableEq

/-- Why a stage refuses an order. -/
inductive Veto where
  | notPositive (quantity : Decimal)
  | aboveLimit (quantity limit : Decimal)
  | tooMany (most window : Nat)
deriving DecidableEq

/-- The words that say why a stage refuses an order. -/
def Veto.reason : Veto → String
  | .notPositive quantity => s!"quantity {quantity.text} must be positive"
  | .aboveLimit quantity limit => s!"quantity {quantity.text} exceeds limit {limit.text}"
  | .tooMany most window => s!"more than {most} orders within {Duration.text window}"

namespace Stage

/-- A throttle that no order has passed yet. -/
def newThrottle (most window : Nat) : Stage := .throttle most window []

/-- A throttle with a window of a second. -/
def perSecond (most : Nat) : Stage := newThrottle most 1000000000

/-- The name of a stage. -/
def name : Stage → String
  | .quantityLimit _ => "quantity_limit"
  | .throttle _ _ _ => "throttle"

/-- The times that still count at time `now`. The times are in order. -/
def recent (window : Nat) (now : Int) (passed : List Int) : List Int := passed.dropWhile fun t => window ≤ now - t

/-- Checks an order at a time in nanoseconds: the veto, if there is one, and the stage afterwards. -/
def check (s : Stage) (o : Order) (now : Int) : Option Veto × Stage :=
  match s with
  | .quantityLimit most =>
    if o.quantity.le .zero then (some (.notPositive o.quantity), s)
    else if most.lt o.quantity then (some (.aboveLimit o.quantity most), s)
    else (none, s)
  | .throttle most window passed =>
    let passed := recent window now passed
    if most ≤ passed.length then (some (.tooMany most window), .throttle most window passed)
    else (none, .throttle most window (passed ++ [now]))

/-- The stages that the settings ask for: the quantity limit, and the throttle unless it is switched off. -/
def ofSettings (s : DeskSettings) : List Stage :=
  .quantityLimit s.maxOrderQuantity :: if s.maxOrdersPerSecond == 0 then [] else [.perSecond s.maxOrdersPerSecond]

instance : StageKind Stage where
  name := name
  check s o now := (s.check o now).map (·.map Veto.reason) id

end Stage

end Blotter
