import Blotter.Decimal.Arithmetic

/-!
# Failures

An operation that calculates with decimals fails in one of two ways: it reports an error of its own, or a result is
larger than every decimal, which ends everything that is under way.
-/

namespace Blotter

/-- How an operation fails. -/
inductive Failure (ε : Type) where
  /-- The operation reports an error. -/
  | reported (error : ε)
  /-- A decimal operation has no result. -/
  | overflow (cause : Overflow)
deriving DecidableEq

namespace Failure

variable {ε ε' α : Type}

/-- The failure with another error. -/
def map (f : ε → ε') : Failure ε → Failure ε'
  | .reported e => .reported (f e)
  | .overflow o => .overflow o

/-- A result with a reported error, as a result that may fail in both ways. -/
def ofReported : Except ε α → Except (Failure ε) α
  | .ok a => .ok a
  | .error e => .error (.reported e)

/-- A result that may be too large, as a result that may fail in both ways. -/
def ofOverflow : Except Overflow α → Except (Failure ε) α
  | .ok a => .ok a
  | .error o => .error (.overflow o)

end Failure

end Blotter
