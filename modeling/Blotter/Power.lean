/-!
# Powers of ten and two

The scales that decimals, fractions of a second and binary numbers are measured in.
-/

namespace Blotter

/-- The power of ten with `n` zeros. -/
def tenTo (n : Nat) : Nat := Nat.pow 10 n

/-- The power of two with `n` zeros in binary. -/
def twoTo (n : Nat) : Nat := Nat.pow 2 n

theorem tenTo_succ (n : Nat) : tenTo (n + 1) = tenTo n * 10 := rfl

theorem tenTo_pos (n : Nat) : 0 < tenTo n := Nat.pow_pos (by decide)

end Blotter
