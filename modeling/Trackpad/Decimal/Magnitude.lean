/-!
# Magnitude — a finite float as an exact number

`Magnitude.ofFloat` reads the stored word of a float. What the sign and the special words mean is
left to the callers: for every finite `x`, the magnitude of `x` is exactly
`significand * 2 ^ exponent`.

The reals that round to a float reach half way to its neighbours. Above a power of two the
neighbours are one unit of the last place away on both sides, but just at a power of two the lower
neighbour is only half a unit away (`narrowBelow`), unless it is among the smallest floats, which
are evenly spaced.
-/

namespace Trackpad.Decimal

/-- An exact nonnegative number `significand * 2 ^ exponent`, as a float stores it. -/
structure Magnitude where
  significand : Nat
  exponent : Int
  /-- The next float below is only half a unit of the last place away. -/
  narrowBelow : Bool
deriving DecidableEq

namespace Magnitude

/-- The magnitude that a float's word stores. -/
def ofFloat (x : Float) : Magnitude :=
  let word : Nat := x.toBits.toNat % 0x8000000000000000
  let field : Nat := word / 0x10000000000000
  let fraction : Nat := word % 0x10000000000000
  if field = 0 then ⟨fraction, -1074, false⟩
  else ⟨0x10000000000000 + fraction, (field : Int) - 1075, fraction == 0 && 1 < field⟩

/-- The magnitude times `10 ^ power`, as a fraction of natural numbers. -/
def scaled (v : Magnitude) (power : Int) : Nat × Nat :=
  (v.significand * Nat.pow 2 v.exponent.toNat * Nat.pow 10 power.toNat,
    Nat.pow 2 (-v.exponent).toNat * Nat.pow 10 (-power).toNat)

theorem scaled_denominator_pos (v : Magnitude) (power : Int) : 0 < (v.scaled power).2 :=
  Nat.mul_pos (Nat.pow_pos (by decide)) (Nat.pow_pos (by decide))

end Magnitude

/-- Whether the sign bit of a float is set; it is for `-0.0`. -/
def isNegative (x : Float) : Bool := 0x8000000000000000 ≤ x.toBits.toNat

end Trackpad.Decimal
