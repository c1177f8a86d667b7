import Trackpad.Decimal.Magnitude
import Trackpad.Decimal.Rounding

/-!
# Shortest — the fewest digits that read back

`Shortest.ofFloat` is the decimal number with the fewest digits among those that a correctly
rounding reader takes for the given float, and of those the nearest one. Seventeen digits always
suffice, so the search is over grids of one to seventeen digits. On each grid only the two points
next to the exact value need a test: if any point of the grid reads back, one of these two does.
-/

namespace Trackpad.Decimal

/-- The decimal number `digits * 10 ^ power`. -/
structure Expansion where
  digits : Nat
  power : Int
deriving DecidableEq

namespace Expansion

/-- How many digits a number is written with. -/
def width (n : Nat) : Nat := (Nat.toDigits 10 n).length

/-- The power of ten that the leading digit counts. -/
def leadingPower (d : Expansion) : Int := d.power + width d.digits - 1

/-- Drops zeros at the end, at most `fuel` of them. -/
def dropZeros : Nat → Expansion → Expansion
  | 0, d => d
  | fuel + 1, d =>
    if d.digits ≠ 0 ∧ d.digits % 10 = 0 then dropZeros fuel ⟨d.digits / 10, d.power + 1⟩ else d

/-- The same number without zeros at the end of its digits. -/
def normal (d : Expansion) : Expansion := dropZeros (width d.digits) d

end Expansion

namespace Shortest

/-- Whether `digits * 10 ^ power` is read as `v`: it lies between the points half way to the two
neighbouring floats, and these points count as well if the significand is even. All of it is
compared in quarters of the last place, as whole numbers. -/
def readsBack (v : Magnitude) (digits : Nat) (power : Int) : Bool :=
  let unit := Nat.pow 2 (v.exponent - 2).toNat * Nat.pow 10 (-power).toNat
  let candidate := digits * Nat.pow 10 power.toNat * Nat.pow 2 (2 - v.exponent).toNat
  let low := (4 * v.significand - if v.narrowBelow then 1 else 2) * unit
  let high := (4 * v.significand + 2) * unit
  if v.significand % 2 = 0 then low ≤ candidate && candidate ≤ high
  else low < candidate && candidate < high

/-- The point of the grid of multiples of `10 ^ power` that reads back and is nearest to `v`, if
there is one. -/
def onGrid? (tie : Tie) (v : Magnitude) (power : Int) : Option Expansion :=
  let f := v.scaled (-power)
  let below := f.1 / f.2
  let upper := tie.takesUpper below (compare (2 * (f.1 % f.2)) f.2)
  match readsBack v below power, readsBack v (below + 1) power with
  | true, true => some ⟨if upper then below + 1 else below, power⟩
  | true, false => some ⟨below, power⟩
  | false, true => some ⟨below + 1, power⟩
  | false, false => none

/-- The power of ten just above `v`: it is below `10 ^ scale v` and not below a tenth of that. The
whole part of `v * 10 ^ 324` has a digit to count, because no float but zero is below `10 ^ -324`. -/
def scale (v : Magnitude) : Int :=
  let f := v.scaled 324
  (Expansion.width (f.1 / f.2) : Int) - 324

/-- The first grid, from `digits` digits on, that holds a point which reads back. -/
def search (tie : Tie) (v : Magnitude) (scale : Int) : Nat → Nat → Expansion
  | 0, digits => (onGrid? tie v (scale - digits)).getD ⟨0, 0⟩
  | fuel + 1, digits =>
    match onGrid? tie v (scale - digits) with
    | some d => d
    | none => search tie v scale fuel (digits + 1)

/-- The fewest digits that read back as the magnitude `v`, and of those the nearest. -/
def ofMagnitude (tie : Tie) (v : Magnitude) : Expansion :=
  if v.significand = 0 then ⟨0, 0⟩ else (search tie v (scale v) 16 1).normal

/-- The fewest digits that read back as the magnitude of `x`, and of those the nearest. -/
def ofFloat (tie : Tie) (x : Float) : Expansion := ofMagnitude tie (Magnitude.ofFloat x)

end Shortest

end Trackpad.Decimal
