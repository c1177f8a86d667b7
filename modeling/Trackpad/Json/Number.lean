import Trackpad.Json.Parser

/-!
# Number — what a numeral stands for

`Numeral.natural?` takes plain digits only, below a bound. `Numeral.toFloat?` takes every numeral
and rounds once, to the nearest float. A number that rounds past the largest float is refused.

The point half way between two floats has at most 768 digits, so that many digits decide how a
number is rounded, together with whether more come after them. Any more count as a little more than
nothing, even where they are zeros before the point. Zeros that end the places after the point are
not counted as digits at all.
-/

namespace Trackpad.Json.Numeral

/-- The number, if it is written with digits alone and is below `bound`. -/
def natural? (n : Numeral) (bound : Nat) : Option Nat :=
  if n.negative || n.fraction.isSome || n.exponent.isSome then none
  else
    let value := natOfDigits n.whole
    if value < bound then some value else none

/-- The digits after the point, without the zeros at their end. -/
def places (n : Numeral) : List Nat :=
  ((n.fraction.getD []).reverse.dropWhile (· == 0)).reverse

/-- The digits from the first that is not zero, the point left out. -/
def significant (n : Numeral) : List Nat := (n.whole ++ n.places).dropWhile (· == 0)

/-- The power of ten that the last of the significant digits counts. -/
def power (n : Numeral) : Int := n.exponent.getD 0 - n.places.length

/-- How many digits are told apart from one another. -/
def decisive : Nat := 768

/-- A whole number and a power of ten that round as the numeral does: its digits, where a single one
stands for all that come after the decisive ones. -/
def rounded (n : Numeral) : Nat × Int :=
  let ds := n.significant
  if ds.length ≤ decisive then (natOfDigits ds, n.power)
  else (natOfDigits (ds.take decisive ++ [1]), n.power + (ds.length - (decisive + 1) : Nat))

/-- The float nearest to what a numeral denotes, unless its magnitude rounds to infinity. The sign
comes last, so that a negative zero keeps it. -/
def toFloat? (n : Numeral) : Option Float :=
  let r := n.rounded
  let magnitude := Float.ofScientific r.1 (r.2 < 0) r.2.natAbs
  if magnitude.isInf then none else some (if n.negative then -magnitude else magnitude)

/-- What is read as a natural number is below the bound. -/
theorem lt_of_natural? {n : Numeral} {bound value : Nat} (h : n.natural? bound = some value) :
    value < bound := by
  unfold natural? at h
  split at h
  · simp at h
  · simp only [Option.ite_none_right_eq_some, Option.some.injEq] at h
    omega

end Trackpad.Json.Numeral
