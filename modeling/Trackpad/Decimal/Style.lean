import Trackpad.Decimal.Shortest

/-!
# Style — how a float is written out

A `Style` decides what the digits leave open: which magnitudes are written positionally and which
with an exponent, whether a whole number keeps `.0`, whether a positive exponent has a sign, and
which way a tie between two equally near shortest forms goes. `Style.write` writes a float in a style; `writeTenths` writes one with exactly
one place after the point.
-/

namespace Trackpad.Decimal

/-- The decisions that a way of writing floats makes. -/
structure Style where
  /-- Whether a number whose leading digit counts this power of ten is written positionally. -/
  positional : Int → Bool
  /-- Whether a positional whole number ends in `.0`. -/
  pointZero : Bool
  /-- Whether a positive exponent is written with a plus sign. -/
  plusSign : Bool
  /-- Which of two equally near shortest forms is taken. -/
  tie : Tie

namespace Style

/-- Always positional, whole numbers bare. -/
def plain : Style := ⟨fun _ => true, false, false, .up⟩

/-- Positional for magnitudes from `10 ^ -4` up to `10 ^ 16`. -/
def described : Style := ⟨fun p => -4 ≤ p && p ≤ 15, true, false, .up⟩

/-- Positional for magnitudes from `10 ^ -5` up to `10 ^ 16`; exponents have their sign and ties go
to the even digit. -/
def stored : Style := ⟨fun p => -5 ≤ p && p ≤ 15, true, true, .even⟩

/-- The digits of `d` with the point in its place. -/
def positionalText (style : Style) (d : Expansion) : String :=
  let digits := Nat.repr d.digits
  if 0 ≤ d.power then
    digits ++ "".pushn '0' d.power.toNat ++ if style.pointZero then ".0" else ""
  else
    let places := (-d.power).toNat
    let padded := ("".pushn '0' (places + 1 - digits.length) ++ digits).toList
    String.ofList (padded.take (padded.length - places)) ++ "." ++
      String.ofList (padded.drop (padded.length - places))

/-- One digit, the others after a point if there are any, and the power of ten. -/
def exponentText (style : Style) (d : Expansion) : String :=
  let digits := (Nat.repr d.digits).toList
  let rest := digits.drop 1
  String.ofList (digits.take 1) ++ (if rest.isEmpty then "" else "." ++ String.ofList rest) ++
    "e" ++ (if style.plusSign && 0 < d.leadingPower then "+" else "") ++ toString d.leadingPower

/-- The sign and the text of a float that is a number, or the name of one that is not. -/
def write (style : Style) (x : Float) : String :=
  if x.isNaN then "NaN"
  else
    let sign := if isNegative x then "-" else ""
    if x.isInf then sign ++ "inf"
    else
      let d := Shortest.ofFloat style.tie x
      sign ++ if d.digits == 0 || style.positional d.leadingPower then style.positionalText d
        else style.exponentText d

end Style

/-- The float with one place after the point, rounded from its exact value; a tie goes to the even
digit. -/
def writeTenths (x : Float) : String :=
  if x.isNaN then "NaN"
  else
    let sign := if isNegative x then "-" else ""
    if x.isInf then sign ++ "inf"
    else
      let f := (Magnitude.ofFloat x).scaled 1
      let tenths := roundDiv f.1 f.2 .even
      sign ++ Nat.repr (tenths / 10) ++ "." ++ Nat.repr (tenths % 10)

end Trackpad.Decimal
