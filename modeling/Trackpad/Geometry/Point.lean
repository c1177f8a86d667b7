import Trackpad.Decimal.Style

/-!
# Point — positions on the pad

Positions are pairs of floats in sample coordinates. Two measurements are taken between them:

* `Point.distance`, the square root of the sum of the squared differences, computed in this order
  and without rescaling, so it overflows to infinity and underflows to zero with its squares;
* `Point.isBeyond`, the test that tells intended motion from jitter. It is strict: a movement of
  exactly the slop is still jitter, and nothing is beyond an undefined distance.
-/

namespace Trackpad

/-- A position in sample coordinates. -/
structure Point where
  x : Float
  y : Float
deriving DecidableEq

namespace Point

/-- The position a fresh gesture starts from. -/
def origin : Point := ⟨0, 0⟩

/-- The Euclidean distance, by way of the plain sum of squares. -/
def distance (p q : Point) : Float :=
  let dx := p.x - q.x
  let dy := p.y - q.y
  Float.sqrt (dx * dx + dy * dy)

/-- Whether the way from `p` to `q` is longer than `slop`. -/
def isBeyond (p q : Point) (slop : Float) : Bool :=
  decide (slop < p.distance q)

/-- A position in words. -/
def describe (p : Point) : String :=
  "(" ++ Decimal.Style.described.write p.x ++ ", " ++ Decimal.Style.described.write p.y ++ ")"

theorem isBeyond_iff {p q : Point} {slop : Float} :
    p.isBeyond q slop = true ↔ slop < p.distance q := by
  simp [isBeyond]

end Point

end Trackpad
