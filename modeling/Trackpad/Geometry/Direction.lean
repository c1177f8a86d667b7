/-!
# Direction — the axis a movement mostly follows

`Direction.dominant` reads a movement `(dx, dy)`. The horizontal axis needs a strictly larger
magnitude, so equal magnitudes, and magnitudes that cannot be compared, count as vertical. Along
an axis, what is not positive points up or left.
-/

namespace Trackpad

/-- The four directions of a scroll. -/
inductive Direction where
  /-- Negative `y`. -/
  | up
  /-- Positive `y`. -/
  | down
  /-- Negative `x`. -/
  | left
  /-- Positive `x`. -/
  | right
deriving DecidableEq

namespace Direction

/-- The direction a movement mostly follows; ties go to the vertical axis. -/
def dominant (dx dy : Float) : Direction :=
  if dy.abs < dx.abs then
    if 0 < dx then right else left
  else if 0 < dy then down else up

/-- Whether the direction lies on the horizontal axis. -/
def isHorizontal : Direction → Bool
  | left | right => true
  | up | down => false

/-- The direction as one word. -/
def title : Direction → String
  | up => "Up"
  | down => "Down"
  | left => "Left"
  | right => "Right"

/-- The horizontal axis is dominant exactly when its magnitude is the strictly larger one. -/
theorem isHorizontal_dominant {dx dy : Float} :
    (dominant dx dy).isHorizontal = decide (dy.abs < dx.abs) := by
  unfold dominant
  split
  · split <;> simp_all [isHorizontal]
  · split <;> simp_all [isHorizontal]

end Direction

end Trackpad
