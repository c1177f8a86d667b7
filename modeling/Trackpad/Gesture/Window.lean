import Trackpad.Text.Layout
import Trackpad.Timing.Time

/-!
# Window — the time in which a tap may still become a drag

A tap arms the window. While it is armed, a hovering finger that moves turns the tap into a drag.
The deadline is what the tap expected; it is a timer that closes the window.
-/

namespace Trackpad

/-- The double-tap window. -/
inductive Window where
  /-- No tap is waiting. -/
  | idle
  /-- A tap is waiting and expects to until the deadline. -/
  | armed (deadline : Time)
deriving DecidableEq

namespace Window

/-- Whether a tap is waiting. -/
def isArmed : Window → Bool
  | idle => false
  | armed _ => true

/-- The expected end of the wait. -/
def deadline? : Window → Option Time
  | idle => none
  | armed deadline => some deadline

/-- The window in words. -/
def describe : Window → String
  | idle => "Idle"
  | armed deadline => Text.record "Armed" [("deadline", toString deadline)]

theorem isArmed_eq (w : Window) : w.isArmed = w.deadline?.isSome := by
  cases w <;> rfl

end Window

end Trackpad
