import Trackpad.Geometry.Point
import Trackpad.Text.Layout

/-!
# Command — what the pointer is told to do

The commands that recognition ends in. A command is a value; delivering it to a receiver is the
business of `Trackpad.Output.Sink`.
-/

namespace Trackpad

/-- A button of the pointer. -/
inductive MouseButton where
  | left
  | right
  | middle
deriving DecidableEq

/-- The button as one word. -/
def MouseButton.title : MouseButton → String
  | left => "Left"
  | right => "Right"
  | middle => "Middle"

/-- One thing the pointer is told to do. -/
inductive Command where
  /-- Move to a position; `drag` tells that the gesture holds a button meanwhile. -/
  | move (position : Point) (drag : Bool)
  /-- Press a button and let it go. -/
  | click (button : MouseButton)
  /-- Press a button and hold it. -/
  | press (button : MouseButton)
  /-- Let a held button go. -/
  | release (button : MouseButton)
  /-- Turn the wheel. -/
  | scroll (dx dy : Float)
  /-- Turn the wheel with Shift held, which scrolls sideways. -/
  | scrollWithShift (dx dy : Float)
  /-- Turn the wheel with Ctrl held, which zooms. -/
  | scrollWithCtrl (dx dy : Float)
deriving DecidableEq

namespace Command

/-- The fields of a wheel command in words. -/
def describeDelta (name : String) (dx dy : Float) : String :=
  Text.record name
    [("dx", Decimal.Style.described.write dx), ("dy", Decimal.Style.described.write dy)]

/-- The command in words. -/
def describe : Command → String
  | move position drag =>
    Text.record "Move" [("position", position.describe), ("drag", Text.truth drag)]
  | click button => Text.wrapped "Click" button.title
  | press button => Text.wrapped "Press" button.title
  | release button => Text.wrapped "Release" button.title
  | scroll dx dy => describeDelta "Scroll" dx dy
  | scrollWithShift dx dy => describeDelta "ScrollWithShift" dx dy
  | scrollWithCtrl dx dy => describeDelta "ScrollWithCtrl" dx dy

end Command

end Trackpad
