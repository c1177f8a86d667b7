import Trackpad.Geometry.Point
import Trackpad.Input.Action
import Trackpad.Input.Mask
import Trackpad.Timing.Time

/-!
# Sample — one raw report of the pad

A sample is built in steps: `Sample.single` reports one contact and nothing held, and the `with…`
functions each replace one aspect. The reported count and the list of contacts are separate facts:
`withPointers` sets both, `withPointerCount` overrides the count alone, so a count may come without
positions to measure.
-/

namespace Trackpad

/-- One raw report of the pad. -/
structure Sample where
  /-- What happened. -/
  action : Action
  /-- The position of the first contact, or of the hovering finger. -/
  position : Point
  /-- The reported number of contacts. -/
  pointerCount : UInt8
  /-- The positions of the contacts, in pointer order. -/
  pointers : List Point
  /-- The buttons held. -/
  buttons : Buttons
  /-- The raw flags of the platform. -/
  flags : SampleFlags
  /-- When it was taken. -/
  time : Time
deriving DecidableEq

namespace Sample

/-- A report of one contact, with no button held and no flag set. -/
def single (action : Action) (position : Point) (time : Time) : Sample where
  action := action
  position := position
  pointerCount := 1
  pointers := [position]
  buttons := Mask.empty
  flags := Mask.empty
  time := time

/-- Replaces the contacts. The count follows the list up to the most it can hold, and the position
moves to the first contact if there is one. -/
def withPointers (s : Sample) (pointers : List Point) : Sample :=
  { s with
    pointers := pointers
    pointerCount := UInt8.ofNat (min pointers.length 255)
    position := pointers.headD s.position }

/-- Overrides the reported count and leaves the positions alone. -/
def withPointerCount (s : Sample) (count : UInt8) : Sample :=
  { s with pointerCount := count }

/-- Sets the buttons held. -/
def withButtons (s : Sample) (buttons : Buttons) : Sample :=
  { s with buttons := buttons }

/-- Sets the raw flags. -/
def withFlags (s : Sample) (flags : SampleFlags) : Sample :=
  { s with flags := flags }

/-- Whether the platform reported a two-finger contact. -/
def isTwoFinger (s : Sample) : Bool := s.flags.contains SampleFlags.twoFinger

/-- Whether the physical button is held. -/
def isPhysicalPress (s : Sample) : Bool := s.buttons.contains Buttons.primary

theorem pointerCount_withPointers (s : Sample) (ps : List Point) :
    (s.withPointers ps).pointerCount.toNat = min ps.length 255 := by
  simp only [withPointers, UInt8.toNat_ofNat']
  omega

end Sample

end Trackpad
