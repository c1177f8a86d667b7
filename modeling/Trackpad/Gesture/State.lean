/-!
# State — where a gesture stands

The eight primary states of recognition. That a double tap may follow is not a state: it is the
`Window` kept beside it.
-/

namespace Trackpad

/-- The primary state of recognition. -/
inductive State where
  /-- At rest between gestures. -/
  | idle
  /-- A finger hovers and the cursor follows. -/
  | hoverTracking
  /-- One contact is down and may become a tap. -/
  | singleTapPending
  /-- The left button is held and the cursor drags. -/
  | dragActive
  /-- Two fingers are down and may become a right click. -/
  | twoFingerTapPending
  /-- Two moving fingers turn the wheel. -/
  | twoFingerScroll
  /-- Two contacts zoom. -/
  | pinchZoom
  /-- The physical button is held. -/
  | physicalClick
deriving DecidableEq

namespace State

/-- Every state, in declaration order. -/
def all : List State :=
  [idle, hoverTracking, singleTapPending, dragActive, twoFingerTapPending, twoFingerScroll,
    pinchZoom, physicalClick]

/-- The short name that the log and the debug history write. -/
def name : State → String
  | idle => "IDLE"
  | hoverTracking => "HOVER_TRACKING"
  | singleTapPending => "SINGLE_TAP_PENDING"
  | dragActive => "DRAG_ACTIVE"
  | twoFingerTapPending => "TWO_FINGER_TAP_PENDING"
  | twoFingerScroll => "TWO_FINGER_SCROLL"
  | pinchZoom => "PINCH_ZOOM"
  | physicalClick => "PHYSICAL_CLICK"

/-- The state as one word. -/
def title : State → String
  | idle => "Idle"
  | hoverTracking => "HoverTracking"
  | singleTapPending => "SingleTapPending"
  | dragActive => "DragActive"
  | twoFingerTapPending => "TwoFingerTapPending"
  | twoFingerScroll => "TwoFingerScroll"
  | pinchZoom => "PinchZoom"
  | physicalClick => "PhysicalClick"

theorem mem_all (s : State) : s ∈ all := by
  cases s <;> decide

/-- The short names tell the states apart. -/
theorem name_injective {s t : State} (h : s.name = t.name) : s = t := by
  cases s <;> cases t <;> simp_all [name]

end State

end Trackpad
