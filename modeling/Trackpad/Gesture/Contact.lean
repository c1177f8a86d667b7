import Trackpad.Gesture.Press

/-!
# Contact — what a gesture begins with

From rest, a finger near the pad begins hovering, and a contact begins the gesture that its kind
suggests. The kind is the one in the context, which the recognizer has just set for the sample.
-/

namespace Trackpad

variable {σ : Type} [Scheduler σ]

/-- A contact comes down at rest. -/
def Turn.beginContact (t : Turn σ) (s : Sample) : Turn σ :=
  let touched := t.update (·.touch s.position s.time)
  match t.context.kind with
  | .singleFinger => touched.transition .singleTapPending "single tap pending"
  | .twoFinger =>
    let entered := touched.transition .twoFingerTapPending "two-finger contact"
    let waiting := entered.update fun c =>
      { c with twoFingerTap := true, scroll := { c.scroll with anchor := s.position } }
    waiting.arm .twoFingerTapExpiry
  | .pinchZoom => touched.transition .pinchZoom "pinch started"
  | .physicalPress => touched.pressPad "physical press"
  | .unknown => touched

namespace Handler

/-- The handler at rest. -/
def idle : Handler σ where
  label := "idle"
  react s t :=
    match s.action with
    | .hoverEnter => (true, t.transition .hoverTracking "finger over pad")
    | .down => (true, t.beginContact s)
    | .buttonPress => (true, t.pressPad "physical press")
    | _ => (false, t)

end Handler

end Trackpad
