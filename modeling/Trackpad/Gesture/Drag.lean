import Trackpad.Gesture.Handler

/-!
# Drag — a hovering finger, with and without the button

A hovering finger moves the cursor. If a tap is still waiting when it moves, the left button goes
down and the movement drags: the tap's click and the end of its window are dropped. The drag lasts
while movement keeps coming; every movement arms the timeout anew, and any other sample, or the
timeout, lets the button go.
-/

namespace Trackpad

variable {σ : Type} [Scheduler σ]

/-- A waiting tap becomes a drag. -/
def Turn.beginDrag (t : Turn σ) (s : Sample) : Turn σ :=
  let closed := t.update fun c => { c with window := .idle }
  let cleared := (closed.disarm .doubleTapExpiry).disarm .delayedClick
  let dragging := cleared.transition .dragActive "tap then move"
  ((dragging.emit (.press .left)).emit (.move s.position true)).arm .dragTimeout

/-- The drag ends: the button comes up and the finger hovers on. -/
def Turn.endDrag (t : Turn σ) (reason : String) : Turn σ :=
  let released := (t.disarm .dragTimeout).emit (.release .left)
  let closed := released.update fun c => { c with window := .idle }
  closed.transition .hoverTracking reason

/-- No movement came in time; true if a drag ends by it. -/
def Turn.onDragTimeout (t : Turn σ) : Bool × Turn σ :=
  if t.state = .dragActive then (true, t.endDrag "drag timeout") else (false, t)

namespace Handler

/-- The handler while a finger hovers. -/
def hover : Handler σ where
  label := "hover"
  react s t :=
    match s.action with
    | .hoverMove =>
      if t.context.window.isArmed then (true, t.beginDrag s)
      else (true, t.emit (.move s.position false))
    | .hoverExit =>
      let left := t.update fun c => { c with startPosition := s.position }
      (true, left.transition .idle "finger left pad")
    | _ => (false, t)

/-- The handler during a drag. The sample that ends it is left for others. -/
def drag : Handler σ where
  label := "drag"
  react s t :=
    if s.action = .hoverMove then (true, (t.emit (.move s.position true)).arm .dragTimeout)
    else (false, t.endDrag s.action.name)

end Handler

end Trackpad
