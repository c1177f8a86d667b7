import Trackpad.Decimal.Style
import Trackpad.Gesture.Handler

/-!
# Pinch — two contacts that zoom

The first movement of two contacts sets a baseline, the distance between them, unless the second
contact has set it by coming down. A later movement whose distance differs from the baseline by
more than the slop zooms by one step, in if the contacts spread and out if they close, and becomes
the new baseline.
-/

namespace Trackpad

variable {σ : Type}

/-- A second contact comes down: the pinch begins, with the distance it comes down at. -/
def Turn.beginPinch (t : Turn σ) (s : Sample) : Turn σ :=
  let entered := t.transition .pinchZoom "second contact"
  let based := entered.update fun c =>
    { c with pinch := { c.pinch with baseline := s.contactDistance } }
  based.note ("pinch baseline " ++ Decimal.writeTenths s.contactDistance)

/-- Two contacts move. -/
def Turn.pinchTo (t : Turn σ) (s : Sample) : Turn σ :=
  let distance := s.contactDistance
  let baseline := t.context.pinch.baseline
  if baseline == 0 then
    t.update fun c => { c with pinch := ⟨distance, distance, true⟩ }
  else
    let change := distance - baseline
    if t.slop < change.abs then
      let zoomed := t.emit (.scrollWithCtrl 0 (if 0 < change then -1 else 1))
      zoomed.update fun c =>
        { c with pinch := { c.pinch with baseline := distance, last := distance } }
    else
      t.update fun c => { c with pinch := { c.pinch with last := distance } }

/-- The pinch ends and its baseline is forgotten. -/
def Turn.endPinch (t : Turn σ) (reason : String) : Turn σ :=
  (t.update (·.clearPinch)).transition .idle reason

namespace Handler

/-- The handler during a pinch. -/
def pinch : Handler σ where
  label := "pinch"
  react s t :=
    match s.action with
    | .move => if s.pointerCount < 2 then (false, t) else (true, t.pinchTo s)
    | .pointerUp => if s.pointerCount ≤ 1 then (true, t.endPinch "contact lifted") else (true, t)
    | .up | .cancel => (true, t.endPinch s.action.name)
    | _ => (false, t)

end Handler

end Trackpad
