import Trackpad.Geometry.Direction
import Trackpad.Gesture.Handler

/-!
# Scroll — two fingers that tap or turn the wheel

Two fingers that come down and up again in place, in time, are a right click. The time only decides
about the click: two fingers that move scroll, however late. Each movement scrolls by the way from
the anchor, scaled, along the axis that is dominant, and then moves the anchor.
-/

namespace Trackpad

/-- How far the wheel turns for a movement of one. -/
def scrollSensitivity : Float := 0.6

variable {σ : Type}

/-- Scrolls by the way from the anchor to the sample and moves the anchor there. -/
def Turn.scrollTo (t : Turn σ) (s : Sample) : Turn σ :=
  let anchor := t.context.scroll.anchor
  let dx := (anchor.x - s.position.x) * scrollSensitivity
  let dy := (anchor.y - s.position.y) * scrollSensitivity
  if (Direction.dominant dx dy).isHorizontal then
    (t.emit (.scrollWithShift dx 0)).update fun c =>
      { c with
        scroll :=
          { c.scroll with anchor := s.position, totalX := c.scroll.totalX + dx, started := true } }
  else
    (t.emit (.scroll 0 dy)).update fun c =>
      { c with
        scroll :=
          { c.scroll with anchor := s.position, totalY := c.scroll.totalY + dy, started := true } }

/-- The time for a two-finger tap is over; true if there was one to wait for. -/
def Turn.onTwoFingerTapExpiry (t : Turn σ) : Bool × Turn σ :=
  (t.context.twoFingerTap, t.update fun c => { c with twoFingerTap := false })

variable [Scheduler σ]

/-- Lifting the fingers is no tap any more. -/
def Turn.dropTwoFingerTap (t : Turn σ) : Turn σ :=
  (t.update fun c => { c with twoFingerTap := false }).disarm .twoFingerTapExpiry

/-- Two fingers are lifted: a right click, if they were in time and in place. -/
def Turn.liftTwoFingers (t : Turn σ) (s : Sample) : Turn σ :=
  let clicks := t.context.twoFingerTap = true ∧
    t.context.scroll.anchor.distance s.position < t.slop
  let answered := if clicks then t.emit (.click .right) else t
  answered.dropTwoFingerTap.transition .idle "two-finger release"

namespace Handler

/-- The handler while two fingers may become a tap. The platform cancels the stream of the first
contact when the second comes down, so a cancel begins the scroll. -/
def twoFinger : Handler σ where
  label := "two-finger"
  react s t :=
    match s.action with
    | .up => (true, t.liftTwoFingers s)
    | .move =>
      let moving := t.dropTwoFingerTap.transition .twoFingerScroll "two-finger move"
      (true, moving.scrollTo s)
    | .cancel =>
      let expected := t.update fun c => { c with expectCancel := false }
      (true, expected.transition .twoFingerScroll "expected cancel")
    | _ => (false, t)

omit [Scheduler σ] in
/-- The handler while two fingers scroll. -/
def scroll : Handler σ where
  label := "scroll"
  react s t :=
    match s.action with
    | .move => (true, t.scrollTo s)
    | .up => (true, t.transition .idle "scroll finished")
    | .cancel => (true, t)
    | _ => (false, t)

end Handler

end Trackpad
