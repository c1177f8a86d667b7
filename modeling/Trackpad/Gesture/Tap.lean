import Trackpad.Gesture.Handler

/-!
# Tap — one finger down and up again

A tap does not click at once. Lifting the finger within the slop arms the double-tap window and
postpones a left click; if the finger comes back and moves above the pad before that, the tap
becomes a drag and does not click. A contact that moves beyond the slop is no tap.
-/

namespace Trackpad

variable {σ : Type} [Scheduler σ]

/-- A tap is accepted: the window opens, and the click and the end of the window are scheduled. -/
def Turn.acceptTap (t : Turn σ) (s : Sample) : Turn σ :=
  let waiting := t.update fun c =>
    { c with
      lastTapTime := s.time
      window := .armed (s.time.plus Slot.doubleTapExpiry.delayMillis) }
  ((waiting.arm .delayedClick).arm .doubleTapExpiry).transition .idle "tap"

omit [Scheduler σ] in
/-- The postponed click comes due. It is dropped if the window has closed or a drag has begun;
true if it goes out. -/
def Turn.onDelayedClick (t : Turn σ) : Bool × Turn σ :=
  if t.context.window.isArmed = false ∨ t.state = .dragActive then (false, t)
  else (true, t.emit (.click .left))

omit [Scheduler σ] in
/-- The double-tap window runs out; true if it was still open. -/
def Turn.onDoubleTapExpiry (t : Turn σ) : Bool × Turn σ :=
  if t.context.window.isArmed then (true, t.update fun c => { c with window := .idle })
  else (false, t)

namespace Handler

/-- The handler while one contact may become a tap. -/
def tap : Handler σ where
  label := "tap"
  react s t :=
    match s.action with
    | .up =>
      if t.context.startPosition.distance s.position < t.slop then (true, t.acceptTap s)
      else (true, t.transition .idle "release after slide")
    | .move =>
      if t.context.startPosition.isBeyond s.position t.slop then
        (true, t.transition .idle "moved beyond slop")
      else (true, t)
    | .cancel => (true, t.transition .idle "cancel")
    | _ => (false, t)

end Handler

end Trackpad
