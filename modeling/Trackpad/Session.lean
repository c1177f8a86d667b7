import Trackpad.Input.Sample

/-!
# Session — a scripted stream of samples

A stream that makes every gesture once, for trying a recognizer out. Its times are in milliseconds
from the start and never go back.
-/

namespace Trackpad.Session

/-- A sample of one contact. -/
def contact (action : Action) (x y : Float) (time : Time) : Sample :=
  .single action ⟨x, y⟩ time

/-- A sample with the two-finger flag. -/
def twoFingers (action : Action) (x y : Float) (time : Time) : Sample :=
  (contact action x y time).withFlags SampleFlags.twoFinger

/-- A sample of two contacts that lie `width` apart. -/
def spread (action : Action) (width : Float) (time : Time) : Sample :=
  (contact action 100 100 time).withPointers [⟨100, 100⟩, ⟨100 + width, 100⟩]

/-- A tap, which clicks once its window has passed. -/
def tap : List Sample :=
  [contact .down 50 50 0,
    contact .up 51 50 45]

/-- A tap whose finger comes back and moves at once: a drag. -/
def drag : List Sample :=
  [contact .down 60 60 500,
    contact .up 60 60 540,
    contact .hoverEnter 60 60 570,
    contact .hoverMove 70 62 590,
    contact .hoverMove 82 64 650,
    contact .hoverExit 82 64 1000]

/-- Two fingers that tap: a right click. -/
def rightClick : List Sample :=
  [twoFingers .down 120 80 1500,
    twoFingers .up 121 80 1560]

/-- Two fingers that scroll down and then sideways. -/
def scroll : List Sample :=
  [twoFingers .down 120 80 2000,
    twoFingers .move 120 100 2030,
    twoFingers .move 120 130 2060,
    twoFingers .move 150 132 2090,
    twoFingers .up 150 132 2120]

/-- Two contacts that spread and close again. -/
def pinch : List Sample :=
  [contact .down 100 100 3000,
    spread .pointerDown 80 3010,
    spread .move 100 3040,
    spread .move 130 3070,
    spread .move 90 3100,
    (contact .pointerUp 100 100 3130).withPointerCount 1]

/-- A press of the pad with a short drag. -/
def press : List Sample :=
  [(contact .buttonPress 40 40 4000).withButtons Buttons.primary,
    (contact .move 48 44 4050).withButtons Buttons.primary,
    contact .buttonRelease 48 44 4100]

/-- Every gesture once. -/
def samples : List Sample := tap ++ drag ++ rightClick ++ scroll ++ pinch ++ press

end Trackpad.Session
