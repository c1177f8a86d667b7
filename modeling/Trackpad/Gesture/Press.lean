import Trackpad.Gesture.Handler

/-!
# Press — the physical button under the pad

A press of the pad holds the middle button. It stays held, and movement drags, until a sample
reports that no button is held any more.
-/

namespace Trackpad

variable {σ : Type}

/-- The pad is pressed: the middle button goes down. -/
def Turn.pressPad (t : Turn σ) (reason : String) : Turn σ :=
  (t.transition .physicalClick reason).emit (.press .middle)

namespace Handler

/-- The handler while the physical button is held. -/
def physical : Handler σ where
  label := "physical"
  react s t :=
    if s.buttons.isEmpty then
      (true, (t.emit (.release .middle)).transition .idle "button released")
    else
      (true, t.emit (.move s.position true))

end Handler

end Trackpad
