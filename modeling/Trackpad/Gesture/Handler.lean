import Trackpad.Gesture.Turn

/-!
# Handler — the reaction to samples in one state

A handler reacts to one sample and says whether it consumed it. Its label goes with the sample into
the debug history.
-/

namespace Trackpad

/-- The reaction to samples in one state. -/
structure Handler (σ : Type) where
  /-- The label of its entries in the debug history. -/
  label : String := "event"
  /-- Reacts to a sample; true if the sample is consumed. -/
  react : Sample → Turn σ → Bool × Turn σ

end Trackpad
