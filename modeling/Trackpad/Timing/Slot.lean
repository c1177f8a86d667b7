import Trackpad.Timing.Duration

/-!
# Slot — what a timer is for

There are four purposes for a deferred callback, each with a fixed delay. The delayed click comes
before the double-tap window closes, so a tap that nothing interrupts clicks while its window is
still open.
-/

namespace Trackpad

/-- The purpose of a deferred callback. -/
inductive Slot where
  /-- Sends the postponed left click of a tap. -/
  | delayedClick
  /-- Closes the double-tap window. -/
  | doubleTapExpiry
  /-- Ends the time in which lifting two fingers is a tap. -/
  | twoFingerTapExpiry
  /-- Ends a drag that no movement keeps up. -/
  | dragTimeout
deriving DecidableEq

namespace Slot

/-- Every slot, in storage order. -/
def all : List Slot := [delayedClick, doubleTapExpiry, twoFingerTapExpiry, dragTimeout]

/-- The fixed delay of a slot. -/
def delay : Slot → Duration
  | delayedClick => .ofMillis 150
  | doubleTapExpiry => .ofMillis 160
  | twoFingerTapExpiry => .ofMillis 100
  | dragTimeout => .ofMillis 140

/-- The fixed delay of a slot in milliseconds. -/
def delayMillis (s : Slot) : UInt64 := s.delay.toMillis

/-- The slot as one word. -/
def title : Slot → String
  | delayedClick => "DelayedClick"
  | doubleTapExpiry => "DoubleTapExpiry"
  | twoFingerTapExpiry => "TwoFingerTapExpiry"
  | dragTimeout => "DragTimeout"

theorem mem_all (s : Slot) : s ∈ all := by
  cases s <;> decide

theorem nodup_all : all.Nodup := by
  decide

end Slot

end Trackpad
