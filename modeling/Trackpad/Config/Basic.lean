import Trackpad.Decimal.Style
import Trackpad.Text.Layout
import Trackpad.Timing.Duration

/-!
# Config — what the platform tunes

The slop decides what counts as movement. The double-tap timeout is kept for hosts that report it;
the timers of recognition have delays of their own. `Config.fault?` says what makes a configuration
unusable: a slop that is no finite number, or one below zero. Negative zero is not below zero.
-/

namespace Trackpad

/-- The values a platform supplies. -/
structure Config where
  /-- The least movement that counts as intended. -/
  touchSlop : Float := 8
  /-- The double-tap timeout of the platform, for information. -/
  doubleTapTimeout : Duration := .ofMillis 300
  /-- How many entries the debug history keeps. -/
  historyCapacity : Nat := 64
deriving DecidableEq

namespace Config

/-- Why a configuration is unusable. -/
inductive Fault where
  /-- The slop is undefined or infinite. -/
  | nonFiniteSlop (slop : Float)
  /-- The slop is below zero. -/
  | negativeSlop (slop : Float)
deriving DecidableEq

/-- The message for a host. -/
def Fault.message : Fault → String
  | nonFiniteSlop slop => "touch slop must be finite, got " ++ Decimal.Style.plain.write slop
  | negativeSlop slop => "touch slop must not be negative, got " ++ Decimal.Style.plain.write slop

/-- What is wrong with a configuration, if anything. -/
def fault? (c : Config) : Option Fault :=
  if c.touchSlop.isFinite = false then some (.nonFiniteSlop c.touchSlop)
  else if c.touchSlop < 0 then some (.negativeSlop c.touchSlop)
  else none

/-- The configuration in words. -/
def describe (c : Config) : String :=
  Text.record "GestureConfig"
    [("touch_slop", Decimal.Style.described.write c.touchSlop),
      ("double_tap_timeout", c.doubleTapTimeout.describe),
      ("history_capacity", toString c.historyCapacity)]

/-- A configuration is usable exactly when its slop is finite and not below zero. -/
theorem fault?_eq_none_iff {c : Config} :
    c.fault? = none ↔ c.touchSlop.isFinite = true ∧ ¬ c.touchSlop < 0 := by
  unfold fault?
  split
  · simp_all
  · split <;> simp_all

end Config

end Trackpad
