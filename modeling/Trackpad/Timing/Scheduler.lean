import Trackpad.Timing.Slot

/-!
# Scheduler — the capability to be called back later

Nothing in this library waits. Where the meaning of a sample depends on what comes next, a callback
is scheduled and its ticket is kept; whoever owns the clock delivers the callback later. A
scheduler is any state with the two operations of the class `Scheduler`.
-/

namespace Trackpad

/-- What a scheduler hands out for a callback, to name it by. -/
structure Ticket where
  raw : UInt64
deriving DecidableEq

/-- States `σ` that can take on deferred callbacks and drop them again. -/
class Scheduler (σ : Type) where
  /-- Takes on a callback for a slot after a delay. -/
  schedule : σ → Duration → Slot → Ticket × σ
  /-- Drops a callback. A ticket that names none is no error. -/
  cancel : σ → Ticket → σ

end Trackpad
