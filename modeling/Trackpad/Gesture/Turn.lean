import Trackpad.Config.Basic
import Trackpad.Gesture.Context
import Trackpad.Output.Event

/-!
# Turn — what a reaction may see and change

A reaction to a sample or a callback may read the configuration, change the context, arm and disarm
timers, and let events out. A `Turn` holds exactly this. Its operations return the next turn, so a
reaction is a chain of them, and what it did can be read off the turn it ends with.
-/

namespace Trackpad

/-- What a reaction may see and change. -/
structure Turn (σ : Type) where
  /-- The tuning values. -/
  config : Config
  /-- The gesture in flight. -/
  context : Context
  /-- The scheduler. -/
  timers : σ
  /-- What has gone out so far, oldest first. -/
  trace : List Event := []

namespace Turn

variable {σ : Type}

/-- The primary state. -/
def state (t : Turn σ) : State := t.context.state

/-- The least movement that counts as intended. -/
def slop (t : Turn σ) : Float := t.config.touchSlop

/-- Changes the context. -/
def update (t : Turn σ) (f : Context → Context) : Turn σ :=
  { t with context := f t.context }

/-- Lets an event out. -/
def tell (t : Turn σ) (e : Event) : Turn σ :=
  { t with trace := t.trace ++ [e] }

/-- Sends a command. -/
def emit (t : Turn σ) (c : Command) : Turn σ := t.tell (.command c)

/-- Tells the log. -/
def log (t : Turn σ) (r : Log.Record) : Turn σ := t.tell (.record r)

/-- Enters a state for a reason. -/
def transition (t : Turn σ) (state : State) (reason : String) : Turn σ :=
  (t.log (.transition t.state state reason)).update (·.enter state)

/-- Puts an entry into the history. -/
def note (t : Turn σ) (text : String) : Turn σ := t.update (·.note text)

/-- Puts a sample into the history under a label. -/
def noteSample (t : Turn σ) (label : String) (s : Sample) : Turn σ :=
  t.update (·.noteSample label s)

/-- The turn in words. -/
def describe (t : Turn σ) : String :=
  Text.recordInPart "HandlerCx"
    [("context", t.context.describe), ("config", t.config.describe)]

variable [Scheduler σ]

/-- Schedules a slot with its delay, in place of what was live there. -/
def arm (t : Turn σ) (slot : Slot) : Turn σ :=
  let armed := t.context.slots.arm slot t.timers
  { t with context := { t.context with slots := armed.1 }, timers := armed.2 }

/-- Drops the live callback of a slot, if there is one. -/
def disarm (t : Turn σ) (slot : Slot) : Turn σ :=
  let disarmed := t.context.slots.disarm slot t.timers
  { t with context := { t.context with slots := disarmed.1 }, timers := disarmed.2 }

/-- Drops every live callback. -/
def disarmAll (t : Turn σ) : Turn σ :=
  let disarmed := t.context.slots.disarmAll t.timers
  { t with context := { t.context with slots := disarmed.1 }, timers := disarmed.2 }

/-- Drops every live callback and whatever gesture is in flight. Only the capacity of the history
outlives it. The log hears of it unless recognition was at rest. -/
def reset (t : Turn σ) : Turn σ :=
  let stopped := t.disarmAll
  let told := if t.state = .idle then stopped else stopped.log (.reset t.state)
  told.update fun c => .fresh c.history.capacity

end Turn

end Trackpad
