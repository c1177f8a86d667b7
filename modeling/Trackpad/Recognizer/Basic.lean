import Trackpad.Gesture.Registry

/-!
# Recognizer — from samples and callbacks to commands

A `Recognizer σ` holds everything that outlives a call, over a scheduler with states `σ`. It takes
three calls: `handle` for a sample, `onTimer` for a callback that a scheduler delivers, and `reset`.
Each gives a `Reply`: the value of the call, the events it let out, in order, and the next
recognizer.

Some samples mean the same in every state and are not handed to a handler: a second contact begins
a pinch, a press of the pad holds the middle button, and a cancel drops everything. The lifting of a
contact and of the button only concern the states that wait for them. All other samples are
classified and handed to the handler of the current state.
-/

namespace Trackpad

/-- Everything that outlives a call. -/
structure Recognizer (σ : Type) where
  /-- The tuning values. -/
  config : Config
  /-- The gesture in flight. -/
  context : Context
  /-- The handler of each state. -/
  handlers : Registry σ
  /-- The scheduler. -/
  timers : σ

/-- What a call gives back. -/
structure Reply (σ α : Type) where
  /-- The value of the call. -/
  value : α
  /-- What the call let out, oldest first. -/
  events : List Event
  /-- The recognizer after the call. -/
  next : Recognizer σ

/-- The same reply with another value. -/
def Reply.map {σ α β : Type} (f : α → β) (reply : Reply σ α) : Reply σ β where
  value := f reply.value
  events := reply.events
  next := reply.next

namespace Turn

variable {σ : Type}

/-- Notes the kind and the position of a sample, and tells the log. -/
def classify (t : Turn σ) (s : Sample) : Turn σ :=
  (t.update (·.classify s)).log (.classified s.action s.kind t.state)

variable [Scheduler σ]

/-- Hands a sample on, or reacts to it if it means the same in every state. -/
def route (handlers : Registry σ) (s : Sample) (t : Turn σ) : Bool × Turn σ :=
  match s.action with
  | .pointerDown => (true, if s.pointerCount = 2 then t.beginPinch s else t)
  | .pointerUp => if t.state = .pinchZoom then handlers.dispatch s t else (true, t)
  | .buttonPress => (true, (t.pressPad "button press").note "middle button pressed")
  | .buttonRelease => if t.state = .physicalClick then handlers.dispatch s t else (true, t)
  | .cancel => (true, t.reset)
  | _ => handlers.dispatch s (t.classify s)

/-- A live callback of a slot comes due; true if it has an effect. -/
def expire (slot : Slot) (t : Turn σ) : Bool × Turn σ :=
  match slot with
  | .delayedClick => t.onDelayedClick
  | .doubleTapExpiry => t.onDoubleTapExpiry
  | .twoFingerTapExpiry => t.onTwoFingerTapExpiry
  | .dragTimeout => t.onDragTimeout

/-- A callback is delivered. A stale one is dropped. -/
def deliver (slot : Slot) (ticket : Ticket) (t : Turn σ) : Bool × Turn σ :=
  match t.context.slots.accept? slot ticket with
  | none => (false, t.log (.stale slot ticket))
  | some slots =>
    let accepted := t.update fun c => { c with slots := slots }
    (accepted.note ("timer " ++ slot.title)).expire slot

end Turn

namespace Recognizer

variable {σ : Type}

/-- The primary state. -/
def state (r : Recognizer σ) : State := r.context.state

/-- The turn that a call begins with. -/
def turn (r : Recognizer σ) : Turn σ where
  config := r.config
  context := r.context
  timers := r.timers

/-- The reply of a call that ends with this value and this turn. The tuning values and the handlers
are none of a reaction's business and stay as they are. -/
def conclude {α : Type} (r : Recognizer σ) (outcome : α × Turn σ) : Reply σ α where
  value := outcome.1
  events := outcome.2.trace
  next := { r with context := outcome.2.context, timers := outcome.2.timers }

/-- Gives a state a handler, in place of the one it had. -/
def register (r : Recognizer σ) (state : State) (handler : Handler σ) : Recognizer σ :=
  { r with handlers := r.handlers.register state handler }

/-- Takes the handler of a state away. -/
def remove (r : Recognizer σ) (state : State) : Recognizer σ :=
  { r with handlers := r.handlers.remove state }

/-- The recognizer in words. -/
def describe (r : Recognizer σ) : String :=
  Text.recordInPart "GestureDetector"
    [("config", r.config.describe), ("state", r.state.title), ("handlers", r.handlers.describe)]

variable [Scheduler σ]

/-- A recognizer at rest, with the standard handlers. -/
def new (config : Config) (timers : σ) : Recognizer σ where
  config := config
  context := .fresh config.historyCapacity
  handlers := .standard
  timers := timers

/-- A recognizer at rest, if the configuration is usable. -/
def tryNew (config : Config) (timers : σ) : Except Config.Fault (Recognizer σ) :=
  match config.fault? with
  | some fault => .error fault
  | none => .ok (new config timers)

/-- Takes a sample; true if it is consumed. -/
def handle (r : Recognizer σ) (s : Sample) : Reply σ Bool :=
  r.conclude (r.turn.route r.handlers s)

/-- Takes a callback; true if it was live and had an effect. -/
def onTimer (r : Recognizer σ) (slot : Slot) (ticket : Ticket) : Reply σ Bool :=
  r.conclude (r.turn.deliver slot ticket)

/-- Drops every live callback and the gesture in flight. -/
def reset (r : Recognizer σ) : Reply σ Unit :=
  r.conclude ((), r.turn.reset)

/-- A recognizer is made exactly for usable configurations. -/
theorem tryNew_eq_ok_iff {config : Config} {timers : σ} {r : Recognizer σ} :
    tryNew config timers = .ok r ↔ config.fault? = none ∧ r = new config timers := by
  unfold tryNew
  cases config.fault? <;> simp [eq_comm]

end Recognizer

end Trackpad
