import Trackpad.Gesture.Contact
import Trackpad.Gesture.Drag
import Trackpad.Gesture.Pinch
import Trackpad.Gesture.Scroll
import Trackpad.Gesture.Tap

/-!
# Registry — which handler each state has

A `Registry` gives each state at most one handler. `Registry.standard` has one for every state; a
host may replace or remove any of them. `Registry.dispatch` hands a sample to the handler of the
current state, after putting it into the history under that handler's label; where there is none,
the log is warned and nothing else happens.
-/

namespace Trackpad

/-- The handler of each state, where there is one. -/
structure Registry (σ : Type) where
  /-- The handler of a state. -/
  get? : State → Option (Handler σ)

namespace Registry

variable {σ : Type}

/-- No state has a handler. -/
def empty : Registry σ := ⟨fun _ => none⟩

/-- Gives a state a handler, in place of the one it had. -/
def register (r : Registry σ) (state : State) (handler : Handler σ) : Registry σ :=
  ⟨fun s => if s = state then some handler else r.get? s⟩

/-- Takes the handler of a state away. -/
def remove (r : Registry σ) (state : State) : Registry σ :=
  ⟨fun s => if s = state then none else r.get? s⟩

/-- Whether every state has a handler. -/
def isComplete (r : Registry σ) : Bool := State.all.all fun s => (r.get? s).isSome

/-- The names of the states that have a handler, sorted. -/
def stateNames (r : Registry σ) : List String :=
  ((State.all.filter fun s => (r.get? s).isSome).map State.name).mergeSort fun a b => a ≤ b

/-- The registry in words. -/
def describe (r : Registry σ) : String :=
  Text.record "HandlerRegistry" [("states", Text.list (r.stateNames.map Text.quoted))]

@[simp] theorem get?_register_self (r : Registry σ) (state : State) (handler : Handler σ) :
    (r.register state handler).get? state = some handler := by
  simp [register]

theorem get?_register_ne (r : Registry σ) {state other : State} (h : other ≠ state)
    (handler : Handler σ) : (r.register state handler).get? other = r.get? other := by
  simp [register, h]

@[simp] theorem get?_remove_self (r : Registry σ) (state : State) :
    (r.remove state).get? state = none := by
  simp [remove]

theorem get?_remove_ne (r : Registry σ) {state other : State} (h : other ≠ state) :
    (r.remove state).get? other = r.get? other := by
  simp [remove, h]

theorem isComplete_iff {r : Registry σ} :
    r.isComplete = true ↔ ∀ state, (r.get? state).isSome = true := by
  simp [isComplete, State.mem_all]

/-- Hands a sample to the handler of the current state. -/
def dispatch (r : Registry σ) (s : Sample) (t : Turn σ) : Bool × Turn σ :=
  match r.get? t.state with
  | none => (false, t.log (.unhandled t.state))
  | some handler => handler.react s (t.noteSample handler.label s)

theorem dispatch_of_missing {r : Registry σ} {t : Turn σ} (h : r.get? t.state = none) (s : Sample) :
    r.dispatch s t = (false, t.log (.unhandled t.state)) := by
  simp only [dispatch, h]

theorem dispatch_of_registered {r : Registry σ} {t : Turn σ} {handler : Handler σ}
    (h : r.get? t.state = some handler) (s : Sample) :
    r.dispatch s t = handler.react s (t.noteSample handler.label s) := by
  simp only [dispatch, h]

variable [Scheduler σ]

/-- The handlers this library has for the states. -/
def standard : Registry σ where
  get?
    | .idle => some .idle
    | .hoverTracking => some .hover
    | .singleTapPending => some .tap
    | .dragActive => some .drag
    | .twoFingerTapPending => some .twoFinger
    | .twoFingerScroll => some .scroll
    | .pinchZoom => some .pinch
    | .physicalClick => some .physical

theorem isComplete_standard : (standard : Registry σ).isComplete = true := by
  rw [isComplete_iff]
  intro state
  cases state <;> rfl

end Registry

end Trackpad
