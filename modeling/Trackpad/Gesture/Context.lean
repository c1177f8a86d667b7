import Trackpad.Gesture.History
import Trackpad.Gesture.State
import Trackpad.Gesture.Window
import Trackpad.Input.Kind
import Trackpad.Timing.Slots

/-!
# Context — everything remembered about the gesture in flight

One `Context` lives as long as the stream of samples. This module holds what it is made of and the
changes that concern nothing else; changes that also schedule timers or write to the log belong to
`Trackpad.Gesture.Turn`.
-/

namespace Trackpad

/-- How far a two-finger scroll has come. -/
structure ScrollProgress where
  /-- The position that the next movement is measured from. -/
  anchor : Point := .origin
  /-- The sum of what was scrolled sideways. -/
  totalX : Float := 0
  /-- The sum of what was scrolled up and down. -/
  totalY : Float := 0
  /-- Whether anything was scrolled. -/
  started : Bool := false
deriving DecidableEq

/-- How far a pinch has come. -/
structure PinchProgress where
  /-- The distance that zooming compares with; zero stands for none. -/
  baseline : Float := 0
  /-- The distance measured last. -/
  last : Float := 0
  /-- Whether a movement has set the baseline. -/
  started : Bool := false
deriving DecidableEq

/-- Everything remembered about the gesture in flight. -/
structure Context where
  /-- The primary state. -/
  state : State := .idle
  /-- The kind of the last classified sample. -/
  kind : Kind := .unknown
  /-- When the last contact came down. -/
  startTime : Time := 0
  /-- Whether a gesture with contact is in flight. -/
  active : Bool := false
  /-- Where the last contact came down. -/
  startPosition : Point := .origin
  /-- The position of the last classified sample. -/
  position : Point := .origin
  /-- When the last tap was accepted. -/
  lastTapTime : Time := 0
  /-- The double-tap window. -/
  window : Window := .idle
  /-- The scroll in flight. -/
  scroll : ScrollProgress := {}
  /-- The pinch in flight. -/
  pinch : PinchProgress := {}
  /-- Whether the platform is expected to cancel as part of the gesture. -/
  expectCancel : Bool := false
  /-- Whether lifting two fingers would still be a tap. -/
  twoFingerTap : Bool := false
  /-- The live timers. -/
  slots : Slots := {}
  /-- The debug history. -/
  history : History := {}
deriving DecidableEq

namespace Context

/-- The resting context whose history has the given capacity. -/
def fresh (capacity : Nat) : Context := { history := .ofCapacity capacity }

/-- Enters a state. Coming to rest ends the gesture with contact. -/
def enter (c : Context) (state : State) : Context :=
  { c with state := state, active := if state = .idle then false else c.active }

/-- Begins a gesture with contact. -/
def touch (c : Context) (position : Point) (time : Time) : Context :=
  { c with
    startPosition := position
    position := position
    startTime := time
    active := true }

/-- Puts an entry into the history, after the name of the state. -/
def note (c : Context) (text : String) : Context :=
  { c with history := c.history.push ("[" ++ c.state.name ++ "] " ++ text) }

/-- Puts a sample into the history under a label. -/
def noteSample (c : Context) (label : String) (s : Sample) : Context :=
  c.note (label ++ ": action=" ++ s.action.name ++
    ", flags=0x" ++ Text.hexCapital s.flags.bits.toNat ++
    ", buttons=0x" ++ Text.hexCapital s.buttons.bits.toNat ++
    ", pointers=" ++ toString s.pointerCount)

/-- Notes the kind and the position of a sample. -/
def classify (c : Context) (s : Sample) : Context :=
  { c with kind := s.kind, position := s.position }

/-- Forgets the pinch. -/
def clearPinch (c : Context) : Context := { c with pinch := {} }

/-- The context in words. -/
def describe (c : Context) : String :=
  Text.record "GestureContext"
    [("state", c.state.title),
      ("gesture_type", c.kind.title),
      ("start_time", toString c.startTime),
      ("active", Text.truth c.active),
      ("initial_position", c.startPosition.describe),
      ("current_position", c.position.describe),
      ("last_tap_time", toString c.lastTapTime),
      ("double_tap", c.window.describe),
      ("scroll_anchor", c.scroll.anchor.describe),
      ("scroll_accum_x", Decimal.Style.described.write c.scroll.totalX),
      ("scroll_accum_y", Decimal.Style.described.write c.scroll.totalY),
      ("scroll_started", Text.truth c.scroll.started),
      ("initial_pinch_distance", Decimal.Style.described.write c.pinch.baseline),
      ("last_pinch_distance", Decimal.Style.described.write c.pinch.last),
      ("pinch_started", Text.truth c.pinch.started),
      ("expect_cancel", Text.truth c.expectCancel),
      ("pending_two_finger_tap", Text.truth c.twoFingerTap),
      ("timers", c.slots.describe),
      ("history", c.history.describe)]

@[simp] theorem state_enter (c : Context) (state : State) : (c.enter state).state = state := rfl

@[simp] theorem slots_enter (c : Context) (state : State) : (c.enter state).slots = c.slots := rfl

@[simp] theorem state_note (c : Context) (text : String) : (c.note text).state = c.state := rfl

@[simp] theorem slots_note (c : Context) (text : String) : (c.note text).slots = c.slots := rfl

end Context

end Trackpad
