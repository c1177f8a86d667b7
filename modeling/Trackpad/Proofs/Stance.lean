import Trackpad.Recognizer.Call

/-!
# Stance — the part of a turn that timers and buttons hang on

Which timers are live, which buttons are down and which clicks go out depends on five things only:
the primary state, the double-tap window, whether two fingers may still tap, the live tickets, and
the scheduler. A `Stance` holds these five.

A `Deed` is one thing that a sample can make recognition do. `Deed.apply` is what it does to the
stance, `Deed.sends` the commands that go out with it, and `Deed.Fits` when it can happen. This is
the transition table of recognition; that the standard handlers follow it is proved in
`Trackpad.Proofs.Deed`. `Stance.expire` and `Stance.expirySends` are the same for live callbacks.
-/

namespace Trackpad

namespace Slots

variable {σ : Type} [Scheduler σ]

omit [Scheduler σ] in
theorem isArmed_of_get? {s : Slots} {slot : Slot} {ticket : Ticket}
    (h : s.get? slot = some ticket) : s.isArmed slot = true := by
  rw [isArmed, h]
  rfl

omit [Scheduler σ] in
theorem isArmed_eq_false_iff {s : Slots} {slot : Slot} :
    s.isArmed slot = false ↔ s.get? slot = none := by
  rw [isArmed, Option.isSome_eq_false_iff, Option.isNone_iff_eq_none]

/-- The other slots keep their tickets when one is armed. -/
theorem get?_arm_ne (s : Slots) {slot other : Slot} (h : other ≠ slot) (timers : σ) :
    (s.arm slot timers).1.get? other = s.get? other := by
  simp only [arm]
  rw [get?_set_ne _ h, get?_disarm_ne s h]

omit [Scheduler σ] in
theorem get?_set_none_eq_some {s : Slots} {slot other : Slot} {ticket : Ticket} :
    (s.set slot none).get? other = some ticket ↔ other ≠ slot ∧ s.get? other = some ticket := by
  by_cases h : other = slot
  · subst h; simp
  · simp [h, get?_set_ne s h]

omit [Scheduler σ] in
theorem get?_set_some_eq_some {s : Slots} {slot other : Slot} {ticket fresh : Ticket} :
    (s.set slot (some fresh)).get? other = some ticket ↔
      (other = slot ∧ fresh = ticket) ∨ (other ≠ slot ∧ s.get? other = some ticket) := by
  by_cases h : other = slot
  · subst h; simp
  · simp [h, get?_set_ne s h]

omit [Scheduler σ] in
theorem isArmed_set_none (s : Slots) (slot other : Slot) :
    (s.set slot none).isArmed other = (decide (other ≠ slot) && s.isArmed other) := by
  by_cases h : other = slot
  · subst h; simp [isArmed]
  · simp [isArmed, h, get?_set_ne s h]

theorem isArmed_arm (s : Slots) (slot other : Slot) (timers : σ) :
    (s.arm slot timers).1.isArmed other = (decide (other = slot) || s.isArmed other) := by
  by_cases h : other = slot
  · subst h; simp [isArmed]
  · simp [isArmed, h, get?_arm_ne s h]

theorem isArmed_disarm (s : Slots) (slot other : Slot) (timers : σ) :
    (s.disarm slot timers).1.isArmed other = (decide (other ≠ slot) && s.isArmed other) := by
  by_cases h : other = slot
  · subst h; simp [isArmed]
  · simp [isArmed, h, get?_disarm_ne s h]

end Slots

/-- What timers and buttons depend on. -/
structure Stance (σ : Type) where
  state : State
  window : Window
  twoFingerTap : Bool
  slots : Slots
  timers : σ

/-- The sample is a release in place of a single contact: a tap. -/
def Context.Taps (c : Context) (slop : Float) (s : Sample) : Prop :=
  s.action = .up ∧ c.state = .singleTapPending ∧ c.startPosition.distance s.position < slop

/-- The sample moves a finger that hovers. -/
def Context.Hovers (c : Context) (s : Sample) : Prop :=
  s.action = .hoverMove ∧ c.state = .hoverTracking

instance (c : Context) (slop : Float) (s : Sample) : Decidable (c.Taps slop s) :=
  inferInstanceAs (Decidable (_ ∧ _ ∧ _))

instance (c : Context) (s : Sample) : Decidable (c.Hovers s) :=
  inferInstanceAs (Decidable (_ ∧ _))

/-- The commands that turn the wheel. -/
def Command.IsWheel : Command → Prop
  | .scroll .. | .scrollWithShift .. | .scrollWithCtrl .. => True
  | _ => False

/-- Those of them that scroll; the others zoom. -/
def Command.isScroll : Command → Bool
  | scroll .. | scrollWithShift .. => true
  | _ => false

theorem Command.isWheel_of_isScroll {c : Command} (h : c.isScroll = true) : c.IsWheel := by
  cases c with
  | scroll _ _ | scrollWithShift _ _ => trivial
  | _ => cases h

/-- The command that a movement from `p` to `q` scrolls with: sideways if the way, scaled, is longer
sideways, and up and down otherwise. -/
def Command.travel (p q : Point) : Command :=
  let dx := (p.x - q.x) * 0.6
  let dy := (p.y - q.y) * 0.6
  if dy.abs < dx.abs then scrollWithShift dx 0 else scroll 0 dy

theorem Command.isScroll_travel (p q : Point) : (travel p q).isScroll = true := by
  simp only [travel]
  split <;> rfl

theorem Command.isWheel_travel (p q : Point) : (travel p q).IsWheel :=
  isWheel_of_isScroll (isScroll_travel p q)

/-- What a sample can make recognition do. -/
inductive Deed where
  | nothing
  /-- The cursor follows a hovering finger. -/
  | point (p : Point)
  /-- The cursor drags with the pad held down. -/
  | hold (p : Point)
  /-- The wheel turns, in a scroll or in a pinch. -/
  | wheel (c : Command)
  /-- The state changes and nothing else. -/
  | enter (target : State)
  | pressPad
  | releasePad
  | acceptTap (deadline : Time)
  | touchTwo
  | liftTwo (clicks : Bool)
  | scrollTwo (c : Command)
  | beginDrag (p : Point)
  | keepDrag (p : Point)
  | endDrag
  | drop

namespace Deed

/-- When a deed can happen. -/
def Fits (c : Context) (slop : Float) (s : Sample) : Deed → Prop
  | nothing => True
  | point _ => c.Hovers s ∧ c.window.isArmed = false
  | hold _ => c.state = .physicalClick
  | wheel cmd => (c.state = .twoFingerScroll ∨ c.state = .pinchZoom) ∧ cmd.IsWheel
  | enter target => target ≠ .dragActive ∧ target ≠ .physicalClick ∧
      ((target = .pinchZoom ∧ s.action = .pointerDown ∧ s.pointerCount = 2) ∨
        (c.state ≠ .dragActive ∧ c.state ≠ .physicalClick))
  | pressPad => s.action = .buttonPress ∨ (c.state = .idle ∧ s.action = .down)
  | releasePad => c.state = .physicalClick
  | acceptTap deadline => c.Taps slop s ∧ deadline = s.time.plus Slot.doubleTapExpiry.delayMillis
  | touchTwo => c.state = .idle
  | liftTwo _ => c.state = .twoFingerTapPending
  | scrollTwo cmd => c.state = .twoFingerTapPending ∧ cmd.IsWheel
  | beginDrag _ => c.Hovers s ∧ c.window.isArmed = true
  | keepDrag _ => c.state = .dragActive
  | endDrag => c.state = .dragActive
  | drop => s.action = .cancel

/-- The commands that go out with a deed. -/
def sends : Deed → List Command
  | point p => [.move p false]
  | hold p => [.move p true]
  | wheel c => [c]
  | pressPad => [.press .middle]
  | releasePad => [.release .middle]
  | liftTwo clicks => if clicks then [.click .right] else []
  | scrollTwo c => [c]
  | beginDrag p => [.press .left, .move p true]
  | keepDrag p => [.move p true]
  | endDrag => [.release .left]
  | nothing | enter _ | acceptTap _ | touchTwo | drop => []

/-- How many callbacks a deed schedules. -/
def schedulings : Deed → Nat
  | acceptTap _ => 2
  | touchTwo | beginDrag _ | keepDrag _ => 1
  | _ => 0

end Deed

namespace Stance

variable {σ : Type}

/-- The ticket of a slot is taken from it. -/
def vacate (v : Stance σ) (slot : Slot) : Stance σ := { v with slots := v.slots.set slot none }

@[simp] theorem state_vacate (v : Stance σ) (slot : Slot) : (v.vacate slot).state = v.state := rfl

@[simp] theorem window_vacate (v : Stance σ) (slot : Slot) :
    (v.vacate slot).window = v.window := rfl

@[simp] theorem twoFingerTap_vacate (v : Stance σ) (slot : Slot) :
    (v.vacate slot).twoFingerTap = v.twoFingerTap := rfl

@[simp] theorem isArmed_vacate (v : Stance σ) (slot other : Slot) :
    (v.vacate slot).slots.isArmed other = (decide (other ≠ slot) && v.slots.isArmed other) :=
  v.slots.isArmed_set_none slot other

/-- A live callback of a slot comes due, whose ticket has been taken from the slot. -/
def expire (v : Stance σ) : Slot → Stance σ
  | .delayedClick => v
  | .doubleTapExpiry => { v with window := .idle }
  | .twoFingerTapExpiry => { v with twoFingerTap := false }
  | .dragTimeout =>
    if v.state = .dragActive then { v with window := .idle, state := .hoverTracking } else v

theorem slots_expire (v : Stance σ) (slot : Slot) : (v.expire slot).slots = v.slots := by
  cases slot with
  | dragTimeout => simp only [expire]; split <;> rfl
  | _ => rfl

theorem timers_expire (v : Stance σ) (slot : Slot) : (v.expire slot).timers = v.timers := by
  cases slot with
  | dragTimeout => simp only [expire]; split <;> rfl
  | _ => rfl

/-- The commands that go out when a live callback of a slot comes due. -/
def expirySends (v : Stance σ) : Slot → List Command
  | .delayedClick =>
    if v.window.isArmed = true ∧ v.state ≠ .dragActive then [.click .left] else []
  | .dragTimeout => if v.state = .dragActive then [.release .left] else []
  | .doubleTapExpiry | .twoFingerTapExpiry => []

variable [Scheduler σ]

/-- Schedules a slot in place of what was live there. -/
def arm (v : Stance σ) (slot : Slot) : Stance σ :=
  let armed := v.slots.arm slot v.timers
  { v with slots := armed.1, timers := armed.2 }

/-- Drops the live callback of a slot. -/
def disarm (v : Stance σ) (slot : Slot) : Stance σ :=
  let disarmed := v.slots.disarm slot v.timers
  { v with slots := disarmed.1, timers := disarmed.2 }

@[simp] theorem state_arm (v : Stance σ) (slot : Slot) : (v.arm slot).state = v.state := rfl

@[simp] theorem window_arm (v : Stance σ) (slot : Slot) : (v.arm slot).window = v.window := rfl

@[simp] theorem twoFingerTap_arm (v : Stance σ) (slot : Slot) :
    (v.arm slot).twoFingerTap = v.twoFingerTap := rfl

@[simp] theorem state_disarm (v : Stance σ) (slot : Slot) : (v.disarm slot).state = v.state := rfl

@[simp] theorem window_disarm (v : Stance σ) (slot : Slot) :
    (v.disarm slot).window = v.window := rfl

@[simp] theorem twoFingerTap_disarm (v : Stance σ) (slot : Slot) :
    (v.disarm slot).twoFingerTap = v.twoFingerTap := rfl

@[simp] theorem isArmed_arm (v : Stance σ) (slot other : Slot) :
    (v.arm slot).slots.isArmed other = (decide (other = slot) || v.slots.isArmed other) :=
  v.slots.isArmed_arm slot other v.timers

@[simp] theorem isArmed_disarm (v : Stance σ) (slot other : Slot) :
    (v.disarm slot).slots.isArmed other = (decide (other ≠ slot) && v.slots.isArmed other) :=
  v.slots.isArmed_disarm slot other v.timers

/-- Everything is dropped. -/
def rest (v : Stance σ) : Stance σ where
  state := .idle
  window := .idle
  twoFingerTap := false
  slots := {}
  timers := (v.slots.disarmAll v.timers).2

end Stance

/-- What a deed does to the stance. -/
def Deed.apply {σ : Type} [Scheduler σ] (v : Stance σ) : Deed → Stance σ
  | nothing | point _ | hold _ | wheel _ => v
  | enter target => { v with state := target }
  | pressPad => { v with state := .physicalClick }
  | releasePad => { v with state := .idle }
  | acceptTap deadline =>
    let armed := ({ v with window := .armed deadline }.arm .delayedClick).arm .doubleTapExpiry
    { armed with state := .idle }
  | touchTwo =>
    { v with state := .twoFingerTapPending, twoFingerTap := true }.arm .twoFingerTapExpiry
  | liftTwo _ => { { v with twoFingerTap := false }.disarm .twoFingerTapExpiry with state := .idle }
  | scrollTwo _ =>
    { { v with twoFingerTap := false }.disarm .twoFingerTapExpiry with state := .twoFingerScroll }
  | beginDrag _ =>
    let cleared := ({ v with window := .idle }.disarm .doubleTapExpiry).disarm .delayedClick
    { cleared with state := .dragActive }.arm .dragTimeout
  | keepDrag _ => v.arm .dragTimeout
  | endDrag => { v.disarm .dragTimeout with window := .idle, state := .hoverTracking }
  | drop => v.rest

/-- A deed reaches slots and scheduler only by arming, as often as it schedules, and by disarming.
What arming uses up by one and disarming keeps, a deed uses up by its schedulings. -/
theorem Deed.apply_keeps {σ : Type} [Scheduler σ] {P : Nat → Slots → σ → Prop}
    (harm : ∀ n s q slot, P (n + 1) s q → P n (s.arm slot q).1 (s.arm slot q).2)
    (hdisarm : ∀ n s q slot, P n s q → P n (s.disarm slot q).1 (s.disarm slot q).2)
    {v : Stance σ} (d : Deed) {n : Nat} (h : P (n + d.schedulings) v.slots v.timers) :
    P n (d.apply v).slots (d.apply v).timers := by
  cases d with
  | nothing | point _ | hold _ | wheel _ | enter _ | pressPad | releasePad => exact h
  | acceptTap _ => exact harm _ _ _ .doubleTapExpiry (harm _ _ _ .delayedClick h)
  | touchTwo => exact harm _ _ _ .twoFingerTapExpiry h
  | liftTwo _ | scrollTwo _ => exact hdisarm _ _ _ .twoFingerTapExpiry h
  | beginDrag _ =>
    exact harm _ _ _ .dragTimeout
      (hdisarm _ _ _ .delayedClick (hdisarm _ _ _ .doubleTapExpiry h))
  | keepDrag _ => exact harm _ _ _ .dragTimeout h
  | endDrag => exact hdisarm _ _ _ .dragTimeout h
  | drop =>
    have hall : P n (v.slots.disarmAll v.timers).1 (v.slots.disarmAll v.timers).2 :=
      hdisarm _ _ _ _ (hdisarm _ _ _ _ (hdisarm _ _ _ _ (hdisarm _ _ _ _ h)))
    rw [Slots.disarmAll_fst] at hall
    exact hall

namespace Turn

variable {σ : Type}

/-- The stance of a turn. -/
def stance (t : Turn σ) : Stance σ where
  state := t.context.state
  window := t.context.window
  twoFingerTap := t.context.twoFingerTap
  slots := t.context.slots
  timers := t.timers

/-- The commands that a turn has sent so far. -/
def sent (t : Turn σ) : List Command := Event.commands t.trace

@[simp] theorem sent_emit (t : Turn σ) (c : Command) : (t.emit c).sent = t.sent ++ [c] := by
  simp [sent, emit, tell, Event.commands, Event.command?]

@[simp] theorem sent_log (t : Turn σ) (r : Log.Record) : (t.log r).sent = t.sent := by
  simp [sent, log, tell, Event.commands, Event.command?]

@[simp] theorem sent_update (t : Turn σ) (f : Context → Context) : (t.update f).sent = t.sent := rfl

@[simp] theorem sent_note (t : Turn σ) (text : String) : (t.note text).sent = t.sent := rfl

@[simp] theorem sent_noteSample (t : Turn σ) (label : String) (s : Sample) :
    (t.noteSample label s).sent = t.sent := rfl

@[simp] theorem sent_transition (t : Turn σ) (state : State) (reason : String) :
    (t.transition state reason).sent = t.sent := by
  simp [transition]

@[simp] theorem sent_classify (t : Turn σ) (s : Sample) : (t.classify s).sent = t.sent := by
  simp [classify]

@[simp] theorem sent_pressPad (t : Turn σ) (reason : String) :
    (t.pressPad reason).sent = t.sent ++ [.press .middle] := by
  simp [pressPad]

@[simp] theorem sent_beginPinch (t : Turn σ) (s : Sample) : (t.beginPinch s).sent = t.sent := by
  simp [beginPinch]

@[simp] theorem sent_endPinch (t : Turn σ) (reason : String) :
    (t.endPinch reason).sent = t.sent := by
  simp [endPinch]

variable [Scheduler σ]

@[simp] theorem sent_arm (t : Turn σ) (slot : Slot) : (t.arm slot).sent = t.sent := rfl

@[simp] theorem sent_disarm (t : Turn σ) (slot : Slot) : (t.disarm slot).sent = t.sent := rfl

@[simp] theorem sent_disarmAll (t : Turn σ) : t.disarmAll.sent = t.sent := rfl

@[simp] theorem sent_dropTwoFingerTap (t : Turn σ) : t.dropTwoFingerTap.sent = t.sent := rfl

@[simp] theorem sent_acceptTap (t : Turn σ) (s : Sample) : (t.acceptTap s).sent = t.sent := by
  simp [acceptTap]

@[simp] theorem sent_beginDrag (t : Turn σ) (s : Sample) :
    (t.beginDrag s).sent = t.sent ++ [.press .left, .move s.position true] := by
  simp [beginDrag]

@[simp] theorem sent_endDrag (t : Turn σ) (reason : String) :
    (t.endDrag reason).sent = t.sent ++ [.release .left] := by
  simp [endDrag]

end Turn

end Trackpad
