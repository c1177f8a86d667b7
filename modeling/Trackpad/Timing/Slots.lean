import Trackpad.Text.Layout
import Trackpad.Timing.Scheduler

/-!
# Slots — the live ticket of each purpose

At most one ticket is live per slot. Arming a slot drops the callback that was live there first, so
a callback is stale exactly when its ticket is not the live one of its slot; `accept?` lets only
live callbacks through and lets each through once.
-/

namespace Trackpad

/-- The live ticket of each slot, if there is one. -/
structure Slots where
  delayedClick : Option Ticket := none
  doubleTapExpiry : Option Ticket := none
  twoFingerTapExpiry : Option Ticket := none
  dragTimeout : Option Ticket := none
deriving DecidableEq

namespace Slots

/-- The live ticket of a slot. -/
def get? (s : Slots) : Slot → Option Ticket
  | .delayedClick => s.delayedClick
  | .doubleTapExpiry => s.doubleTapExpiry
  | .twoFingerTapExpiry => s.twoFingerTapExpiry
  | .dragTimeout => s.dragTimeout

/-- Replaces the live ticket of a slot. -/
def set (s : Slots) (slot : Slot) (ticket : Option Ticket) : Slots :=
  match slot with
  | .delayedClick => { s with delayedClick := ticket }
  | .doubleTapExpiry => { s with doubleTapExpiry := ticket }
  | .twoFingerTapExpiry => { s with twoFingerTapExpiry := ticket }
  | .dragTimeout => { s with dragTimeout := ticket }

@[simp] theorem get?_set_self (s : Slots) (slot : Slot) (ticket : Option Ticket) :
    (s.set slot ticket).get? slot = ticket := by
  cases slot <;> rfl

theorem get?_set_ne (s : Slots) {slot other : Slot} (h : other ≠ slot) (ticket : Option Ticket) :
    (s.set slot ticket).get? other = s.get? other := by
  cases slot <;> cases other <;> simp_all [get?, set]

/-- Two states of the slots with the same live tickets are the same. -/
theorem ext_get? {s t : Slots} (h : ∀ slot, s.get? slot = t.get? slot) : s = t := by
  have h1 := h .delayedClick
  have h2 := h .doubleTapExpiry
  have h3 := h .twoFingerTapExpiry
  have h4 := h .dragTimeout
  cases s
  cases t
  simp_all [get?]

/-- Whether a slot has a live ticket. -/
def isArmed (s : Slots) (slot : Slot) : Bool := (s.get? slot).isSome

/-- The number of live tickets. -/
def liveCount (s : Slots) : Nat := Slot.all.countP s.isArmed

/-- The slots in words. -/
def describe (s : Slots) : String :=
  let tickets := Slot.all.map fun slot =>
    Text.optional ((s.get? slot).map fun t => Text.wrapped "TimerHandle" (toString t.raw))
  Text.record "TimerSlots" [("handles", Text.list tickets)]

/-- Lets a fired callback through if its ticket is live in its slot, which is then empty. -/
def accept? (s : Slots) (slot : Slot) (ticket : Ticket) : Option Slots :=
  if s.get? slot = some ticket then some (s.set slot none) else none

theorem accept?_eq_none_iff {s : Slots} {slot : Slot} {ticket : Ticket} :
    s.accept? slot ticket = none ↔ s.get? slot ≠ some ticket := by
  unfold accept?
  split <;> simp_all

variable {σ : Type} [Scheduler σ]

/-- Drops the live callback of a slot, if there is one. -/
def disarm (s : Slots) (slot : Slot) (timers : σ) : Slots × σ :=
  match s.get? slot with
  | some ticket => (s.set slot none, Scheduler.cancel timers ticket)
  | none => (s, timers)

/-- Schedules a slot with its fixed delay, after dropping what was live there. -/
def arm (s : Slots) (slot : Slot) (timers : σ) : Slots × σ :=
  let cleared := s.disarm slot timers
  let scheduled := Scheduler.schedule cleared.2 slot.delay slot
  (cleared.1.set slot (some scheduled.1), scheduled.2)

/-- Drops every live callback, slot by slot. -/
def disarmAll (s : Slots) (timers : σ) : Slots × σ :=
  Slot.all.foldl (fun acc slot => acc.1.disarm slot acc.2) (s, timers)

/-- A disarmed slot is empty. -/
@[simp] theorem get?_disarm_self (s : Slots) (slot : Slot) (timers : σ) :
    (s.disarm slot timers).1.get? slot = none := by
  unfold disarm
  split <;> simp_all

/-- The other slots keep their tickets when one is disarmed. -/
theorem get?_disarm_ne (s : Slots) {slot other : Slot} (h : other ≠ slot) (timers : σ) :
    (s.disarm slot timers).1.get? other = s.get? other := by
  unfold disarm
  split
  · exact get?_set_ne s h none
  · rfl

/-- An armed slot holds the ticket that the scheduler handed out. -/
@[simp] theorem get?_arm_self (s : Slots) (slot : Slot) (timers : σ) :
    (s.arm slot timers).1.get? slot =
      some (Scheduler.schedule (s.disarm slot timers).2 slot.delay slot).1 := by
  simp [arm]

/-- Once everything is disarmed no slot holds a ticket. -/
theorem disarmAll_fst (s : Slots) (timers : σ) : (s.disarmAll timers).1 = {} := by
  apply ext_get?
  intro slot
  have hempty : ({} : Slots).get? slot = none := by cases slot <;> rfl
  rw [hempty]
  simp only [disarmAll, Slot.all, List.foldl_cons, List.foldl_nil]
  cases slot <;> simp [get?_disarm_ne]

end Slots

end Trackpad
