import Trackpad.Proofs.Deed
import Trackpad.Proofs.Due

/-!
# Calls — single calls as the stance sees them

The table of `Trackpad.Proofs.Stance`, read for the calls of a recognizer. A call over a queue has
two parts: the callbacks that come due by its time are delivered one by one (`delivered`), and then
the recognizer that is left (`facing`) takes the sample, if the call has one. No callback touches
the queue, so what is delivered is what `Queue.advanceTo` pops (`fst_deliveries`), and what is left
is what it leaves (`timers_advanceTo`).
-/

namespace Trackpad

/-- The commands of a reply. -/
def Reply.sent {σ α : Type} (reply : Reply σ α) : List Command := Event.commands reply.events

namespace TimedCall

/-- The time that a call advances to. -/
def time? : TimedCall → Option Time
  | handleAt s => some s.time
  | advanceTo time => some time
  | plain _ => none

/-- The call that is left once the time has come. -/
def rest? : TimedCall → Option Call
  | plain c => some c
  | handleAt s => some (.handle s)
  | advanceTo _ => none

/-- The sample of a call. -/
def sample? : TimedCall → Option Sample
  | plain (.handle s) | handleAt s => some s
  | _ => none

/-- The call advances to a time that is no earlier. -/
def Lapses (c : TimedCall) (due : Time) : Prop := ∃ time ∈ c.time?, due ≤ time

instance (c : TimedCall) (due : Time) : Decidable (c.Lapses due) :=
  inferInstanceAs (Decidable (∃ time ∈ c.time?, due ≤ time))

/-- The call leaves the delivery of callbacks to the recognizer. -/
def IsDriven : TimedCall → Prop
  | plain (.onTimer ..) => False
  | _ => True

instance : DecidablePred IsDriven
  | plain (.onTimer ..) => isFalse id
  | plain (.handle _) | plain .reset | handleAt _ | advanceTo _ => isTrue trivial

/-- One finger comes down and goes up again. -/
def tapping (p : Point) (down up : Time) : List TimedCall :=
  [handleAt (.single .down p down), handleAt (.single .up p up)]

/-- Every other call is a callback that the host delivers. -/
theorem isDriven_or_eq (c : TimedCall) :
    c.IsDriven ∨ ∃ slot ticket, c = plain (.onTimer slot ticket) := by
  cases c with
  | plain call =>
    cases call with
    | onTimer slot ticket => exact .inr ⟨slot, ticket, rfl⟩
    | _ => exact .inl trivial
  | _ => exact .inl trivial

/-- The call drops the gesture in flight, by a reset or by a cancel of the platform. -/
def Drops (c : TimedCall) : Prop := c = plain .reset ∨ ∃ s ∈ c.sample?, s.action = .cancel

instance (c : TimedCall) : Decidable c.Drops :=
  inferInstanceAs (Decidable (c = plain .reset ∨ ∃ s ∈ c.sample?, s.action = .cancel))

end TimedCall

namespace Recognizer

variable {σ : Type}

/-- The stance of a recognizer between two calls. -/
def stance (r : Recognizer σ) : Stance σ := r.turn.stance

variable [Scheduler σ]

/-! ## Single calls -/

theorem handle_of_standard {r : Recognizer σ} (h : r.handlers = .standard) (s : Sample) :
    r.handle s = r.conclude (r.turn.route .standard s) := by
  rw [handle, h]

/-- What a turn does with a sample, a recognizer with the standard handlers does. -/
theorem handle_of_turn {r : Recognizer σ} (h : r.handlers = .standard) {s : Sample} {d : Deed}
    (hd : r.turn.Does s d (r.turn.route .standard s).2) :
    (r.handle s).next.stance = d.apply r.stance ∧ (r.handle s).sent = d.sends := by
  rw [handle_of_standard h]
  exact ⟨hd.stance, hd.sent⟩

/-- A sample makes a recognizer with the standard handlers do one deed of the table. -/
theorem handle_does {r : Recognizer σ} (h : r.handlers = .standard) (s : Sample) :
    ∃ d : Deed, d.Fits r.context r.config.touchSlop s ∧
      (r.handle s).next.stance = d.apply r.stance ∧ (r.handle s).sent = d.sends := by
  obtain ⟨d, hd⟩ := r.turn.route_does s
  exact ⟨d, hd.fits, handle_of_turn h hd⟩

theorem reset_does (r : Recognizer σ) :
    r.reset.next.stance = r.stance.rest ∧ r.reset.sent = [] :=
  ⟨r.turn.stance_reset, r.turn.sent_reset⟩

/-- A cancel is a reset. -/
theorem handle_of_cancel (r : Recognizer σ) {s : Sample} (h : s.action = .cancel) :
    (r.handle s).next = r.reset.next ∧ (r.handle s).sent = [] := by
  have hr : r.handle s = r.conclude (true, r.turn.reset) := by simp only [handle, Turn.route, h]
  rw [hr]
  exact ⟨rfl, r.turn.sent_reset⟩

/-- A button under the pad that goes down presses the pad in every state. -/
theorem handle_of_buttonPress (r : Recognizer σ) {s : Sample} (h : s.action = .buttonPress) :
    (r.handle s).next.stance = Deed.pressPad.apply r.stance ∧
      (r.handle s).sent = Deed.pressPad.sends := by
  have hr : r.handle s =
      r.conclude (true, (r.turn.pressPad "button press").note "middle button pressed") := by
    simp only [handle, Turn.route, h]
  rw [hr]
  exact ⟨rfl, rfl⟩

/-- The second contact of a pinch begins it in every state. -/
theorem handle_of_pinch (r : Recognizer σ) {s : Sample} (h : s.action = .pointerDown)
    (htwo : s.pointerCount = 2) :
    (r.handle s).next.stance = (Deed.enter .pinchZoom).apply r.stance ∧
      (r.handle s).sent = (Deed.enter .pinchZoom).sends := by
  have hr : r.handle s = r.conclude (true, r.turn.beginPinch s) := by
    simp only [handle, Turn.route, h, if_pos htwo]
  rw [hr]
  exact ⟨rfl, rfl⟩

theorem onTimer_of_stale {r : Recognizer σ} {slot : Slot} {ticket : Ticket}
    (h : r.context.slots.get? slot ≠ some ticket) :
    (r.onTimer slot ticket).next = r ∧ (r.onTimer slot ticket).sent = [] := by
  have hd := Turn.deliver_of_stale (t := r.turn) h
  rw [onTimer, hd]
  exact ⟨rfl, r.turn.sent_log _⟩

theorem onTimer_of_live {r : Recognizer σ} {slot : Slot} {ticket : Ticket}
    (h : r.context.slots.get? slot = some ticket) :
    (r.onTimer slot ticket).next.stance = (r.stance.vacate slot).expire slot ∧
      (r.onTimer slot ticket).sent = r.stance.expirySends slot :=
  Turn.deliver_of_live (t := r.turn) h

theorem slots_onTimer_of_live {r : Recognizer σ} {slot : Slot} {ticket : Ticket}
    (h : r.context.slots.get? slot = some ticket) :
    (r.onTimer slot ticket).next.context.slots = r.context.slots.set slot none := by
  have hst := congrArg Stance.slots (onTimer_of_live h).1
  rwa [Stance.slots_expire] at hst

/-- No callback touches the scheduler. -/
theorem timers_onTimer (r : Recognizer σ) (slot : Slot) (ticket : Ticket) :
    (r.onTimer slot ticket).next.timers = r.timers := by
  by_cases h : r.context.slots.get? slot = some ticket
  · have hst := congrArg Stance.timers (onTimer_of_live h).1
    rw [Stance.timers_expire] at hst
    exact hst
  · rw [(onTimer_of_stale h).1]

theorem handlers_perform (r : Recognizer σ) (c : Call) :
    (r.perform c).next.handlers = r.handlers := by
  cases c <;> rfl

/-! ## Calls over a queue -/

/-- The callbacks that `drain` delivers, each with the recognizer that it is delivered to. -/
def deliveries (time : Time) : Nat → Recognizer Queue → List (Callback × Recognizer Queue)
  | 0, _ => []
  | fuel + 1, r =>
    match r.timers.popDue? time with
    | none => []
    | some (c, rest) =>
      let taker := { r with timers := rest }
      (c, taker) :: deliveries time fuel (taker.onTimer c.slot c.ticket).next

/-- The callbacks that a call delivers before it takes its sample. -/
def delivered (r : Recognizer Queue) (c : TimedCall) : List (Callback × Recognizer Queue) :=
  match c.time? with
  | some time => deliveries time r.timers.pending.length r
  | none => []

/-- The commands that these callbacks send. -/
def lapse (r : Recognizer Queue) (c : TimedCall) : List Command :=
  (r.delivered c).flatMap fun p => (p.2.onTimer p.1.slot p.1.ticket).sent

/-- The recognizer that takes the sample of a call. -/
def facing (r : Recognizer Queue) (c : TimedCall) : Recognizer Queue :=
  match c.time? with
  | some time => (r.advanceTo time).next
  | none => r

/-- The commands that a call sends when it takes its sample, or is reset. -/
def answer (r : Recognizer Queue) (c : TimedCall) : List Command :=
  match c.rest? with
  | some call => (r.perform call).sent
  | none => []

/-- Whatever each delivery keeps, draining keeps. -/
theorem drain_keeps {P : Recognizer Queue → Prop} {time : Time}
    (hstep : ∀ (r : Recognizer Queue) (c : Callback) (rest : Queue),
      r.timers.popDue? time = some (c, rest) → P r →
        P ({ r with timers := rest }.onTimer c.slot c.ticket).next)
    (fuel : Nat) {r : Recognizer Queue} (h : P r) : P (drain time fuel r).next := by
  induction fuel generalizing r with
  | zero => exact h
  | succ fuel ih =>
    simp only [drain]
    split
    · exact h
    · rename_i c rest hsome
      exact ih (hstep r c rest hsome h)

theorem timers_drain (time : Time) (fuel : Nat) (r : Recognizer Queue) :
    (drain time fuel r).next.timers = (Queue.drain time fuel r.timers).2 := by
  induction fuel generalizing r with
  | zero => rfl
  | succ fuel ih =>
    simp only [drain, Queue.drain]
    cases hpop : r.timers.popDue? time with
    | none => rfl
    | some p => simp only [ih, timers_onTimer]

/-- What is delivered is what the queue pops, in its order. -/
theorem fst_deliveries (time : Time) (fuel : Nat) (r : Recognizer Queue) :
    (deliveries time fuel r).map (·.1) = (Queue.drain time fuel r.timers).1 := by
  induction fuel generalizing r with
  | zero => rfl
  | succ fuel ih =>
    simp only [deliveries, Queue.drain]
    cases hpop : r.timers.popDue? time with
    | none => rfl
    | some p => simp only [List.map_cons, ih, timers_onTimer]

theorem sent_drain (time : Time) (fuel : Nat) (r : Recognizer Queue) :
    (drain time fuel r).sent =
      (deliveries time fuel r).flatMap fun p => (p.2.onTimer p.1.slot p.1.ticket).sent := by
  induction fuel generalizing r with
  | zero => rfl
  | succ fuel ih =>
    simp only [drain, deliveries]
    cases hpop : r.timers.popDue? time with
    | none => rfl
    | some p =>
      simp only [List.flatMap_cons, ← ih]
      exact Event.commands_append _ _

/-- Advancing leaves the queue as it would be without a recognizer. -/
theorem timers_advanceTo (r : Recognizer Queue) (time : Time) :
    (r.advanceTo time).next.timers = (r.timers.advanceTo time).2 := by
  simp only [advanceTo, Queue.advanceTo, moveTo, timers_drain]

/-- What the callbacks of a call leave pending is what is not due by its time. -/
theorem mem_pending_facing {r : Recognizer Queue} {c : TimedCall} {e : Callback} :
    e ∈ (r.facing c).timers.pending ↔ e ∈ r.timers.pending ∧ ¬c.Lapses e.deadline := by
  unfold facing TimedCall.Lapses
  split
  · rename_i time htime
    rw [timers_advanceTo, Queue.pending_advanceTo]
    simp [htime, UInt64.not_le]
  · rename_i htime
    simp [htime]

theorem handlers_facing (r : Recognizer Queue) (c : TimedCall) :
    (r.facing c).handlers = r.handlers := by
  unfold facing
  split
  · exact drain_keeps (P := fun q => q.handlers = r.handlers) (fun _ _ _ _ h => h) _ rfl
  · rfl

theorem next_performTimed (r : Recognizer Queue) (c : TimedCall) :
    (r.performTimed c).next =
      match c.rest? with
      | some call => ((r.facing c).perform call).next
      | none => r.facing c := by
  cases c <;> rfl

theorem handlers_performTimed (r : Recognizer Queue) (c : TimedCall) :
    (r.performTimed c).next.handlers = r.handlers := by
  rw [next_performTimed]
  split
  · rw [handlers_perform, handlers_facing]
  · exact handlers_facing r c

/-- The callbacks of a call send what advancing the clock to its time does. -/
theorem lapse_of_time {r : Recognizer Queue} {c : TimedCall} {time : Time}
    (h : c.time? = some time) : r.lapse c = (r.advanceTo time).sent := by
  simp only [lapse, delivered, h]
  exact (sent_drain time _ r).symm

/-- A call sends what its callbacks send, and then what its sample makes it send. -/
theorem sent_performTimed (r : Recognizer Queue) (c : TimedCall) :
    (r.performTimed c).sent = r.lapse c ++ (r.facing c).answer c := by
  cases c with
  | plain c => rfl
  | handleAt s =>
    have happ : (r.performTimed (.handleAt s)).sent =
        (r.advanceTo s.time).sent ++ ((r.advanceTo s.time).next.handle s).sent :=
      Event.commands_append _ _
    rw [happ, ← lapse_of_time (c := .handleAt s) rfl]
    rfl
  | advanceTo time =>
    have happ : (r.performTimed (.advanceTo time)).sent = (r.advanceTo time).sent := rfl
    rw [happ, ← lapse_of_time (c := .advanceTo time) rfl]
    exact (List.append_nil _).symm

end Recognizer

end Trackpad
