import Trackpad.Proofs.Coherence

/-!
# Exchange — two callbacks delivered in either order

A scheduler promises no order of delivery, so a host may deliver two live callbacks either way
round. What they do to the stance commutes, from every stance (`Stance.deliver_comm`). What they
send does not depend on who comes first either, but for one pair: the postponed click of a tap looks
at the window that the other timer of the tap closes (`Stance.expirySends_deliver`). The click is
sent if it comes first, and dropped if the window has closed by then.

A callback changes nothing outside the stance but the debug history (`withoutHistory_onTimer`), so
contexts agree as far as stances do.
-/

namespace Trackpad

/-- The slot is one of the two that an accepted tap arms. -/
def Slot.IsOfTap (slot : Slot) : Prop := slot = .delayedClick ∨ slot = .doubleTapExpiry

instance : DecidablePred Slot.IsOfTap := fun slot =>
  inferInstanceAs (Decidable (slot = .delayedClick ∨ slot = .doubleTapExpiry))

theorem Slots.set_comm (s : Slots) {a b : Slot} (h : a ≠ b) (ta tb : Option Ticket) :
    (s.set a ta).set b tb = (s.set b tb).set a ta := by
  cases a <;> cases b <;> first | rfl | exact absurd rfl h

/-! ## Stances -/

namespace Stance

variable {σ : Type}

/-- A live callback is delivered: its ticket is taken from its slot, and it comes due. -/
def deliver (v : Stance σ) (slot : Slot) : Stance σ := (v.vacate slot).expire slot

theorem expire_of_drag {v : Stance σ} (h : v.state = .dragActive) :
    v.expire .dragTimeout = { v with window := .idle, state := .hoverTracking } :=
  if_pos h

theorem expire_of_not_drag {v : Stance σ} (h : v.state ≠ .dragActive) :
    v.expire .dragTimeout = v :=
  if_neg h

theorem state_deliver_of_not_drag {v : Stance σ} (h : v.state ≠ .dragActive) (slot : Slot) :
    (v.deliver slot).state = v.state := by
  cases slot with
  | dragTimeout =>
    have hdrag : (v.vacate .dragTimeout).state ≠ .dragActive := h
    rw [deliver, expire_of_not_drag hdrag, state_vacate]
  | _ => rfl

theorem window_deliver (v : Stance σ) (slot : Slot) :
    (v.deliver slot).window = v.window ∨ (v.deliver slot).window = .idle := by
  cases slot with
  | delayedClick | twoFingerTapExpiry => exact .inl rfl
  | doubleTapExpiry => exact .inr rfl
  | dragTimeout =>
    simp only [deliver, expire]
    split
    · exact .inr rfl
    · exact .inl rfl

theorem vacate_comm (v : Stance σ) {a b : Slot} (h : a ≠ b) :
    (v.vacate a).vacate b = (v.vacate b).vacate a := by
  simp only [vacate, v.slots.set_comm h]

theorem vacate_expire (v : Stance σ) (a b : Slot) :
    (v.expire a).vacate b = (v.vacate b).expire a := by
  cases a with
  | dragTimeout =>
    by_cases hdrag : v.state = .dragActive
    · have hdrag' : (v.vacate b).state = .dragActive := hdrag
      rw [expire_of_drag hdrag, expire_of_drag hdrag']
      rfl
    · have hdrag' : (v.vacate b).state ≠ .dragActive := hdrag
      rw [expire_of_not_drag hdrag, expire_of_not_drag hdrag']
  | _ => rfl

theorem expire_comm (v : Stance σ) (a b : Slot) :
    (v.expire a).expire b = (v.expire b).expire a := by
  by_cases hdrag : v.state = .dragActive
  · cases a <;> cases b <;> simp [expire, hdrag]
  · cases a <;> cases b <;> simp [expire, hdrag]

/-- **Deliveries commute** in what they do to the stance. -/
theorem deliver_comm (v : Stance σ) {a b : Slot} (h : a ≠ b) :
    (v.deliver a).deliver b = (v.deliver b).deliver a := by
  calc ((v.vacate a).expire a |>.vacate b).expire b
      = (((v.vacate a).vacate b).expire a).expire b := by rw [vacate_expire]
    _ = (((v.vacate b).vacate a).expire b).expire a := by rw [v.vacate_comm h, expire_comm]
    _ = ((v.vacate b).expire b |>.vacate a).expire a := by rw [vacate_expire]

theorem expirySends_vacate (v : Stance σ) (a b : Slot) :
    (v.vacate a).expirySends b = v.expirySends b := by
  cases b <;> rfl

/-- In a drag, only the timeout sends anything. -/
theorem expirySends_of_drag {v : Stance σ} (h : v.state = .dragActive) {slot : Slot}
    (hs : slot ≠ .dragTimeout) : v.expirySends slot = [] := by
  cases slot with
  | delayedClick => exact if_neg fun hclick => hclick.2 h
  | dragTimeout => exact absurd rfl hs
  | _ => rfl

/-- Outside a drag, only a postponed click does. -/
theorem expirySends_of_not_drag {v : Stance σ} (h : v.state ≠ .dragActive) {slot : Slot}
    (hs : slot ≠ .delayedClick) : v.expirySends slot = [] := by
  cases slot with
  | delayedClick => exact absurd rfl hs
  | dragTimeout => exact if_neg h
  | _ => rfl

theorem expirySends_eq_nil_or (v : Stance σ) {a b : Slot} (h : a ≠ b) :
    v.expirySends a = [] ∨ v.expirySends b = [] := by
  by_cases hdrag : v.state = .dragActive
  · by_cases ha : a = .dragTimeout
    · exact .inr (expirySends_of_drag hdrag fun hb => h (ha.trans hb.symm))
    · exact .inl (expirySends_of_drag hdrag ha)
  · by_cases ha : a = .delayedClick
    · exact .inr (expirySends_of_not_drag hdrag fun hb => h (ha.trans hb.symm))
    · exact .inl (expirySends_of_not_drag hdrag ha)

/-- Whether a callback sends does not depend on what was delivered before it, unless it is the click
of a tap and the window of the tap was closed. -/
theorem expirySends_deliver (v : Stance σ) {a b : Slot} (h : a ≠ b)
    (hpair : ¬(a = .doubleTapExpiry ∧ b = .delayedClick)) :
    (v.deliver a).expirySends b = v.expirySends b := by
  rw [deliver, ← v.expirySends_vacate a b]
  generalize v.vacate a = w
  cases a with
  | delayedClick | twoFingerTapExpiry => cases b <;> rfl
  | doubleTapExpiry =>
    cases b with
    | delayedClick => exact absurd ⟨rfl, rfl⟩ hpair
    | _ => rfl
  | dragTimeout =>
    cases b with
    | dragTimeout => exact absurd rfl h
    | delayedClick =>
      -- In a drag the click is dropped either way: for the drag, or for the window it has closed.
      by_cases hdrag : w.state = .dragActive
      · simp [expire, expirySends, hdrag, Window.isArmed]
      · rw [expire_of_not_drag hdrag]
    | _ => rfl

/-- Where both timers of a tap are live, its click goes out if it is delivered first. -/
theorem Coherent.sends_of_tap {v : Stance σ} (h : v.Coherent)
    (hclick : v.slots.isArmed .delayedClick = true)
    (hexpiry : v.slots.isArmed .doubleTapExpiry = true) :
    v.expirySends .delayedClick = [.click .left] ∧
      (v.deliver .doubleTapExpiry).expirySends .delayedClick = [] := by
  have hclosed : (v.deliver .doubleTapExpiry).window.isArmed = false := rfl
  constructor
  · exact if_pos ⟨h.window.trans hexpiry, h.not_drag hclick⟩
  · simp only [expirySends, hclosed, Bool.false_eq_true, false_and, if_false]

end Stance

/-! ## Contexts -/

/-- The context without its debug history. -/
def Context.withoutHistory (c : Context) : Context := { c with history := {} }

/-- The context as it would be in another stance, without its debug history. -/
def Context.inStance {σ : Type} (c : Context) (v : Stance σ) : Context :=
  { c with
    state := v.state
    window := v.window
    twoFingerTap := v.twoFingerTap
    slots := v.slots
    history := {} }

variable {σ : Type} [Scheduler σ]

theorem Turn.inStance_endDrag (t : Turn σ) (reason : String) (v : Stance σ) :
    (t.endDrag reason).context.inStance v = t.context.inStance v := rfl

theorem Turn.inStance_expire (t : Turn σ) (slot : Slot) (v : Stance σ) :
    (t.expire slot).2.context.inStance v = t.context.inStance v := by
  cases slot with
  | delayedClick =>
    simp only [expire, onDelayedClick]
    split <;> rfl
  | doubleTapExpiry =>
    simp only [expire, onDoubleTapExpiry]
    split <;> rfl
  | twoFingerTapExpiry => rfl
  | dragTimeout =>
    simp only [expire, onDragTimeout]
    split
    · exact t.inStance_endDrag _ v
    · rfl

/-- Outside the stance and the history, a callback leaves the context as it is. -/
theorem Turn.inStance_deliver (t : Turn σ) (slot : Slot) (ticket : Ticket) (v : Stance σ) :
    (t.deliver slot ticket).2.context.inStance v = t.context.inStance v := by
  unfold deliver
  split
  · rfl
  · rw [Turn.inStance_expire]
    rfl

namespace Recognizer

theorem inStance_onTimer (r : Recognizer σ) (slot : Slot) (ticket : Ticket) (v : Stance σ) :
    (r.onTimer slot ticket).next.context.inStance v = r.context.inStance v :=
  r.turn.inStance_deliver slot ticket v

theorem withoutHistory_onTimer (r : Recognizer σ) (slot : Slot) (ticket : Ticket) :
    (r.onTimer slot ticket).next.context.withoutHistory =
      r.context.inStance (r.onTimer slot ticket).next.stance :=
  r.inStance_onTimer slot ticket (r.onTimer slot ticket).next.stance

/-- Two live callbacks, one after the other. -/
theorem onTimer_onTimer {r : Recognizer σ} {a b : Slot} {ta tb : Ticket} (h : a ≠ b)
    (ha : r.context.slots.get? a = some ta) (hb : r.context.slots.get? b = some tb) :
    let calls := [Call.onTimer a ta, .onTimer b tb]
    let v := (r.stance.deliver a).deliver b
    (after perform r calls).context.withoutHistory = r.context.inStance v ∧
      (after perform r calls).timers = r.timers ∧
      sentIn perform r calls = r.stance.expirySends a ++ (r.stance.deliver a).expirySends b := by
  intro calls v
  let q := (r.onTimer a ta).next
  have hbq : q.context.slots.get? b = some tb := by
    rw [slots_onTimer_of_live ha, Slots.get?_set_ne _ h.symm, hb]
  obtain ⟨hstance, hsent⟩ := onTimer_of_live ha
  obtain ⟨hstance', hsent'⟩ := onTimer_of_live hbq
  have hend : after perform r calls = (q.onTimer b tb).next := rfl
  rw [hend]
  refine ⟨?_, ?_, ?_⟩
  · rw [q.withoutHistory_onTimer b tb, r.inStance_onTimer a ta, hstance', hstance]
    rfl
  · rw [timers_onTimer, timers_onTimer]
  · have hsplit : sentIn perform r calls = (r.onTimer a ta).sent ++ (q.onTimer b tb).sent := by
      rw [sentIn_cons, sentIn_singleton]
      rfl
    rw [hsplit, hsent, hsent', hstance]
    rfl

/-- **The order of two deliveries.** Whatever samples, callbacks and resets come before, in whatever
order, and whatever the scheduler does: two live callbacks of different slots lead to the same
context, its debug history apart, and to the same scheduler, whichever is delivered first. They send
the same commands, unless they are the two timers of a tap: then the click of the tap is sent if it
comes first, and nothing is sent if the window closes first. -/
theorem deliveries_exchange (config : Config) (timers : σ) (calls : List Call) (a b : Slot)
    (ta tb : Ticket) :
    let r := after perform (new config timers) calls
    let first := [Call.onTimer a ta, .onTimer b tb]
    let second := [Call.onTimer b tb, .onTimer a ta]
    a ≠ b → r.context.slots.get? a = some ta → r.context.slots.get? b = some tb →
      (after perform r first).context.withoutHistory =
        (after perform r second).context.withoutHistory ∧
      (after perform r first).timers = (after perform r second).timers ∧
      (¬(a.IsOfTap ∧ b.IsOfTap) → sentIn perform r first = sentIn perform r second) ∧
      (a = .delayedClick → b = .doubleTapExpiry →
        sentIn perform r first = [.click .left] ∧ sentIn perform r second = []) := by
  intro r first second hne ha hb
  obtain ⟨hcontext, htimers, hsent⟩ := onTimer_onTimer hne ha hb
  obtain ⟨hcontext', htimers', hsent'⟩ := onTimer_onTimer hne.symm hb ha
  refine ⟨?_, htimers.trans htimers'.symm, fun hpair => ?_, ?_⟩
  · rw [hcontext, hcontext', r.stance.deliver_comm hne]
  · -- Neither looks at what the other changes, and one of them is silent.
    have hab : ¬(a = .doubleTapExpiry ∧ b = .delayedClick) :=
      fun h => hpair ⟨.inr h.1, .inl h.2⟩
    have hba : ¬(b = .doubleTapExpiry ∧ a = .delayedClick) :=
      fun h => hpair ⟨.inl h.2, .inr h.1⟩
    rw [hsent, hsent', r.stance.expirySends_deliver hne hab,
      r.stance.expirySends_deliver hne.symm hba]
    rcases r.stance.expirySends_eq_nil_or hne with hnil | hnil
    · rw [hnil, List.nil_append, List.append_nil]
    · rw [hnil, List.nil_append, List.append_nil]
  · rintro rfl rfl
    have hcoherent : r.stance.Coherent := coherent_after config timers calls
    obtain ⟨hfirst, hsecond⟩ :=
      hcoherent.sends_of_tap (Slots.isArmed_of_get? ha) (Slots.isArmed_of_get? hb)
    rw [hsent, hsent', hfirst, hsecond]
    exact ⟨rfl, rfl⟩

/-- Two fingers become a pinch, and a tap after it a drag: the timers of both are live, and the
release of the drag goes out whichever comes first. -/
theorem deliveries_exchange_dragging :
    let touch := (Sample.single .down ⟨10, 10⟩ 0).withFlags .twoFinger
    let second := (Sample.single .pointerDown ⟨10, 10⟩ 10).withPointerCount 2
    let samples := [touch, second, .single .up ⟨10, 10⟩ 20, .single .down ⟨10, 10⟩ 30,
      .single .up ⟨10, 10⟩ 40, .single .hoverEnter ⟨10, 10⟩ 50, .single .hoverMove ⟨12, 10⟩ 60]
    let r := after perform (new {} (Queue.startingAt 0)) (samples.map .handle)
    sentIn perform r [.onTimer .dragTimeout ⟨3⟩, .onTimer .twoFingerTapExpiry ⟨0⟩] =
        [.release .left] ∧
      sentIn perform r [.onTimer .twoFingerTapExpiry ⟨0⟩, .onTimer .dragTimeout ⟨3⟩] =
        [.release .left] := by
  intro touch second samples r
  have hall := deliveries_exchange {} (Queue.startingAt 0) (samples.map .handle) .dragTimeout
    .twoFingerTapExpiry ⟨3⟩ ⟨0⟩ nofun (by decide +kernel) (by decide +kernel)
  have hfirst : sentIn perform r
      [.onTimer .dragTimeout ⟨3⟩, .onTimer .twoFingerTapExpiry ⟨0⟩] = [.release .left] := by
    decide +kernel
  exact ⟨hfirst, (hall.2.2.1 (by decide)).symm.trans hfirst⟩

/-- The two orders are not the same for the two timers of a tap. -/
theorem exchanged_click_is_dropped :
    let samples := [Sample.single .down ⟨10, 10⟩ 0, .single .up ⟨10, 10⟩ 40]
    let r := after perform (new {} (Queue.startingAt 0)) (samples.map .handle)
    r.context.slots.get? .delayedClick = some ⟨0⟩ ∧
      r.context.slots.get? .doubleTapExpiry = some ⟨1⟩ ∧
      sentIn perform r [.onTimer .delayedClick ⟨0⟩, .onTimer .doubleTapExpiry ⟨1⟩] ≠
        sentIn perform r [.onTimer .doubleTapExpiry ⟨1⟩, .onTimer .delayedClick ⟨0⟩] := by
  decide +kernel

end Recognizer

end Trackpad
