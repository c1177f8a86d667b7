import Trackpad.Proofs.Run

/-!
# Coherence — slots and sub-states say the same

Two sub-states are kept beside the primary state, the double-tap window and the wait for a
two-finger tap, and each has a timer that ends it. Nothing ever compares a sub-state with the slot
of its timer. `Stance.Coherent` says that they agree, and what makes this inductive: a drag has its
timeout armed and no tap waiting, so that ending the drag may close the window without a word to
its timer.

Every deed keeps coherence (`Stance.Coherent.apply`), so does every live callback
(`Stance.Coherent.expire`), and therefore every call and every run, over any scheduler.
-/

namespace Trackpad

/-- Slots and sub-states agree. -/
structure Stance.Coherent {σ : Type} (v : Stance σ) : Prop where
  window : v.window.isArmed = v.slots.isArmed .doubleTapExpiry
  tap : v.twoFingerTap = v.slots.isArmed .twoFingerTapExpiry
  drag : v.state = .dragActive →
    v.slots.isArmed .dragTimeout = true ∧ v.window = .idle ∧
      v.slots.isArmed .delayedClick = false ∧ v.slots.isArmed .doubleTapExpiry = false

theorem Stance.coherent_rest {σ : Type} [Scheduler σ] (v : Stance σ) : v.rest.Coherent :=
  ⟨rfl, rfl, by simp [Stance.rest]⟩

namespace Stance.Coherent

variable {σ : Type} {v : Stance σ}

theorem withTimers (h : v.Coherent) (timers : σ) : { v with timers := timers }.Coherent :=
  ⟨h.window, h.tap, h.drag⟩

/-- Where a click is still postponed there is no drag. -/
theorem not_drag (h : v.Coherent) (hc : v.slots.isArmed .delayedClick = true) :
    v.state ≠ .dragActive := by
  intro hd
  rw [(h.drag hd).2.2.1] at hc
  cases hc

theorem expire (h : v.Coherent) {slot : Slot} (hl : v.slots.isArmed slot = true) :
    ((v.vacate slot).expire slot).Coherent := by
  cases slot with
  | delayedClick =>
    have hw : v.state ≠ .dragActive := h.not_drag hl
    exact ⟨by simpa [Stance.expire] using h.window, by simpa [Stance.expire] using h.tap,
      fun hd => absurd hd hw⟩
  | doubleTapExpiry =>
    refine ⟨by simp [Stance.expire, Window.isArmed], by simpa [Stance.expire] using h.tap, ?_⟩
    intro hd
    obtain ⟨h1, -, h3, -⟩ := h.drag hd
    simp [Stance.expire, h1, h3]
  | twoFingerTapExpiry =>
    refine ⟨by simpa [Stance.expire] using h.window, by simp [Stance.expire], ?_⟩
    intro hd
    obtain ⟨h1, h2, h3, h4⟩ := h.drag hd
    simp [Stance.expire, h1, h3, h4]
    exact h2
  | dragTimeout =>
    simp only [Stance.expire]
    split
    · rename_i hd
      obtain ⟨-, -, -, h4⟩ := h.drag hd
      exact ⟨by simp [Window.isArmed, h4], by simpa using h.tap, by simp⟩
    · rename_i hd
      exact ⟨by simpa using h.window, by simpa using h.tap, fun he => absurd he hd⟩

variable [Scheduler σ]

theorem apply (h : v.Coherent) {d : Deed} {c : Context} {slop : Float} {s : Sample}
    (hc : c.state = v.state) (hf : d.Fits c slop s) : (d.apply v).Coherent := by
  cases d with
  | nothing | point _ | hold _ | wheel _ => exact h
  | enter target => exact ⟨h.window, h.tap, fun hd => absurd hd hf.1⟩
  | pressPad | releasePad => exact ⟨h.window, h.tap, by simp [Deed.apply]⟩
  | acceptTap deadline =>
    exact ⟨by simp [Deed.apply, Window.isArmed], by simpa [Deed.apply] using h.tap,
      by simp [Deed.apply]⟩
  | touchTwo | liftTwo _ | scrollTwo _ =>
    exact ⟨by simpa [Deed.apply] using h.window, by simp [Deed.apply], by simp [Deed.apply]⟩
  | beginDrag _ =>
    exact ⟨by simp [Deed.apply, Window.isArmed], by simpa [Deed.apply] using h.tap,
      by simp [Deed.apply]⟩
  | keepDrag _ =>
    -- The timeout is armed anew; the other parts of a drag are not touched.
    refine ⟨by simpa [Deed.apply] using h.window, by simpa [Deed.apply] using h.tap, fun hd => ?_⟩
    simpa [Deed.apply] using (h.drag hd).2
  | endDrag =>
    -- The slot of the window's timer is empty during a drag, so the window may close alone.
    have hempty := (h.drag (hc ▸ hf)).2.2.2
    exact ⟨by simp [Deed.apply, Window.isArmed, hempty], by simpa [Deed.apply] using h.tap,
      by simp [Deed.apply]⟩
  | drop => exact v.coherent_rest

end Stance.Coherent

namespace Recognizer

variable {σ : Type} [Scheduler σ]

theorem coherent_onTimer {r : Recognizer σ} (h : r.stance.Coherent) (slot : Slot)
    (ticket : Ticket) : (r.onTimer slot ticket).next.stance.Coherent := by
  by_cases hl : r.context.slots.get? slot = some ticket
  · rw [(onTimer_of_live hl).1]
    exact h.expire (Slots.isArmed_of_get? hl)
  · rw [(onTimer_of_stale hl).1]
    exact h

theorem coherent_perform {r : Recognizer σ} (hb : r.handlers = .standard)
    (h : r.stance.Coherent) (c : Call) : (r.perform c).next.stance.Coherent := by
  cases c with
  | handle s =>
    obtain ⟨d, hf, hst, -⟩ := handle_does hb s
    rw [show ((r.perform (.handle s)).next.stance) = (r.handle s).next.stance from rfl, hst]
    exact h.apply rfl hf
  | onTimer slot ticket => exact coherent_onTimer h slot ticket
  | reset =>
    rw [show (r.perform .reset).next.stance = r.reset.next.stance from rfl, r.reset_does.1]
    exact r.stance.coherent_rest

theorem coherent_new (config : Config) (timers : σ) : (new config timers).stance.Coherent :=
  ⟨rfl, rfl, fun hd => nomatch hd⟩

theorem coherent_after (config : Config) (timers : σ) (calls : List Call) :
    (after perform (new config timers) calls).stance.Coherent := by
  have hrun : (after perform (new config timers) calls).handlers = .standard ∧
      (after perform (new config timers) calls).stance.Coherent :=
    after_keeps (P := fun r => r.handlers = .standard ∧ r.stance.Coherent)
      (fun r c _ h => ⟨(r.handlers_perform c).trans h.1, coherent_perform h.1 h.2 c⟩)
      ⟨rfl, coherent_new config timers⟩
  exact hrun.2

theorem coherent_advanceTo {r : Recognizer Queue} (h : r.stance.Coherent) (time : Time) :
    (r.advanceTo time).next.stance.Coherent := by
  have hdrained : (drain time r.timers.pending.length r).next.stance.Coherent :=
    drain_keeps (P := fun q => q.stance.Coherent)
      (fun _ c rest _ h => coherent_onTimer (h.withTimers rest) c.slot c.ticket) _ h
  exact hdrained.withTimers _

theorem coherent_performTimed {r : Recognizer Queue} (hb : r.handlers = .standard)
    (h : r.stance.Coherent) (c : TimedCall) : (r.performTimed c).next.stance.Coherent := by
  cases c with
  | plain c => exact coherent_perform hb h c
  | handleAt s =>
    have hf : (r.facing (.handleAt s)).handlers = .standard := (r.handlers_facing _).trans hb
    exact coherent_perform hf (coherent_advanceTo h s.time) (.handle s)
  | advanceTo time => exact coherent_advanceTo h time

theorem coherent_afterTimed (config : Config) (q : Queue) (calls : List TimedCall) :
    (after performTimed (new config q) calls).stance.Coherent := by
  have hrun : (after performTimed (new config q) calls).handlers = .standard ∧
      (after performTimed (new config q) calls).stance.Coherent :=
    after_keeps (P := fun r => r.handlers = .standard ∧ r.stance.Coherent)
      (fun r c _ h => ⟨(r.handlers_performTimed c).trans h.1, coherent_performTimed h.1 h.2 c⟩)
      ⟨rfl, coherent_new config q⟩
  exact hrun.2

/-- **Slots follow the sub-states.** Whatever samples, callbacks and resets come, in whatever
order, and whatever the scheduler does: the double-tap window is armed exactly while its timer is
live, a two-finger tap is waited for exactly while its timer is live, and during a drag the timeout
is live, the window is idle, and neither the click nor the end of the window of a tap is. -/
theorem slots_follow_substates (config : Config) (timers : σ) (calls : List Call) :
    let c := (after perform (new config timers) calls).context
    (c.window.isArmed = true ↔ ∃ ticket, c.slots.get? .doubleTapExpiry = some ticket) ∧
    (c.twoFingerTap = true ↔ ∃ ticket, c.slots.get? .twoFingerTapExpiry = some ticket) ∧
    (c.state = .dragActive →
      (∃ ticket, c.slots.get? .dragTimeout = some ticket) ∧ c.window = .idle ∧
        c.slots.get? .delayedClick = none ∧ c.slots.get? .doubleTapExpiry = none) := by
  have hrun : (after perform (new config timers) calls).handlers = .standard ∧
      (after perform (new config timers) calls).stance.Coherent :=
    after_keeps (P := fun r => r.handlers = .standard ∧ r.stance.Coherent)
      (fun r c _ h => ⟨(r.handlers_perform c).trans h.1, coherent_perform h.1 h.2 c⟩)
      ⟨rfl, coherent_new config timers⟩
  obtain ⟨-, hwindow, htap, hdrag⟩ := hrun
  intro c
  refine ⟨?_, ?_, ?_⟩
  · rw [← Option.isSome_iff_exists]
    exact (congrArg (· = true) hwindow).to_iff
  · rw [← Option.isSome_iff_exists]
    exact (congrArg (· = true) htap).to_iff
  · intro hd
    obtain ⟨h1, h2, h3, h4⟩ := hdrag hd
    exact ⟨Option.isSome_iff_exists.1 h1, h2, Slots.isArmed_eq_false_iff.1 h3,
      Slots.isArmed_eq_false_iff.1 h4⟩

end Recognizer

end Trackpad
