import Trackpad.Proofs.Reaction

/-!
# Deed — the standard handlers follow the transition table

Whatever a handler makes of a sample (`Turn.Reacts`) is one deed of the table that fits the state
the handler is for, and the same follows for `Turn.route`. For the samples that matter most, the
tap and the hovering move that turns a tap into a drag, it is also said which deed it is. The module
ends with what callbacks do to the stance.
-/

namespace Trackpad

variable {σ : Type} [Scheduler σ]

/-- From the turn `t`, the deed `d` fits the sample and leads to the turn `u`. -/
structure Turn.Does (t : Turn σ) (s : Sample) (d : Deed) (u : Turn σ) : Prop where
  fits : d.Fits t.context t.slop s
  stance : u.stance = d.apply t.stance
  sent : u.sent = t.sent ++ d.sends

omit [Scheduler σ] in
/-- A state that holds no button is left for another such state. -/
theorem Turn.fits_enter {t : Turn σ} {s : Sample} {source target : State} (hs : t.state = source)
    (hsource : source ≠ .dragActive ∧ source ≠ .physicalClick)
    (htarget : target ≠ .dragActive ∧ target ≠ .physicalClick) :
    (Deed.enter target).Fits t.context t.slop s := by
  subst hs
  exact ⟨htarget.1, htarget.2, .inr hsource⟩

/-- What a contact begins is a deed. -/
theorem Turn.Begins.does {t u : Turn σ} {s : Sample} (h : t.Begins s u) (hs : t.state = .idle)
    (ha : s.action = .down) : ∃ d, t.Does s d u := by
  cases h with
  | tap _ =>
    exact ⟨.enter .singleTapPending, Turn.fits_enter hs (by decide) (by decide), rfl,
      by simp [Deed.sends]⟩
  | two _ => exact ⟨.touchTwo, hs, rfl, by simp [Deed.sends]⟩
  | pinch _ =>
    exact ⟨.enter .pinchZoom, Turn.fits_enter hs (by decide) (by decide), rfl,
      by simp [Deed.sends]⟩
  | press _ => exact ⟨.pressPad, .inr ⟨hs, ha⟩, rfl, by simp [Deed.sends]⟩
  | nothing _ => exact ⟨.nothing, trivial, rfl, by simp [Deed.sends]⟩

/-- Whatever a handler makes of a sample is a deed. -/
theorem Turn.Reacts.does {t : Turn σ} {s : Sample} {state : State} {outcome : Bool × Turn σ}
    (h : t.Reacts s state outcome) (hs : t.state = state) : ∃ d, t.Does s d outcome.2 := by
  cases h with
  | ignored _ | jittered _ _ | kept _ | thinned _ _ =>
    exact ⟨.nothing, trivial, rfl, by simp [Deed.sends]⟩
  | approached _ =>
    exact ⟨.enter .hoverTracking, Turn.fits_enter hs (by decide) (by decide), rfl,
      by simp [Deed.sends]⟩
  | touched ha hbegins => exact hbegins.does hs ha
  | pressed ha => exact ⟨.pressPad, .inl ha, rfl, by simp [Deed.sends]⟩
  | grabbed ha hwindow =>
    exact ⟨.beginDrag s.position, ⟨⟨ha, hs⟩, hwindow⟩, rfl, by simp [Deed.sends]⟩
  | pointed ha hwindow =>
    exact ⟨.point s.position, ⟨⟨ha, hs⟩, hwindow⟩, rfl, by simp [Deed.sends]⟩
  | departed _ | slid _ _ | strayed _ _ | withdrawn _ | finished _ | parted _ _ | ended _ =>
    exact ⟨.enter .idle, Turn.fits_enter hs (by decide) (by decide), rfl, by simp [Deed.sends]⟩
  | tapped ha hnear => exact ⟨.acceptTap _, ⟨⟨ha, hs, hnear⟩, rfl⟩, rfl, by simp [Deed.sends]⟩
  | dragged _ => exact ⟨.keepDrag s.position, hs, rfl, by simp [Deed.sends]⟩
  | dropped _ => exact ⟨.endDrag, hs, rfl, by simp [Deed.sends]⟩
  | clicked _ _ => exact ⟨.liftTwo true, hs, rfl, by simp [Deed.sends]⟩
  | lifted _ _ => exact ⟨.liftTwo false, hs, rfl, by simp [Deed.sends]⟩
  | moved _ =>
    obtain ⟨p, -, hscroll⟩ :=
      Turn.scrollTo_eq (t.dropTwoFingerTap.transition .twoFingerScroll "two-finger move") s
    rw [hscroll]
    refine ⟨.scrollTwo (.travel t.context.scroll.anchor s.position),
      ⟨hs, Command.isWheel_travel _ _⟩, rfl, ?_⟩
    simp only [Turn.sent_update, Turn.sent_emit, Turn.sent_transition]
    rfl
  | taken _ =>
    exact ⟨.enter .twoFingerScroll, Turn.fits_enter hs (by decide) (by decide), rfl,
      by simp [Deed.sends]⟩
  | wheeled _ =>
    obtain ⟨p, -, hscroll⟩ := t.scrollTo_eq s
    rw [hscroll]
    exact ⟨.wheel (.travel t.context.scroll.anchor s.position),
      ⟨.inl hs, Command.isWheel_travel _ _⟩, rfl, by simp [Deed.sends]⟩
  | pinched _ _ =>
    obtain ⟨p, hstill | ⟨step, hzoom⟩⟩ := t.pinchTo_eq s
    · rw [hstill]
      exact ⟨.nothing, trivial, rfl, by simp [Deed.sends]⟩
    · rw [hzoom]
      exact ⟨.wheel (.scrollWithCtrl 0 step), ⟨.inr hs, trivial⟩, rfl, by simp [Deed.sends]⟩
  | released _ => exact ⟨.releasePad, hs, rfl, by simp [Deed.sends]⟩
  | held _ => exact ⟨.hold s.position, hs, rfl, by simp [Deed.sends]⟩

/-- What is noted down before a reaction makes no difference to the table. -/
theorem Turn.Does.of_noteSample {t u : Turn σ} {s : Sample} {d : Deed} {label : String}
    (h : (t.noteSample label s).Does s d u) : t.Does s d u :=
  ⟨by cases d <;> exact h.fits, h.stance, by simpa using h.sent⟩

theorem Turn.Does.of_classify {t u : Turn σ} {s : Sample} {d : Deed}
    (h : (t.classify s).Does s d u) : t.Does s d u :=
  ⟨by cases d <;> exact h.fits, h.stance, by simpa using h.sent⟩

/-- The standard handlers, taken together, follow the table. -/
theorem Registry.dispatch_does (t : Turn σ) (s : Sample) :
    ∃ d, t.Does s d (Registry.standard.dispatch s t).2 := by
  obtain ⟨label, hreacts⟩ := t.reacts_dispatch s
  exact (hreacts.does rfl).imp fun _ hd => hd.of_noteSample

@[simp] theorem Turn.stance_reset (t : Turn σ) : t.reset.stance = t.stance.rest := by
  simp only [Turn.reset]
  split <;> rfl

@[simp] theorem Turn.sent_reset (t : Turn σ) : t.reset.sent = t.sent := by
  simp only [Turn.reset]
  split <;> simp

/-- Everything a sample can lead to follows the table, the reactions outside the handlers included. -/
theorem Turn.route_does (t : Turn σ) (s : Sample) :
    ∃ d, t.Does s d (t.route .standard s).2 := by
  have hroutes := t.routes s
  generalize (t.route .standard s).2 = u at hroutes ⊢
  cases hroutes with
  | ignored => exact ⟨.nothing, trivial, rfl, by simp [Deed.sends]⟩
  | pinched ha htwo =>
    exact ⟨.enter .pinchZoom, ⟨nofun, nofun, .inl ⟨rfl, ha, htwo⟩⟩, rfl, by simp [Deed.sends]⟩
  | pressed ha => exact ⟨.pressPad, .inl ha, rfl, by simp [Deed.sends]⟩
  | dropped ha => exact ⟨.drop, ha, by simp [Deed.apply], by simp [Deed.sends]⟩
  | lifted _ => exact Registry.dispatch_does t s
  | handed _ => exact (Registry.dispatch_does (t.classify s) s).imp fun _ h => h.of_classify

/-- A contact that comes down at rest begins what its kind suggests. -/
theorem Turn.snd_route_of_down {t : Turn σ} {s : Sample} (hs : t.state = .idle)
    (ha : s.action = .down) :
    (t.route .standard s).2 = ((t.classify s).noteSample "idle" s).beginContact s :=
  congrArg Prod.snd (Turn.route_of_reacts hs rfl (ha ▸ trivial) (.touched ha (Turn.begins _ s)))

theorem Turn.snd_route_of_taps {t : Turn σ} {s : Sample} (h : t.context.Taps t.slop s) :
    (t.route .standard s).2 = ((t.classify s).noteSample "tap" s).acceptTap s := by
  obtain ⟨ha, hs, hd⟩ := h
  exact congrArg Prod.snd (Turn.route_of_reacts hs rfl (ha ▸ trivial) (.tapped ha hd))

/-- A tap is accepted. -/
theorem Turn.route_of_taps {t : Turn σ} {s : Sample} (h : t.context.Taps t.slop s) :
    t.Does s (.acceptTap (s.time.plus Slot.doubleTapExpiry.delayMillis))
      (t.route .standard s).2 := by
  rw [Turn.snd_route_of_taps h]
  exact ⟨⟨h, rfl⟩, rfl, by simp [Deed.sends]⟩

/-- A finger that hovers and moves while a tap waits begins a drag. -/
theorem Turn.route_of_hovers {t : Turn σ} {s : Sample} (h : t.context.Hovers s)
    (hw : t.context.window.isArmed = true) :
    t.Does s (.beginDrag s.position) (t.route .standard s).2 := by
  obtain ⟨ha, hs⟩ := h
  have hr : (t.route .standard s).2 = ((t.classify s).noteSample "hover" s).beginDrag s :=
    congrArg Prod.snd (Turn.route_of_reacts hs rfl (ha ▸ trivial) (.grabbed ha hw))
  rw [hr]
  exact ⟨⟨⟨ha, hs⟩, hw⟩, rfl, by simp [Deed.sends]⟩

/-- Where no tap waits, the cursor follows it. -/
theorem Turn.route_of_hovers_closed {t : Turn σ} {s : Sample} (h : t.context.Hovers s)
    (hw : t.context.window.isArmed = false) :
    t.Does s (.point s.position) (t.route .standard s).2 := by
  obtain ⟨ha, hs⟩ := h
  have hr : (t.route .standard s).2 =
      ((t.classify s).noteSample "hover" s).emit (.move s.position false) :=
    congrArg Prod.snd (Turn.route_of_reacts hs rfl (ha ▸ trivial) (.pointed ha hw))
  rw [hr]
  exact ⟨⟨⟨ha, hs⟩, hw⟩, rfl, by simp [Deed.sends]⟩

/-- A hovering movement keeps a drag up. -/
theorem Turn.route_of_drags {t : Turn σ} {s : Sample} (ha : s.action = .hoverMove)
    (hs : t.state = .dragActive) : t.Does s (.keepDrag s.position) (t.route .standard s).2 := by
  have hr : (t.route .standard s).2 =
      (((t.classify s).noteSample "drag" s).emit (.move s.position true)).arm .dragTimeout :=
    congrArg Prod.snd (Turn.route_of_reacts hs rfl (ha ▸ trivial) (.dragged ha))
  rw [hr]
  exact ⟨hs, rfl, by simp [Deed.sends]⟩

/-! ## Callbacks -/

theorem Slots.disarm_of_none {s : Slots} {slot : Slot} (h : s.get? slot = none) (timers : σ) :
    s.disarm slot timers = (s, timers) := by
  simp [Slots.disarm, h]

omit [Scheduler σ] in
theorem Turn.onDelayedClick_does (t : Turn σ) :
    t.onDelayedClick.2.stance = t.stance.expire .delayedClick ∧
      t.onDelayedClick.2.sent = t.sent ++ t.stance.expirySends .delayedClick := by
  have hs : t.stance.state = t.state := rfl
  have hw : t.stance.window = t.context.window := rfl
  unfold Turn.onDelayedClick
  split
  · rename_i hdrop
    have : ¬(t.context.window.isArmed = true ∧ t.state ≠ .dragActive) := by
      rintro ⟨h1, h2⟩
      rcases hdrop with h | h
      · simp [h] at h1
      · exact h2 h
    exact ⟨rfl, by simp [Stance.expirySends, hs, hw, if_neg this]⟩
  · rename_i hgo
    have : t.context.window.isArmed = true ∧ t.state ≠ .dragActive := by simpa using hgo
    exact ⟨rfl, by simp [Stance.expirySends, hs, hw, if_pos this]⟩

omit [Scheduler σ] in
theorem Turn.onDoubleTapExpiry_does (t : Turn σ) :
    t.onDoubleTapExpiry.2.stance = t.stance.expire .doubleTapExpiry ∧
      t.onDoubleTapExpiry.2.sent = t.sent ++ t.stance.expirySends .doubleTapExpiry := by
  unfold Turn.onDoubleTapExpiry
  split
  · exact ⟨rfl, by simp [Stance.expirySends]⟩
  · -- A window that is not armed is idle already.
    rename_i hw
    have hidle : t.stance.window = .idle := by
      show t.context.window = .idle
      cases hc : t.context.window with
      | idle => rfl
      | armed deadline => simp [hc, Window.isArmed] at hw
    exact ⟨by simp [Stance.expire, ← hidle], by simp [Stance.expirySends]⟩

theorem Turn.onDragTimeout_does {t : Turn σ} (h : t.context.slots.get? .dragTimeout = none) :
    t.onDragTimeout.2.stance = t.stance.expire .dragTimeout ∧
      t.onDragTimeout.2.sent = t.sent ++ t.stance.expirySends .dragTimeout := by
  have hs : t.stance.state = t.state := rfl
  unfold Turn.onDragTimeout
  split
  · -- The slot is empty, so the timeout is not disarmed a second time.
    rename_i hdrag
    have hnoop : t.disarm .dragTimeout = t := by
      simp [Turn.disarm, Slots.disarm_of_none h]
    constructor
    · simp only [Stance.expire, hs, if_pos hdrag]
      simp only [Turn.endDrag, hnoop]
      rfl
    · simp [Stance.expirySends, hs, if_pos hdrag]
  · rename_i hdrag
    exact ⟨by simp [Stance.expire, hs, if_neg hdrag],
      by simp [Stance.expirySends, hs, if_neg hdrag]⟩

/-- A callback whose slot is empty, as it is once its ticket is accepted, follows the table. -/
theorem Turn.expire_does {t : Turn σ} {slot : Slot} (h : t.context.slots.get? slot = none) :
    (t.expire slot).2.stance = t.stance.expire slot ∧
      (t.expire slot).2.sent = t.sent ++ t.stance.expirySends slot := by
  cases slot with
  | delayedClick => exact t.onDelayedClick_does
  | doubleTapExpiry => exact t.onDoubleTapExpiry_does
  | twoFingerTapExpiry =>
    exact ⟨rfl, by simp [Turn.expire, Turn.onTwoFingerTapExpiry, Stance.expirySends]⟩
  | dragTimeout => exact Turn.onDragTimeout_does h

/-- A stale callback leaves no trace but a record in the log. -/
theorem Turn.deliver_of_stale {t : Turn σ} {slot : Slot} {ticket : Ticket}
    (h : t.context.slots.get? slot ≠ some ticket) :
    t.deliver slot ticket = (false, t.log (.stale slot ticket)) := by
  unfold Turn.deliver
  rw [Slots.accept?_eq_none_iff.2 h]

/-- A live callback follows the table, and its slot is empty then. -/
theorem Turn.deliver_of_live {t : Turn σ} {slot : Slot} {ticket : Ticket}
    (h : t.context.slots.get? slot = some ticket) :
    (t.deliver slot ticket).2.stance = (t.stance.vacate slot).expire slot ∧
      (t.deliver slot ticket).2.sent = t.sent ++ t.stance.expirySends slot := by
  have ha : t.context.slots.accept? slot ticket = some (t.context.slots.set slot none) := by
    simp [Slots.accept?, h]
  simp only [Turn.deliver, ha]
  exact Turn.expire_does (by simp [Turn.update, Turn.note])

end Trackpad
