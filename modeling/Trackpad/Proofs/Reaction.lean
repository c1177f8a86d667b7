import Trackpad.Proofs.Stance

/-!
# Reaction — what a sample can lead to

`Turn.Reacts` lists for each state what its handler makes of a sample: the samples and the
conditions it takes, the answer, and the turn it ends with. The standard handlers do what is listed
(`Handler.reacts`), and nothing else is listed (`Turn.Reacts.react_eq`). `Turn.Routes` is the same
for `Turn.route`. So the handlers are read here: what every reaction keeps is proved by cases on the
list, and what becomes of a known sample is looked up in it (`Turn.route_of_reacts`). Only where two
runs are compared are they read again, side by side (`Trackpad.Proofs.Likeness`).

Where a turn in the list still chooses, the choice is told apart here as well: `Turn.Begins` for a
contact that comes down, `Turn.scrollTo_eq` and `Turn.pinchTo_eq` for a movement.
-/

namespace Trackpad

variable {σ : Type}

/-- A scrolling movement turns the wheel once, by the way from the anchor, and moves the anchor. Of
the context it changes no more than the scroll in flight. -/
theorem Turn.scrollTo_eq (t : Turn σ) (s : Sample) :
    ∃ p : ScrollProgress, p.anchor = s.position ∧
      t.scrollTo s = (t.emit (.travel t.context.scroll.anchor s.position)).update fun c =>
        { c with scroll := p } := by
  -- The changes of the context agree on this context only, so they are applied first.
  simp only [scrollTo, Direction.isHorizontal_dominant, decide_eq_true_eq, Command.travel,
    scrollSensitivity, update]
  split
  · exact ⟨_, rfl, rfl⟩
  · exact ⟨_, rfl, rfl⟩

theorem Turn.context_scrollTo (t : Turn σ) (s : Sample) :
    (t.scrollTo s).context = { t.context with scroll := (t.scrollTo s).context.scroll } := by
  obtain ⟨p, -, hscroll⟩ := t.scrollTo_eq s
  rw [hscroll]
  rfl

@[simp] theorem Turn.sent_scrollTo (t : Turn σ) (s : Sample) :
    (t.scrollTo s).sent = t.sent ++ [.travel t.context.scroll.anchor s.position] := by
  obtain ⟨p, -, hscroll⟩ := t.scrollTo_eq s
  rw [hscroll, sent_update, sent_emit]

/-- A movement in a pinch zooms at most once. Of the context it changes no more than the pinch. -/
theorem Turn.pinchTo_eq (t : Turn σ) (s : Sample) :
    ∃ p : PinchProgress,
      t.pinchTo s = (t.update fun c => { c with pinch := p }) ∨
        ∃ step, t.pinchTo s = (t.emit (.scrollWithCtrl 0 step)).update fun c =>
          { c with pinch := p } := by
  simp only [pinchTo]
  split
  · exact ⟨_, .inl rfl⟩
  · split
    · exact ⟨_, .inr ⟨_, rfl⟩⟩
    · exact ⟨_, .inl rfl⟩

theorem Turn.context_pinchTo (t : Turn σ) (s : Sample) :
    (t.pinchTo s).context = { t.context with pinch := (t.pinchTo s).context.pinch } := by
  obtain ⟨p, hstill | ⟨step, hzoom⟩⟩ := t.pinchTo_eq s
  · rw [hstill]
    rfl
  · rw [hzoom]
    rfl

variable [Scheduler σ]

/-! ## Handlers -/

/-- What a contact that comes down at rest begins, by its kind. -/
inductive Turn.Begins (t : Turn σ) (s : Sample) : Turn σ → Prop
  | tap (hkind : t.context.kind = .singleFinger) :
      t.Begins s ((t.update (·.touch s.position s.time)).transition .singleTapPending
        "single tap pending")
  | two (hkind : t.context.kind = .twoFinger) :
      t.Begins s ((((t.update (·.touch s.position s.time)).transition .twoFingerTapPending
        "two-finger contact").update fun c =>
          { c with twoFingerTap := true, scroll := { c.scroll with anchor := s.position } }).arm
        .twoFingerTapExpiry)
  | pinch (hkind : t.context.kind = .pinchZoom) :
      t.Begins s ((t.update (·.touch s.position s.time)).transition .pinchZoom "pinch started")
  | press (hkind : t.context.kind = .physicalPress) :
      t.Begins s ((t.update (·.touch s.position s.time)).pressPad "physical press")
  /-- A kind that no classified sample has. -/
  | nothing (hkind : t.context.kind = .unknown) :
      t.Begins s (t.update (·.touch s.position s.time))

theorem Turn.begins (t : Turn σ) (s : Sample) : t.Begins s (t.beginContact s) := by
  unfold beginContact
  split
  · exact .tap ‹_›
  · exact .two ‹_›
  · exact .pinch ‹_›
  · exact .press ‹_›
  · exact .nothing ‹_›

theorem Turn.Begins.eq {t u : Turn σ} {s : Sample} (h : t.Begins s u) : t.beginContact s = u := by
  cases h with
  | tap hkind | two hkind | pinch hkind | press hkind | nothing hkind =>
    simp only [beginContact, hkind]

/-- The samples that mean nothing to the handler of a state. -/
def State.Ignores (s : Sample) : State → Prop
  | idle => s.action ≠ .hoverEnter ∧ s.action ≠ .down ∧ s.action ≠ .buttonPress
  | hoverTracking => s.action ≠ .hoverMove ∧ s.action ≠ .hoverExit
  | singleTapPending | twoFingerTapPending | twoFingerScroll =>
    s.action ≠ .up ∧ s.action ≠ .move ∧ s.action ≠ .cancel
  | pinchZoom =>
    (s.action = .move → s.pointerCount < 2) ∧ s.action ≠ .pointerUp ∧ s.action ≠ .up ∧
      s.action ≠ .cancel
  | dragActive | physicalClick => False

/-- What the handler of a state makes of a sample: the answer, and the turn it ends with. -/
inductive Turn.Reacts (t : Turn σ) (s : Sample) : State → Bool × Turn σ → Prop
  | ignored {state : State} (h : state.Ignores s) : t.Reacts s state (false, t)
  -- At rest.
  | approached (ha : s.action = .hoverEnter) :
      t.Reacts s .idle (true, t.transition .hoverTracking "finger over pad")
  | touched {u : Turn σ} (ha : s.action = .down) (hbegins : t.Begins s u) :
      t.Reacts s .idle (true, u)
  | pressed (ha : s.action = .buttonPress) :
      t.Reacts s .idle (true, t.pressPad "physical press")
  -- While a finger hovers.
  | grabbed (ha : s.action = .hoverMove) (hwindow : t.context.window.isArmed = true) :
      t.Reacts s .hoverTracking (true, t.beginDrag s)
  | pointed (ha : s.action = .hoverMove) (hwindow : t.context.window.isArmed = false) :
      t.Reacts s .hoverTracking (true, t.emit (.move s.position false))
  | departed (ha : s.action = .hoverExit) :
      t.Reacts s .hoverTracking
        (true, (t.update fun c => { c with startPosition := s.position }).transition .idle
          "finger left pad")
  -- While one contact may become a tap.
  | tapped (ha : s.action = .up)
      (hnear : t.context.startPosition.distance s.position < t.slop) :
      t.Reacts s .singleTapPending (true, t.acceptTap s)
  | slid (ha : s.action = .up)
      (hfar : ¬t.context.startPosition.distance s.position < t.slop) :
      t.Reacts s .singleTapPending (true, t.transition .idle "release after slide")
  | strayed (ha : s.action = .move)
      (hbeyond : t.context.startPosition.isBeyond s.position t.slop = true) :
      t.Reacts s .singleTapPending (true, t.transition .idle "moved beyond slop")
  | jittered (ha : s.action = .move)
      (hwithin : t.context.startPosition.isBeyond s.position t.slop = false) :
      t.Reacts s .singleTapPending (true, t)
  | withdrawn (ha : s.action = .cancel) :
      t.Reacts s .singleTapPending (true, t.transition .idle "cancel")
  -- During a drag.
  | dragged (ha : s.action = .hoverMove) :
      t.Reacts s .dragActive (true, (t.emit (.move s.position true)).arm .dragTimeout)
  | dropped (ha : s.action ≠ .hoverMove) :
      t.Reacts s .dragActive (false, t.endDrag s.action.name)
  -- While two fingers may become a tap.
  | clicked (ha : s.action = .up) (hclicks : t.context.twoFingerTap = true ∧
        t.context.scroll.anchor.distance s.position < t.slop) :
      t.Reacts s .twoFingerTapPending
        (true, (t.emit (.click .right)).dropTwoFingerTap.transition .idle "two-finger release")
  | lifted (ha : s.action = .up) (hclicks : ¬(t.context.twoFingerTap = true ∧
        t.context.scroll.anchor.distance s.position < t.slop)) :
      t.Reacts s .twoFingerTapPending
        (true, t.dropTwoFingerTap.transition .idle "two-finger release")
  | moved (ha : s.action = .move) :
      t.Reacts s .twoFingerTapPending
        (true, (t.dropTwoFingerTap.transition .twoFingerScroll "two-finger move").scrollTo s)
  | taken (ha : s.action = .cancel) :
      t.Reacts s .twoFingerTapPending
        (true, (t.update fun c => { c with expectCancel := false }).transition .twoFingerScroll
          "expected cancel")
  -- While two fingers scroll.
  | wheeled (ha : s.action = .move) : t.Reacts s .twoFingerScroll (true, t.scrollTo s)
  | finished (ha : s.action = .up) :
      t.Reacts s .twoFingerScroll (true, t.transition .idle "scroll finished")
  | kept (ha : s.action = .cancel) : t.Reacts s .twoFingerScroll (true, t)
  -- During a pinch.
  | pinched (ha : s.action = .move) (hcount : ¬s.pointerCount < 2) :
      t.Reacts s .pinchZoom (true, t.pinchTo s)
  | thinned (ha : s.action = .pointerUp) (hcount : ¬s.pointerCount ≤ 1) :
      t.Reacts s .pinchZoom (true, t)
  | parted (ha : s.action = .pointerUp) (hcount : s.pointerCount ≤ 1) :
      t.Reacts s .pinchZoom (true, t.endPinch "contact lifted")
  | ended (ha : s.action = .up ∨ s.action = .cancel) :
      t.Reacts s .pinchZoom (true, t.endPinch s.action.name)
  -- While the pad is pressed.
  | released (hbuttons : s.buttons.isEmpty = true) :
      t.Reacts s .physicalClick
        (true, (t.emit (.release .middle)).transition .idle "button released")
  | held (hbuttons : s.buttons.isEmpty = false) :
      t.Reacts s .physicalClick (true, t.emit (.move s.position true))

namespace Handler

variable (s : Sample) (t : Turn σ)

theorem idle_reacts : t.Reacts s .idle (idle.react s t) := by
  simp only [idle]
  split
  · exact .approached ‹_›
  · exact .touched ‹_› (t.begins s)
  · exact .pressed ‹_›
  · exact .ignored ⟨‹_›, ‹_›, ‹_›⟩

theorem hover_reacts : t.Reacts s .hoverTracking (hover.react s t) := by
  simp only [hover]
  split
  · split
    · exact .grabbed ‹_› ‹_›
    · exact .pointed ‹_› (Bool.eq_false_iff.2 ‹_›)
  · exact .departed ‹_›
  · exact .ignored ⟨‹_›, ‹_›⟩

theorem tap_reacts : t.Reacts s .singleTapPending (tap.react s t) := by
  simp only [tap]
  split
  · split
    · exact .tapped ‹_› ‹_›
    · exact .slid ‹_› ‹_›
  · split
    · exact .strayed ‹_› ‹_›
    · exact .jittered ‹_› (Bool.eq_false_iff.2 ‹_›)
  · exact .withdrawn ‹_›
  · exact .ignored ⟨‹_›, ‹_›, ‹_›⟩

theorem drag_reacts : t.Reacts s .dragActive (drag.react s t) := by
  simp only [drag]
  split
  · exact .dragged ‹_›
  · exact .dropped ‹_›

theorem twoFinger_reacts : t.Reacts s .twoFingerTapPending (twoFinger.react s t) := by
  simp only [twoFinger, Turn.liftTwoFingers]
  split
  · split
    · exact .clicked ‹_› ‹_›
    · exact .lifted ‹_› ‹_›
  · exact .moved ‹_›
  · exact .taken ‹_›
  · exact .ignored ⟨‹_›, ‹_›, ‹_›⟩

theorem scroll_reacts : t.Reacts s .twoFingerScroll (scroll.react s t) := by
  simp only [scroll]
  split
  · exact .wheeled ‹_›
  · exact .finished ‹_›
  · exact .kept ‹_›
  · exact .ignored ⟨‹_›, ‹_›, ‹_›⟩

theorem pinch_reacts : t.Reacts s .pinchZoom (pinch.react s t) := by
  simp only [pinch]
  split
  · split
    · exact .ignored ⟨fun _ => ‹_›, by simp [*]⟩
    · exact .pinched ‹_› ‹_›
  · split
    · exact .parted ‹_› ‹_›
    · exact .thinned ‹_› ‹_›
  · exact .ended (.inl ‹_›)
  · exact .ended (.inr ‹_›)
  · exact .ignored ⟨fun ha => absurd ha ‹_›, ‹_›, ‹_›, ‹_›⟩

theorem physical_reacts : t.Reacts s .physicalClick (physical.react s t) := by
  simp only [physical]
  split
  · exact .released ‹_›
  · exact .held (Bool.eq_false_iff.2 ‹_›)

/-- The standard handlers do what is listed for their states, and nothing else. -/
theorem reacts {state : State} {handler : Handler σ}
    (hget : Registry.standard.get? state = some handler) (s : Sample) (t : Turn σ) :
    t.Reacts s state (handler.react s t) := by
  cases state <;> cases hget
  case idle => exact idle_reacts s t
  case hoverTracking => exact hover_reacts s t
  case singleTapPending => exact tap_reacts s t
  case dragActive => exact drag_reacts s t
  case twoFingerTapPending => exact twoFinger_reacts s t
  case twoFingerScroll => exact scroll_reacts s t
  case pinchZoom => exact pinch_reacts s t
  case physicalClick => exact physical_reacts s t

theorem react_of_ignores {state : State} {handler : Handler σ} {s : Sample}
    (hget : Registry.standard.get? state = some handler) (h : state.Ignores s) (t : Turn σ) :
    handler.react s t = (false, t) := by
  cases state <;> cases hget
  -- What the sample is not rules out all cases of the handler but the last.
  case idle =>
    obtain ⟨henter, hdown, hpress⟩ := h
    simp only [idle]
  case hoverTracking =>
    obtain ⟨hmove, hexit⟩ := h
    simp only [hover]
  case singleTapPending | twoFingerTapPending | twoFingerScroll =>
    obtain ⟨hup, hmove, hcancel⟩ := h
    simp only [tap, twoFinger, scroll]
  case pinchZoom =>
    obtain ⟨hmove, hpart, hup, hcancel⟩ := h
    simp only [pinch]
    split
    · exact if_pos (hmove ‹_›)
    all_goals first | rfl | contradiction
  case dragActive | physicalClick => exact h.elim

end Handler

/-- What is listed is what the handler does. -/
theorem Turn.Reacts.react_eq {t : Turn σ} {s : Sample} {state : State} {handler : Handler σ}
    {outcome : Bool × Turn σ} (h : t.Reacts s state outcome)
    (hget : Registry.standard.get? state = some handler) : handler.react s t = outcome := by
  cases h with
  | ignored hignores => exact Handler.react_of_ignores hget hignores t
  | approached ha | pressed ha =>
    cases hget
    simp only [Handler.idle, ha]
  | touched ha hbegins =>
    cases hget
    simp only [Handler.idle, ha, hbegins.eq]
  | grabbed ha hwindow | pointed ha hwindow =>
    cases hget
    simp [Handler.hover, ha, hwindow]
  | departed ha =>
    cases hget
    simp only [Handler.hover, ha]
  | tapped ha hplace | slid ha hplace | strayed ha hplace | jittered ha hplace =>
    cases hget
    simp [Handler.tap, ha, hplace]
  | withdrawn ha =>
    cases hget
    simp only [Handler.tap, ha]
  | dragged ha | dropped ha =>
    cases hget
    simp [Handler.drag, ha]
  | clicked ha hclicks | lifted ha hclicks =>
    cases hget
    simp [Handler.twoFinger, Turn.liftTwoFingers, ha, hclicks]
  | moved ha | taken ha =>
    cases hget
    simp only [Handler.twoFinger, ha]
  | wheeled ha | finished ha | kept ha =>
    cases hget
    simp only [Handler.scroll, ha]
  | pinched ha hcount | thinned ha hcount | parted ha hcount =>
    cases hget
    simp [Handler.pinch, ha, hcount]
  | ended ha =>
    cases hget
    rcases ha with ha | ha <;> simp only [Handler.pinch, ha]
  | released hbuttons | held hbuttons =>
    cases hget
    simp [Handler.physical, hbuttons]

/-- No state is without a handler, so a sample that is dispatched meets one. -/
theorem Registry.exists_handler (t : Turn σ) (s : Sample) :
    ∃ handler, (standard : Registry σ).get? t.state = some handler ∧
      standard.dispatch s t = handler.react s (t.noteSample handler.label s) := by
  have hcomplete : (standard : Registry σ).isComplete = true := isComplete_standard
  obtain ⟨handler, hget⟩ := Option.isSome_iff_exists.1 (isComplete_iff.1 hcomplete t.state)
  exact ⟨handler, hget, dispatch_of_registered hget s⟩

/-- What is dispatched is noted down and then reacted to. -/
theorem Turn.reacts_dispatch (t : Turn σ) (s : Sample) :
    ∃ label, (t.noteSample label s).Reacts s t.state (Registry.standard.dispatch s t) := by
  obtain ⟨handler, hget, hdispatch⟩ := Registry.exists_handler t s
  rw [hdispatch]
  exact ⟨handler.label, Handler.reacts hget s _⟩

/-! ## Samples -/

/-- Samples of these actions are classified and handed on, in every state. -/
def Action.IsHandedOn : Action → Prop
  | .pointerDown | .pointerUp | .buttonPress | .buttonRelease | .cancel => False
  | _ => True

/-- What a sample leads to: nothing, a reaction outside the handlers, or what a handler does. -/
inductive Turn.Routes (t : Turn σ) (s : Sample) : Turn σ → Prop
  | ignored : t.Routes s t
  | pinched : s.action = .pointerDown → s.pointerCount = 2 → t.Routes s (t.beginPinch s)
  | pressed : s.action = .buttonPress →
      t.Routes s ((t.pressPad "button press").note "middle button pressed")
  | dropped : s.action = .cancel → t.Routes s t.reset
  | lifted : s.action = .pointerUp ∧ t.state = .pinchZoom ∨
      s.action = .buttonRelease ∧ t.state = .physicalClick →
      t.Routes s (Registry.standard.dispatch s t).2
  | handed : s.action.IsHandedOn → t.Routes s (Registry.standard.dispatch s (t.classify s)).2

theorem Turn.routes (t : Turn σ) (s : Sample) : t.Routes s (t.route .standard s).2 := by
  cases ha : s.action with
  | pointerDown =>
    simp only [route, ha]
    split
    · rename_i htwo
      exact .pinched ha htwo
    · exact .ignored
  | pointerUp =>
    simp only [route, ha]
    split
    · rename_i hpinch
      exact .lifted (.inl ⟨ha, hpinch⟩)
    · exact .ignored
  | buttonPress =>
    simp only [route, ha]
    exact .pressed ha
  | buttonRelease =>
    simp only [route, ha]
    split
    · rename_i hphysical
      exact .lifted (.inr ⟨ha, hphysical⟩)
    · exact .ignored
  | cancel =>
    simp only [route, ha]
    exact .dropped ha
  | _ =>
    simp only [route, ha]
    exact .handed (ha ▸ trivial)

theorem Turn.route_of_handedOn {t : Turn σ} {s : Sample} {handlers : Registry σ}
    (h : s.action.IsHandedOn) : t.route handlers s = handlers.dispatch s (t.classify s) := by
  cases ha : s.action with
  | pointerDown | pointerUp | buttonPress | buttonRelease | cancel =>
    rw [ha] at h
    exact h.elim
  | _ => simp only [Turn.route, ha]

/-- A sample that is handed on meets the handler of the state it is handed on in. -/
theorem Turn.route_of_handled {t : Turn σ} {s : Sample} {state : State} {handler : Handler σ}
    (hs : t.state = state) (hget : Registry.standard.get? state = some handler)
    (ha : s.action.IsHandedOn) :
    t.route .standard s = handler.react s ((t.classify s).noteSample handler.label s) := by
  subst hs
  rw [Turn.route_of_handedOn ha]
  exact Registry.dispatch_of_registered (t := t.classify s) hget s

/-- What becomes of it is in the list. -/
theorem Turn.route_of_reacts {t : Turn σ} {s : Sample} {state : State} {handler : Handler σ}
    {outcome : Bool × Turn σ} (hs : t.state = state)
    (hget : Registry.standard.get? state = some handler) (ha : s.action.IsHandedOn)
    (h : ((t.classify s).noteSample handler.label s).Reacts s state outcome) :
    t.route .standard s = outcome :=
  (Turn.route_of_handled hs hget ha).trans (h.react_eq hget)

end Trackpad
