import Trackpad.Proofs.DragSpan

/-!
# TwoFingers — two fingers click, scroll, or do neither

Two fingers that come down at rest wait to be told apart (`Sample.Settles`). If they are lifted in
time and in place they are a right click, and if they move they scroll, however late. The time is
not compared with anything: a callback takes the flag back, and samples that come with a time are
handled after all callbacks that are due by then (`Awaits.facing`). What comes of the contact in the
rest of a run is `Resolution`, which ends in `Rests`: until two fingers come down at rest again,
neither a right click nor a scroll is sent.

The deeds of the table do not say which sample they are done for, so what two fingers send is read
off the list of reactions (`Turn.Reacts`).
-/

namespace Trackpad

/-- The commands that only two fingers send: right clicks and scrolls. -/
def Command.isOfTwo : Command → Bool
  | click .right => true
  | c => c.isScroll

/-- What two fingers sent, among some commands. -/
def twos (cs : List Command) : List Command := cs.filter Command.isOfTwo

theorem twos_append (cs ds : List Command) : twos (cs ++ ds) = twos cs ++ twos ds :=
  List.filter_append ..

theorem twos_singleton {c : Command} (h : c.isScroll = true) : twos [c] = [c] := by
  cases c with
  | scroll _ _ | scrollWithShift _ _ => rfl
  | _ => cases h

/-- The states in which two fingers wait or scroll. -/
def State.IsOfTwo : State → Prop
  | twoFingerTapPending | twoFingerScroll => True
  | _ => False

theorem State.isOfTwo_iff {st : State} :
    st.IsOfTwo ↔ st = .twoFingerTapPending ∨ st = .twoFingerScroll := by
  cases st <;> simp [IsOfTwo]

/-- The sample tells what two fingers that came down are about. -/
def Sample.Settles (s : Sample) : Prop :=
  s.action = .move ∨ s.action = .up ∨ s.action = .buttonPress ∨ s.action = .cancel ∨
    (s.action = .pointerDown ∧ s.pointerCount = 2)

instance (s : Sample) : Decidable s.Settles :=
  inferInstanceAs (Decidable (_ ∨ _ ∨ _ ∨ _ ∨ _))

/-! ## Samples -/

namespace Turn

variable {σ : Type} [Scheduler σ] {t : Turn σ} {s : Sample}

theorem route_of_touch (hs : t.state = .idle) (ha : s.action = .down) (hk : s.kind = .twoFinger) :
    t.Does s .touchTwo (t.route .standard s).2 ∧
      (t.route .standard s).2.context.scroll.anchor = s.position := by
  rw [route_of_reacts hs rfl (ha ▸ trivial) (.touched ha (.two hk))]
  exact ⟨⟨hs, rfl, by simp [Deed.sends]⟩, rfl⟩

/-- Fingers that are lifted in time and in place are a right click. -/
theorem route_of_lift (hs : t.state = .twoFingerTapPending) (ha : s.action = .up) :
    t.Does s (.liftTwo (t.context.twoFingerTap = true ∧
      t.context.scroll.anchor.distance s.position < t.slop)) (t.route .standard s).2 := by
  by_cases hclicks : t.context.twoFingerTap = true ∧
      t.context.scroll.anchor.distance s.position < t.slop
  · rw [route_of_reacts hs rfl (ha ▸ trivial) (.clicked ha hclicks), decide_eq_true hclicks]
    exact ⟨hs, rfl, by simp [Deed.sends]⟩
  · rw [route_of_reacts hs rfl (ha ▸ trivial) (.lifted ha hclicks), decide_eq_false hclicks]
    exact ⟨hs, rfl, by simp [Deed.sends]⟩

/-- Fingers that move scroll, by the way from where they came down. -/
theorem route_of_slide (hs : t.state = .twoFingerTapPending) (ha : s.action = .move) :
    t.Does s (.scrollTwo (.travel t.context.scroll.anchor s.position)) (t.route .standard s).2 ∧
      (t.route .standard s).2.context.scroll.anchor = s.position := by
  let moving := ((t.classify s).noteSample "two-finger" s).dropTwoFingerTap.transition
    .twoFingerScroll "two-finger move"
  have hr : (t.route .standard s).2 = moving.scrollTo s :=
    congrArg Prod.snd (route_of_reacts hs rfl (ha ▸ trivial) (.moved ha))
  have hsent : moving.sent = t.sent := by simp [moving]
  obtain ⟨p, hanchor, hscroll⟩ := moving.scrollTo_eq s
  rw [hr, hscroll]
  refine ⟨⟨⟨hs, Command.isWheel_travel _ _⟩, rfl, ?_⟩, hanchor⟩
  rw [sent_update, sent_emit, hsent]
  rfl

/-- Whatever settles nothing changes nothing, also if the fingers scroll already. -/
theorem route_of_unsettled (hs : t.state.IsOfTwo) (h : ¬s.Settles) :
    t.Does s .nothing (t.route .standard s).2 ∧
      (t.route .standard s).2.context.scroll = t.context.scroll := by
  simp only [Sample.Settles, not_or, not_and] at h
  obtain ⟨hmove, hup, hpress, hcancel, htwo⟩ := h
  rw [State.isOfTwo_iff] at hs
  cases ha : s.action with
  | move => exact absurd ha hmove
  | up => exact absurd ha hup
  | buttonPress => exact absurd ha hpress
  | cancel => exact absurd ha hcancel
  | pointerDown | pointerUp | buttonRelease =>
    have hr : (t.route .standard s).2 = t := by
      rcases hs with hs | hs <;> simp [route, ha, hs, htwo]
    rw [hr]
    exact ⟨⟨trivial, rfl, by simp [Deed.sends]⟩, rfl⟩
  | down | hoverEnter | hoverMove | hoverExit =>
    rcases hs with hs | hs
    · rw [route_of_reacts hs rfl (ha ▸ trivial) (.ignored ⟨hup, hmove, hcancel⟩)]
      exact ⟨⟨trivial, rfl, by simp [Deed.sends]⟩, rfl⟩
    · rw [route_of_reacts hs rfl (ha ▸ trivial) (.ignored ⟨hup, hmove, hcancel⟩)]
      exact ⟨⟨trivial, rfl, by simp [Deed.sends]⟩, rfl⟩

/-- What else settles the contact ends it. -/
theorem route_of_abandoned (h : s.Settles) (hup : s.action ≠ .up) (hmove : s.action ≠ .move) :
    twos (t.route .standard s).2.sent = twos t.sent ∧ ¬(t.route .standard s).2.state.IsOfTwo := by
  rcases h with ha | ha | ha | ha | ⟨ha, htwo⟩
  · exact absurd ha hmove
  · exact absurd ha hup
  · simp only [route, ha]
    refine ⟨?_, id⟩
    simp [twos_append]
    rfl
  · have hstate : t.reset.state = .idle := congrArg Stance.state t.stance_reset
    simp only [route, ha, hstate, sent_reset]
    exact ⟨trivial, id⟩
  · simp only [route, ha, if_pos htwo]
    refine ⟨?_, id⟩
    simp

/-- Two fingers that scroll turn the wheel once with each movement, by the way from the last one. -/
theorem route_of_scrolling (hs : t.state = .twoFingerScroll) (ha : s.action = .move) :
    t.Does s (.wheel (.travel t.context.scroll.anchor s.position)) (t.route .standard s).2 ∧
      (t.route .standard s).2.context.scroll.anchor = s.position := by
  let moving := (t.classify s).noteSample "scroll" s
  have hr : (t.route .standard s).2 = moving.scrollTo s :=
    congrArg Prod.snd (route_of_reacts hs rfl (ha ▸ trivial) (.wheeled ha))
  have hsent : moving.sent = t.sent := by simp [moving]
  obtain ⟨p, hanchor, hscroll⟩ := moving.scrollTo_eq s
  rw [hr, hscroll]
  refine ⟨⟨⟨.inl hs, Command.isWheel_travel _ _⟩, rfl, ?_⟩, hanchor⟩
  rw [sent_update, sent_emit, hsent]
  rfl

/-- Nothing of two fingers is sent, unless they wait, or scroll and move. -/
theorem Reacts.twos_sent {state : State} {outcome : Bool × Turn σ}
    (h : t.Reacts s state outcome) (hwaits : state ≠ .twoFingerTapPending)
    (hmoves : state = .twoFingerScroll → s.action ≠ .move) :
    twos outcome.2.sent = twos t.sent := by
  cases h with
  | clicked _ _ | lifted _ _ | moved _ | taken _ => exact absurd rfl hwaits
  | wheeled ha => exact absurd ha (hmoves rfl)
  | ignored _ | jittered _ _ | kept _ | thinned _ _ => rfl
  | touched _ hbegins =>
    cases hbegins with
    | tap _ | two _ | pinch _ | nothing _ => simp
    | press _ => simp [twos, Command.isOfTwo, Command.isScroll]
  | approached _ | departed _ | tapped _ _ | slid _ _ | strayed _ _ | withdrawn _ | finished _
  | parted _ _ | ended _ => simp
  | pressed _ | grabbed _ _ | pointed _ _ | dragged _ | dropped _ | released _ | held _ =>
    simp [twos, Command.isOfTwo, Command.isScroll]
  | pinched _ _ =>
    obtain ⟨p, hstill | ⟨step, hzoom⟩⟩ := t.pinchTo_eq s
    · rw [hstill]
      rfl
    · rw [hzoom]
      simp [twos, Command.isOfTwo, Command.isScroll]

theorem twos_dispatch (hwaits : t.state ≠ .twoFingerTapPending)
    (hmoves : t.state = .twoFingerScroll → s.action ≠ .move) :
    twos (Registry.standard.dispatch s t).2.sent = twos t.sent := by
  obtain ⟨label, hreacts⟩ := t.reacts_dispatch s
  exact hreacts.twos_sent hwaits hmoves

theorem twos_route (hwaits : t.state ≠ .twoFingerTapPending)
    (hmoves : t.state = .twoFingerScroll → s.action ≠ .move) :
    twos (t.route .standard s).2.sent = twos t.sent := by
  have hroutes := t.routes s
  generalize (t.route .standard s).2 = u at hroutes ⊢
  cases hroutes with
  | ignored => rfl
  | pinched _ _ => simp
  | pressed _ => simp [twos, Command.isOfTwo, Command.isScroll]
  | dropped _ => rw [sent_reset]
  | lifted _ => exact twos_dispatch hwaits hmoves
  | handed _ => simpa using twos_dispatch (t := t.classify s) hwaits hmoves

/-! ## The way in -/

/-- Two fingers that come down at rest are the only way in. -/
theorem Reacts.state_of_two {state : State} {outcome : Bool × Turn σ}
    (h : t.Reacts s state outcome) (hs : t.state = state) (hwaits : state ≠ .twoFingerTapPending) :
    outcome.2.state = t.state ∨ ¬outcome.2.state.IsOfTwo ∨
      (t.state = .idle ∧ s.action = .down ∧ t.context.kind = .twoFinger) := by
  cases h with
  | clicked _ _ | lifted _ _ | moved _ | taken _ => exact absurd rfl hwaits
  | touched ha hbegins =>
    cases hbegins with
    | two hkind => exact .inr (.inr ⟨hs, ha, hkind⟩)
    | tap _ | pinch _ | press _ => exact .inr (.inl id)
    | nothing _ => exact .inl rfl
  | ignored _ | pointed _ _ | jittered _ _ | dragged _ | kept _ | thinned _ _ | held _ =>
    exact .inl rfl
  | wheeled _ =>
    have hstate := congrArg Context.state (t.context_scrollTo s)
    exact .inl hstate
  | pinched _ _ =>
    have hstate := congrArg Context.state (t.context_pinchTo s)
    exact .inl hstate
  | approached _ | pressed _ | grabbed _ _ | departed _ | tapped _ _ | slid _ _ | strayed _ _
  | withdrawn _ | dropped _ | finished _ | parted _ _ | ended _ | released _ =>
    exact .inr (.inl id)

theorem state_dispatch (hwaits : t.state ≠ .twoFingerTapPending) :
    (Registry.standard.dispatch s t).2.state = t.state ∨
      ¬(Registry.standard.dispatch s t).2.state.IsOfTwo ∨
      (t.state = .idle ∧ s.action = .down ∧ t.context.kind = .twoFinger) := by
  obtain ⟨label, hreacts⟩ := t.reacts_dispatch s
  exact hreacts.state_of_two rfl hwaits

theorem state_route (htwo : t.state ≠ .twoFingerTapPending)
    (h : (t.route .standard s).2.state.IsOfTwo) :
    (t.route .standard s).2.state = t.state ∨
      (t.state = .idle ∧ s.action = .down ∧ s.kind = .twoFinger) := by
  have hroutes := t.routes s
  generalize (t.route .standard s).2 = u at hroutes h ⊢
  cases hroutes with
  | ignored => exact .inl rfl
  | pinched _ _ | pressed _ => exact h.elim
  | dropped _ =>
    have hstate : t.reset.state = .idle := congrArg Stance.state t.stance_reset
    rw [hstate] at h
    exact h.elim
  | lifted hlifts =>
    rcases state_dispatch (s := s) htwo with hsame | hleft | ⟨hidle, -, -⟩
    · exact .inl hsame
    · exact absurd h hleft
    · rcases hlifts with ⟨-, hs⟩ | ⟨-, hs⟩ <;> cases hidle.symm.trans hs
  | handed _ =>
    rcases state_dispatch (t := t.classify s) (s := s) htwo with hsame | hleft | hin
    · exact .inl hsame
    · exact absurd h hleft
    · exact .inr hin

/-- Two fingers wait because they came down, or because nothing settled what they are about. -/
theorem touch_or_unsettled (h : (t.route .standard s).2.state = .twoFingerTapPending) :
    (t.state = .idle ∧ s.action = .down ∧ s.kind = .twoFinger) ∨
      (t.state = .twoFingerTapPending ∧ ¬s.Settles) := by
  by_cases htwo : t.state = .twoFingerTapPending
  · refine .inr ⟨htwo, fun hsettles => ?_⟩
    by_cases hup : s.action = .up
    · cases h.symm.trans (congrArg Stance.state (route_of_lift htwo hup).stance)
    by_cases hmove : s.action = .move
    · cases h.symm.trans (congrArg Stance.state (route_of_slide htwo hmove).1.stance)
    · exact (route_of_abandoned hsettles hup hmove).2 (State.isOfTwo_iff.2 (.inl h))
  · rcases state_route htwo (State.isOfTwo_iff.2 (.inl h)) with hsame | hin
    · exact absurd (hsame.symm.trans h) htwo
    · exact .inl hin

/-- Nothing but two fingers that are lifted in time and in place sends a right click. -/
theorem lift_of_click (hnew : t.sent = [])
    (h : Command.click .right ∈ (t.route .standard s).2.sent) :
    t.state = .twoFingerTapPending ∧ s.action = .up ∧ t.context.twoFingerTap = true ∧
      t.context.scroll.anchor.distance s.position < t.slop := by
  have hs : t.state = .twoFingerTapPending := by
    obtain ⟨d, hd⟩ := t.route_does s
    rw [hd.sent, hnew, List.nil_append] at h
    exact Deed.state_of_click hd.fits h
  have hsent {d : Deed} (hd : t.Does s d (t.route .standard s).2) :
      Command.click .right ∈ d.sends := by
    rwa [hd.sent, hnew, List.nil_append] at h
  by_cases hup : s.action = .up
  · have hclick := hsent (route_of_lift hs hup)
    simp only [Deed.sends, decide_eq_true_eq] at hclick
    split at hclick
    · rename_i hclicks
      exact ⟨hs, hup, hclicks⟩
    · cases hclick
  by_cases hmove : s.action = .move
  · have hclick := List.mem_singleton.1 (hsent (route_of_slide hs hmove).1)
    have hscroll := Command.isScroll_travel t.context.scroll.anchor s.position
    rw [← hclick] at hscroll
    cases hscroll
  by_cases hsettles : s.Settles
  · have hnone := (route_of_abandoned (t := t) hsettles hup hmove).1
    have hmem : Command.click .right ∈ twos (t.route .standard s).2.sent :=
      List.mem_filter.2 ⟨h, rfl⟩
    rw [hnone, hnew] at hmem
    cases hmem
  · cases hsent (route_of_unsettled (State.isOfTwo_iff.2 (.inl hs)) hsettles).1

end Turn

namespace Recognizer

/-! ## Calls -/

section

variable {r : Recognizer Queue} {c : TimedCall} {s s₀ : Sample} {time : Time}

theorem twos_onTimer {σ : Type} [Scheduler σ] (r : Recognizer σ) (slot : Slot) (ticket : Ticket) :
    twos (r.onTimer slot ticket).sent = [] := by
  by_cases hlive : r.context.slots.get? slot = some ticket
  · rw [(onTimer_of_live hlive).2]
    cases slot with
    | delayedClick | dragTimeout =>
      simp only [Stance.expirySends]
      split <;> rfl
    | _ => rfl
  · rw [(onTimer_of_stale hlive).2]
    rfl

/-- No callback sends what two fingers do. -/
theorem twos_lapse (r : Recognizer Queue) (c : TimedCall) : twos (r.lapse c) = [] := by
  refine List.filter_eq_nil_iff.2 fun cmd hcmd hof => ?_
  obtain ⟨p, -, hsent⟩ := List.mem_flatMap.1 hcmd
  have hmem : cmd ∈ twos (p.2.onTimer p.1.slot p.1.ticket).sent := List.mem_filter.2 ⟨hsent, hof⟩
  rw [twos_onTimer] at hmem
  cases hmem

theorem Does.twos_sent {d : Deed} (hd : r.Does c d) :
    twos (r.performTimed c).sent = twos d.sends := by
  rw [hd.sent, twos_append, twos_lapse, List.nil_append]

theorem state_of_sample (hb : r.handlers = .standard) (hs : s ∈ c.sample?) :
    (r.performTimed c).next.state = ((r.facing c).turn.route .standard s).2.state :=
  congrArg Context.state (next_of_sample hb hs)

theorem twos_of_sample (hb : r.handlers = .standard) (hs : s ∈ c.sample?) :
    twos (r.performTimed c).sent = twos ((r.facing c).turn.route .standard s).2.sent := by
  have hf : (r.facing c).handlers = .standard := (r.handlers_facing c).trans hb
  rw [(r.performTimed_of_sample hs).2, twos_append, twos_lapse, List.nil_append,
    handle_of_standard hf]
  rfl

theorem twos_advanceTo (r : Recognizer Queue) (time : Time) :
    twos (r.performTimed (.advanceTo time)).sent = [] := by
  rw [sent_performTimed, twos_append, twos_lapse]
  rfl

/-- Two fingers come down at rest. -/
def TouchesTwo (r : Recognizer Queue) (s : Sample) : Prop :=
  (r.facing (.handleAt s)).state = .idle ∧ s.action = .down ∧ s.kind = .twoFinger

/-- Two fingers came down with `s₀` and wait to be told apart, with the flag of a tap until its time
is over. -/
structure Awaits (r : Recognizer Queue) (s₀ : Sample) : Prop where
  state : r.state = .twoFingerTapPending
  anchor : r.context.scroll.anchor = s₀.position
  flag : (r.context.twoFingerTap = true ∧
      ∃ ticket, ⟨.twoFingerTapExpiry, ticket, s₀.time.plus 100⟩ ∈ r.timers.pending) ∨
    (r.context.twoFingerTap = false ∧ s₀.time.plus 100 ≤ r.timers.now)

theorem TouchesTwo.awaits (h : r.TouchesTwo s₀) (hb : r.handlers = .standard)
    (hle : r.timers.now ≤ s₀.time) :
    (r.performTimed (.handleAt s₀)).next.Awaits s₀ ∧
      twos (r.performTimed (.handleAt s₀)).sent = [] := by
  obtain ⟨hstate, ha, hkind⟩ := h
  obtain ⟨hturn, hanchor⟩ :=
    Turn.route_of_touch (t := (r.facing (.handleAt s₀)).turn) hstate ha hkind
  have hdoes := Does.of_turn hb (c := .handleAt s₀) rfl hturn
  have hdelay : Slot.twoFingerTapExpiry.delayMillis = 100 := by decide
  have hnow : (r.facing (.handleAt s₀)).timers.now = s₀.time :=
    now_facing (c := .handleAt s₀) rfl hle
  have harmed := (r.facing (.handleAt s₀)).context.slots.armed_mem_pending .twoFingerTapExpiry
    (r.facing (.handleAt s₀)).timers
  rw [hdelay, hnow] at harmed
  have hpending : ⟨.twoFingerTapExpiry, ⟨(r.facing (.handleAt s₀)).timers.nextId⟩,
      s₀.time.plus 100⟩ ∈ (r.performTimed (.handleAt s₀)).next.timers.pending := by
    rw [hdoes.timers]
    exact harmed
  refine ⟨⟨congrArg Stance.state hdoes.stance, ?_, .inl ⟨?_, _, hpending⟩⟩, hdoes.twos_sent⟩
  · rw [next_of_sample hb (c := .handleAt s₀) rfl]
    exact hanchor
  · exact congrArg Stance.twoFingerTap hdoes.stance

namespace Awaits

/-- When a sample comes, the flag says whether it is in time. -/
theorem facing (h : r.Awaits s₀) (hr : r.Tracked) (ht : c.time? = some time)
    (hle : r.timers.now ≤ time) :
    (r.facing c).Awaits s₀ ∧
      ((r.facing c).context.twoFingerTap = true ↔ time < s₀.time.plus 100) := by
  have hnow : (r.facing c).timers.now = time := now_facing ht hle
  have hcoherent : (r.facing c).context.twoFingerTap =
      (r.facing c).context.slots.isArmed .twoFingerTapExpiry := (hr.facing c).coherent.tap
  have hstate : (r.facing c).state = .twoFingerTapPending := by
    rw [state_facing_of_not_drag (h.state.trans_ne nofun), h.state]
  have hanchor : (r.facing c).context.scroll.anchor = s₀.position := by
    rw [scroll_facing, h.anchor]
  have hend (hflag : (r.facing c).context.twoFingerTap = false) (hpast : s₀.time.plus 100 ≤ time) :
      (r.facing c).Awaits s₀ ∧
        ((r.facing c).context.twoFingerTap = true ↔ time < s₀.time.plus 100) := by
    refine ⟨⟨hstate, hanchor, .inr ⟨hflag, hnow.symm ▸ hpast⟩⟩, fun htrue => ?_, fun hlt => ?_⟩
    · cases htrue.symm.trans hflag
    · exact absurd hlt (UInt64.not_lt.2 hpast)
  rcases h.flag with ⟨-, ticket, hmem⟩ | ⟨hflag, hpast⟩
  · rcases hr.waits_or_lapsed hmem ht with ⟨hlt, hpending, harmed⟩ | ⟨hpast, hgone⟩
    · have hflag := hcoherent.trans harmed
      exact ⟨⟨hstate, hanchor, .inl ⟨hflag, ticket, hpending⟩⟩, fun _ => hlt, fun _ => hflag⟩
    · exact hend (hcoherent.trans hgone) hpast
  · have hempty : r.context.slots.isArmed .twoFingerTapExpiry = false :=
      hr.coherent.tap.symm.trans hflag
    exact hend (hcoherent.trans (hr.isArmed_facing hempty)) (UInt64.le_trans hpast hle)

/-- A call that settles nothing leaves two fingers waiting. -/
theorem call (h : r.Awaits s₀) (hr : r.Tracked) (hc : c.IsTimed)
    (hle : ∀ time ∈ c.time?, r.timers.now ≤ time) (hunsettled : ∀ s ∈ c.sample?, ¬s.Settles) :
    (r.performTimed c).next.Awaits s₀ ∧ twos (r.performTimed c).sent = [] := by
  obtain ⟨time, ht⟩ := Option.isSome_iff_exists.1 hc
  have hfacing := (h.facing hr ht (hle time ht)).1
  cases c with
  | plain call => cases hc
  | handleAt s =>
    obtain ⟨hturn, hscroll⟩ := Turn.route_of_unsettled (t := (r.facing (.handleAt s)).turn)
      (State.isOfTwo_iff.2 (.inl hfacing.state)) (hunsettled s rfl)
    have hdoes := Does.of_turn hr.standard (c := .handleAt s) rfl hturn
    have hnext : (r.performTimed (.handleAt s)).next.stance = (r.facing (.handleAt s)).stance :=
      hdoes.stance
    have hanchor : (r.performTimed (.handleAt s)).next.context.scroll.anchor = s₀.position := by
      rw [next_of_sample hr.standard (c := .handleAt s) rfl, hscroll]
      exact hfacing.anchor
    refine ⟨⟨(congrArg Stance.state hnext).trans hfacing.state, hanchor, ?_⟩, hdoes.twos_sent⟩
    have hflag := hfacing.flag
    have htap : (r.performTimed (.handleAt s)).next.context.twoFingerTap =
        (r.facing (.handleAt s)).context.twoFingerTap := congrArg Stance.twoFingerTap hnext
    have htimers : (r.performTimed (.handleAt s)).next.timers =
        (r.facing (.handleAt s)).timers := congrArg Stance.timers hnext
    rwa [htap, htimers]
  | advanceTo time =>
    exact ⟨hfacing, r.twos_advanceTo time⟩

end Awaits

theorem state_facing_of_two (h : (r.facing c).state.IsOfTwo) : (r.facing c).state = r.state := by
  by_cases hdrag : r.state = .dragActive
  · rcases facing_of_drag hdrag c with ⟨-, hstill⟩ | ⟨-, hover⟩
    · exact hstill.trans hdrag.symm
    · have hstate : (r.facing c).state = .hoverTracking := hover.state
      rw [hstate] at h
      exact h.elim
  · exact state_facing_of_not_drag hdrag c

theorem waits_of_facing (h : (r.facing c).state = .twoFingerTapPending) :
    r.state = .twoFingerTapPending :=
  (state_facing_of_two (State.isOfTwo_iff.2 (.inl h))).symm.trans h

/-- Unless two fingers wait before, they wait or scroll after a call because they did before, or
because they come down. -/
theorem stays_or_touches (hb : r.handlers = .standard) (hc : c.IsTimed)
    (hwaits : r.state ≠ .twoFingerTapPending) (h : (r.performTimed c).next.state.IsOfTwo) :
    (r.performTimed c).next.state = r.state ∨ ∃ s, c = .handleAt s ∧ r.TouchesTwo s := by
  cases c with
  | plain call => cases hc
  | handleAt s =>
    rw [state_of_sample hb (c := .handleAt s) rfl] at h ⊢
    rcases Turn.state_route (t := (r.facing (.handleAt s)).turn)
      (fun hfacing => hwaits (waits_of_facing hfacing)) h with hsame | htouch
    · rw [hsame] at h ⊢
      exact .inl (state_facing_of_two h)
    · exact .inr ⟨s, rfl, htouch⟩
  | advanceTo time => exact .inl (state_facing_of_two (c := .advanceTo time) h)

/-- Two fingers wait after a call because they came down with it, or because they waited before. -/
theorem touches_or_waits (hb : r.handlers = .standard) (hc : c.IsTimed)
    (h : (r.performTimed c).next.state = .twoFingerTapPending) :
    (∃ s, c = .handleAt s ∧ r.TouchesTwo s) ∨
      (r.state = .twoFingerTapPending ∧ ∀ s ∈ c.sample?, ¬s.Settles) := by
  cases c with
  | plain call => cases hc
  | handleAt s =>
    rw [state_of_sample hb (c := .handleAt s) rfl] at h
    rcases Turn.touch_or_unsettled (t := (r.facing (.handleAt s)).turn) h with
      htouch | ⟨hwaits, hunsettled⟩
    · exact .inl ⟨s, rfl, htouch⟩
    · refine .inr ⟨waits_of_facing hwaits, ?_⟩
      rintro t ⟨⟩
      exact hunsettled
  | advanceTo time =>
    refine .inr ⟨waits_of_facing (c := .advanceTo time) h, ?_⟩
    rintro s ⟨⟩

/-- Until two fingers come down at rest, neither a right click nor a scroll is sent. -/
def Rests : Recognizer Queue → List TimedCall → Prop
  | _, [] => True
  | r, c :: rest => (∀ s, c = .handleAt s → ¬r.TouchesTwo s) →
    twos (r.performTimed c).sent = [] ∧ Rests (r.performTimed c).next rest

theorem rests (hb : r.handlers = .standard) {calls : List TimedCall}
    (timed : ∀ c ∈ calls, c.IsTimed) (h : ¬r.state.IsOfTwo) : Rests r calls := by
  induction calls generalizing r with
  | nil => trivial
  | cons c rest ih =>
    intro htouch
    have hc := timed c List.mem_cons_self
    have hfacing : ¬(r.facing c).state.IsOfTwo := fun hof => h (state_facing_of_two hof ▸ hof)
    have hnext : ¬(r.performTimed c).next.state.IsOfTwo := by
      intro hof
      have hwaits : r.state ≠ .twoFingerTapPending := fun hw => h (State.isOfTwo_iff.2 (.inl hw))
      rcases stays_or_touches hb hc hwaits hof with hsame | ⟨s, hs, hin⟩
      · exact h (hsame ▸ hof)
      · exact htouch s hs hin
    refine ⟨?_, ih ((r.handlers_performTimed c).trans hb)
      (fun d hd => timed d (List.mem_cons_of_mem c hd)) hnext⟩
    cases c with
    | plain call => cases hc
    | handleAt s =>
      rw [twos_of_sample hb (c := .handleAt s) rfl]
      exact Turn.twos_route (t := (r.facing (.handleAt s)).turn)
        (fun hs => hfacing (State.isOfTwo_iff.2 (.inl hs)))
        (fun hs => absurd (State.isOfTwo_iff.2 (.inr hs)) hfacing)
    | advanceTo time => exact r.twos_advanceTo time

/-- As long as two fingers scroll, each movement sends one scroll and no right click, and nothing
else sends either. When they stop, neither is sent until two fingers come down again. -/
def Scrolls : Recognizer Queue → List TimedCall → Prop
  | _, [] => True
  | r, c :: rest =>
    (r.state = .twoFingerScroll →
      ((∃ s ∈ c.sample?, s.action = .move) →
        ∃ cmd : Command, cmd.isScroll = true ∧ twos (r.performTimed c).sent = [cmd]) ∧
      ((∀ s ∈ c.sample?, s.action ≠ .move) → twos (r.performTimed c).sent = []) ∧
      Scrolls (r.performTimed c).next rest) ∧
    (r.state ≠ .twoFingerScroll → Rests r (c :: rest))

theorem scrolls (hb : r.handlers = .standard) {calls : List TimedCall}
    (timed : ∀ c ∈ calls, c.IsTimed) (hwaits : r.state ≠ .twoFingerTapPending) :
    Scrolls r calls := by
  induction calls generalizing r with
  | nil => trivial
  | cons c rest ih =>
    have hc := timed c List.mem_cons_self
    refine ⟨fun hstate => ?_, fun hstate => rests hb timed fun hof => ?_⟩
    · have hfacing : (r.facing c).state = .twoFingerScroll := by
        rw [state_facing_of_not_drag (hstate.trans_ne nofun), hstate]
      have hnext : (r.performTimed c).next.state ≠ .twoFingerTapPending := by
        intro hw
        rcases touches_or_waits hb hc hw with ⟨s, rfl, hidle, -⟩ | ⟨hw', -⟩
        · cases hidle.symm.trans hfacing
        · exact hwaits hw'
      refine ⟨?_, ?_, ih ((r.handlers_performTimed c).trans hb)
        (fun d hd => timed d (List.mem_cons_of_mem c hd)) hnext⟩
      · rintro ⟨s, hs, ha⟩
        have hturn := (Turn.route_of_scrolling (t := (r.facing c).turn) hfacing ha).1
        have hsent := (Does.of_turn hb hs hturn).twos_sent
        exact ⟨_, Command.isScroll_travel _ _,
          hsent.trans (twos_singleton (Command.isScroll_travel _ _))⟩
      · intro hother
        cases c with
        | plain call => cases hc
        | handleAt s =>
          rw [twos_of_sample hb (c := .handleAt s) rfl]
          exact Turn.twos_route (t := (r.facing (.handleAt s)).turn) (hfacing.trans_ne nofun)
            fun _ => hother s rfl
        | advanceTo time => exact r.twos_advanceTo time
    · rcases State.isOfTwo_iff.1 hof with hw | hscroll
      · exact hwaits hw
      · exact hstate hscroll

/-- How the sample `s`, which settles what two fingers that came down with `s₀` are about, settles
it, and what comes of it in the rest of the run. -/
structure Resolution (r : Recognizer Queue) (slop : Float) (s₀ s : Sample)
    (rest : List TimedCall) : Prop where
  up : s.action = .up →
    twos (r.performTimed (.handleAt s)).sent =
      (if s.time < s₀.time.plus 100 ∧ s₀.position.distance s.position < slop then [.click .right]
        else []) ∧
    (r.performTimed (.handleAt s)).next.state = .idle ∧
    Rests (r.performTimed (.handleAt s)).next rest
  move : s.action = .move →
    (∃ cmd : Command, cmd.isScroll = true ∧
      twos (r.performTimed (.handleAt s)).sent = [cmd]) ∧
    (r.performTimed (.handleAt s)).next.state = .twoFingerScroll ∧
    Scrolls (r.performTimed (.handleAt s)).next rest
  other : s.action ≠ .up → s.action ≠ .move →
    twos (r.performTimed (.handleAt s)).sent = [] ∧
    ¬(r.performTimed (.handleAt s)).next.state.IsOfTwo ∧
    Rests (r.performTimed (.handleAt s)).next rest

/-- Fingers that wait and are lifted click if they are in time and in place. -/
theorem Awaits.lift (h : r.Awaits s₀) (hr : r.Tracked) (hle : r.timers.now ≤ s.time)
    (hup : s.action = .up) :
    r.Does (.handleAt s) (.liftTwo (s.time < s₀.time.plus 100 ∧
      s₀.position.distance s.position < r.config.touchSlop)) := by
  obtain ⟨hfacing, hflag⟩ := h.facing hr (c := .handleAt s) rfl hle
  have hdoes := Does.of_turn hr.standard (c := .handleAt s) rfl
    (Turn.route_of_lift (t := (r.facing (.handleAt s)).turn) hfacing.state hup)
  have hslop : (r.facing (.handleAt s)).turn.slop = r.config.touchSlop := by
    rw [← r.config_facing (.handleAt s)]
    rfl
  have hanchor : (r.facing (.handleAt s)).turn.context.scroll.anchor = s₀.position :=
    hfacing.anchor
  have htap : (r.facing (.handleAt s)).turn.context.twoFingerTap = true ↔
      s.time < s₀.time.plus 100 := hflag
  simpa only [htap, hslop, hanchor] using hdoes

theorem Awaits.resolution {rest : List TimedCall} (h : r.Awaits s₀)
    (hr : r.Ready (.handleAt s :: rest)) (timed : ∀ c ∈ rest, c.IsTimed)
    (hle : r.timers.now ≤ s.time) (hsettles : s.Settles) :
    r.Resolution r.config.touchSlop s₀ s rest := by
  have hb : r.handlers = .standard := hr.tracked.standard
  have hfacing := (h.facing hr.tracked (c := .handleAt s) rfl hle).1
  have hb' : (r.performTimed (.handleAt s)).next.handlers = .standard :=
    (r.handlers_performTimed _).trans hb
  refine ⟨fun hup => ?_, fun hmove => ?_, fun hup hmove => ?_⟩
  · have hdoes := h.lift hr.tracked hle hup
    have hidle : (r.performTimed (.handleAt s)).next.state = .idle :=
      congrArg Stance.state hdoes.stance
    refine ⟨?_, hidle, rests hb' timed (by rw [hidle]; exact id)⟩
    rw [hdoes.twos_sent]
    simp only [Deed.sends, decide_eq_true_eq]
    split <;> rfl
  · have hturn := (Turn.route_of_slide (t := (r.facing (.handleAt s)).turn) hfacing.state hmove).1
    have hdoes := Does.of_turn hb (c := .handleAt s) rfl hturn
    have hstate : (r.performTimed (.handleAt s)).next.state = .twoFingerScroll :=
      congrArg Stance.state hdoes.stance
    have hsent := hdoes.twos_sent.trans (twos_singleton (Command.isScroll_travel _ _))
    exact ⟨⟨_, Command.isScroll_travel _ _, hsent⟩, hstate,
      scrolls hb' timed (by rw [hstate]; decide)⟩
  · obtain ⟨hsent, hstate⟩ :=
      Turn.route_of_abandoned (t := (r.facing (.handleAt s)).turn) hsettles hup hmove
    rw [← state_of_sample hb (c := .handleAt s) rfl] at hstate
    rw [twos_of_sample hb (c := .handleAt s) rfl, hsent]
    exact ⟨rfl, hstate, rests hb' timed hstate⟩

theorem lifts_of_click (hb : r.handlers = .standard) (hc : c.IsTimed)
    (h : Command.click .right ∈ (r.performTimed c).sent) :
    ∃ s, c = .handleAt s ∧ (r.facing c).state = .twoFingerTapPending ∧ s.action = .up ∧
      (r.facing c).context.twoFingerTap = true ∧
      (r.facing c).context.scroll.anchor.distance s.position < r.config.touchSlop := by
  have hmem : Command.click .right ∈ twos (r.performTimed c).sent := List.mem_filter.2 ⟨h, rfl⟩
  cases c with
  | plain call => cases hc
  | handleAt s =>
    rw [twos_of_sample hb (c := .handleAt s) rfl] at hmem
    have hclick := Turn.lift_of_click (t := (r.facing (.handleAt s)).turn) rfl
      (List.mem_filter.1 hmem).1
    rw [← r.config_facing (.handleAt s)]
    exact ⟨s, rfl, hclick⟩
  | advanceTo time =>
    rw [twos_advanceTo] at hmem
    cases hmem

end

/-! ## Runs -/

section

variable {r : Recognizer Queue} {s₀ : Sample} {calls waiting : List TimedCall}

theorem Awaits.run (h : r.Awaits s₀) (hr : r.Ready waiting) (timed : ∀ c ∈ waiting, c.IsTimed)
    (forward : Forward r waiting) (hunsettled : ∀ s ∈ TimedCall.samples waiting, ¬s.Settles) :
    (after performTimed r waiting).Awaits s₀ ∧ twos (sentIn performTimed r waiting) = [] := by
  induction waiting generalizing r with
  | nil => exact ⟨h, rfl⟩
  | cons c rest ih =>
    obtain ⟨hnext, hsent⟩ := h.call hr.tracked (timed c List.mem_cons_self) forward.1
      (fun s hs => hunsettled s (TimedCall.mem_samples_cons.2 (.inl hs)))
    obtain ⟨hend, hrest⟩ := ih hnext hr.next (fun d hd => timed d (List.mem_cons_of_mem c hd))
      forward.2 (fun s hs => hunsettled s (TimedCall.mem_samples_cons.2 (.inr hs)))
    refine ⟨hend, ?_⟩
    rw [sentIn_cons, twos_append, hsent, hrest]
    rfl

/-- Where two fingers wait, they came down at rest, and nothing has settled it since. -/
theorem exists_touch (hb : r.handlers = .standard) (hstart : r.state ≠ .twoFingerTapPending)
    (timed : ∀ c ∈ calls, c.IsTimed)
    (h : (after performTimed r calls).state = .twoFingerTapPending) :
    ∃ before s₀ waiting, calls = before ++ .handleAt s₀ :: waiting ∧
      (after performTimed r before).TouchesTwo s₀ ∧
      ∀ s ∈ TimedCall.samples waiting, ¬s.Settles := by
  induction calls using List.reverseRecOn with
  | nil => exact absurd h hstart
  | append_singleton calls c ih =>
    have hb' : (after performTimed r calls).handlers = .standard :=
      (r.handlers_afterTimed calls).trans hb
    rw [after_append] at h
    rcases touches_or_waits hb' (timed c (by simp)) h with ⟨s, rfl, htouch⟩ | ⟨hwaits, hunsettled⟩
    · exact ⟨calls, s, [], rfl, htouch, nofun⟩
    · obtain ⟨before, s₀, waiting, rfl, htouch, hrest⟩ :=
        ih (fun d hd => timed d (List.mem_append_left _ hd)) hwaits
      refine ⟨before, s₀, waiting ++ [c], by simp, htouch, fun s hs => ?_⟩
      rw [TimedCall.samples_append, List.mem_append] at hs
      rcases hs with hs | hs
      · exact hrest s hs
      · rcases TimedCall.mem_samples_cons.1 hs with hs | hs
        · exact hunsettled s hs
        · cases hs

end

/-- **Two fingers resolve to a right click, a scroll, or nothing.** Whatever samples and jumps of the
clock come, as long as no time is before the clock. Let two fingers come down at rest with `s₀`, and
let only samples follow that settle nothing: then they wait, and have sent neither a right click nor
a scroll. The first sample that settles it does so as `Resolution` says. Lifted less than 100
milliseconds after `s₀`, and within the slop, they send one right click, and none otherwise; moved,
however late, they scroll with this and with each further movement until they stop scrolling; the
other samples send neither. After that neither is sent until two fingers come down at rest again.
And there is no other right click: a call that sends one takes the sample that lifts two fingers
that came down at rest, in time and in place.
Fewer than `2 ^ 64` callbacks are scheduled, so that no ticket is handed out twice. -/
theorem two_fingers_resolve (config : Config) (start : Time) (calls : List TimedCall)
    (timed : ∀ c ∈ calls, c.IsTimed)
    (forward : Forward (new config (Queue.startingAt start)) calls)
    (room : schedulings (new config (Queue.startingAt start)) calls < 2 ^ 64) :
    let begin := new config (Queue.startingAt start)
    (∀ before s₀ waiting later, calls = before ++ .handleAt s₀ :: (waiting ++ later) →
      let r := after performTimed begin before
      let q := after performTimed r (.handleAt s₀ :: waiting)
      r.TouchesTwo s₀ → (∀ s ∈ TimedCall.samples waiting, ¬s.Settles) →
        q.state = .twoFingerTapPending ∧
        twos (sentIn performTimed r (.handleAt s₀ :: waiting)) = [] ∧
        ∀ s rest, later = .handleAt s :: rest → s.Settles →
          q.Resolution config.touchSlop s₀ s rest) ∧
    ∀ before c later, calls = before ++ c :: later →
      .click .right ∈ ((after performTimed begin before).performTimed c).sent →
        ∃ past s₀ waiting s, before = past ++ .handleAt s₀ :: waiting ∧ c = .handleAt s ∧
          (after performTimed begin past).TouchesTwo s₀ ∧
          (∀ s ∈ TimedCall.samples waiting, ¬s.Settles) ∧ s.action = .up ∧
          s.time < s₀.time.plus 100 ∧ s₀.position.distance s.position < config.touchSlop := by
  intro begin
  have hready : begin.Ready calls := Ready.start (fun c hc => (timed c hc).isDriven) room
  -- Two fingers that came down at rest wait until something settles it.
  have hawaits (before : List TimedCall) (s₀ : Sample) (waiting later : List TimedCall)
      (hsplit : calls = before ++ .handleAt s₀ :: (waiting ++ later))
      (htouch : (after performTimed begin before).TouchesTwo s₀)
      (hunsettled : ∀ s ∈ TimedCall.samples waiting, ¬s.Settles) :
      (after performTimed (after performTimed begin before) (.handleAt s₀ :: waiting)).Awaits s₀ ∧
        twos (sentIn performTimed (after performTimed begin before) (.handleAt s₀ :: waiting)) =
          [] := by
    subst hsplit
    have hr : (after performTimed begin before).Ready (.handleAt s₀ :: (waiting ++ later)) :=
      hready.run
    have hforward := (forward_append.1 forward).2
    obtain ⟨hnext, hsent⟩ := htouch.awaits hr.tracked.standard (hforward.1 s₀.time rfl)
    obtain ⟨hend, hrest⟩ := hnext.run hr.next.of_append
      (fun c hc => timed c (List.mem_append_right _ (List.mem_cons_of_mem _
        (List.mem_append_left _ hc))))
      (forward_append.1 hforward.2).1 hunsettled
    refine ⟨hend, ?_⟩
    rw [sentIn_cons, twos_append, hsent, hrest]
    rfl
  refine ⟨?_, ?_⟩
  · intro before s₀ waiting later hsplit r q htouch hunsettled
    obtain ⟨hwaits, hsent⟩ := hawaits before s₀ waiting later hsplit htouch hunsettled
    refine ⟨hwaits.state, hsent, ?_⟩
    rintro s rest rfl hsettles
    subst hsplit
    have hr : r.Ready ((.handleAt s₀ :: waiting) ++ .handleAt s :: rest) := hready.run
    have hforward : Forward r ((.handleAt s₀ :: waiting) ++ .handleAt s :: rest) :=
      (forward_append.1 forward).2
    have hconfig : q.config = config :=
      (config_after r _).trans (config_after begin before)
    have hresolution := hwaits.resolution hr.run
      (fun c hc => timed c (by simp [hc]))
      ((forward_append.1 hforward).2.1 s.time rfl) hsettles
    rwa [hconfig] at hresolution
  · rintro before c later rfl hclick
    have hr : (after performTimed begin before).Ready (c :: later) := hready.run
    have hc := timed c (by simp)
    obtain ⟨s, rfl, hfacing, hup, hflag, hdistance⟩ :=
      lifts_of_click hr.tracked.standard hc hclick
    obtain ⟨past, s₀, waiting, rfl, htouch, hunsettled⟩ :=
      exists_touch (r := begin) rfl nofun (fun d hd => timed d (List.mem_append_left _ hd))
        (waits_of_facing hfacing)
    have hsplit : past ++ .handleAt s₀ :: waiting ++ .handleAt s :: later =
        past ++ .handleAt s₀ :: (waiting ++ .handleAt s :: later) := by
      rw [List.append_assoc, List.cons_append]
    have hwaits := (hawaits past s₀ waiting _ hsplit htouch hunsettled).1
    rw [← after_append] at hwaits
    have hle := (forward_append.1 forward).2.1 s.time rfl
    obtain ⟨hwaits', hintime⟩ := hwaits.facing hr.tracked (c := .handleAt s) rfl hle
    rw [hwaits'.anchor, config_after] at hdistance
    exact ⟨past, s₀, waiting, s, rfl, rfl, htouch, hunsettled, hup, hintime.1 hflag, hdistance⟩

/-- Two fingers are lifted a millisecond before their time is over, and when it is. -/
theorem two_fingers_resolve_at_the_end :
    let touch := (Sample.single .down ⟨10, 10⟩ 0).withFlags .twoFinger
    let hover := TimedCall.handleAt (.single .hoverMove ⟨30, 30⟩ 50)
    let q := after performTimed (new {} (Queue.startingAt 0)) [.handleAt touch, hover]
    twos (q.performTimed (.handleAt (.single .up ⟨10, 10⟩ 99))).sent = [.click .right] ∧
      twos (q.performTimed (.handleAt (.single .up ⟨10, 10⟩ 100))).sent = [] := by
  intro touch hover q
  have htouch : (new {} (Queue.startingAt 0)).TouchesTwo touch :=
    ⟨by decide +kernel, rfl, by decide⟩
  have hintime := ((two_fingers_resolve {} 0
    [.handleAt touch, hover, .handleAt (.single .up ⟨10, 10⟩ 99)] (by decide) (by decide +kernel)
    (by decide +kernel)).1 [] touch [hover] _ rfl htouch (by decide)).2.2 _ [] rfl (by decide)
  have hlate := ((two_fingers_resolve {} 0
    [.handleAt touch, hover, .handleAt (.single .up ⟨10, 10⟩ 100)] (by decide) (by decide +kernel)
    (by decide +kernel)).1 [] touch [hover] _ rfl htouch (by decide)).2.2 _ [] rfl (by decide)
  exact ⟨(hintime.up rfl).1.trans (by decide +kernel), (hlate.up rfl).1.trans (by decide +kernel)⟩

end Recognizer

end Trackpad
