import Trackpad.Proofs.Contact

/-!
# Slop — one finger taps as long as it stays in place

A single contact is a tap if none of its movements goes further than the slop from where it came
down, and if it is lifted less than the slop away (`StaysInPlace`). The first movement beyond ends
the wait for good: recognition is at rest then, and later samples may take it on to hovering, and
even to a drag, but not back (`State.IsAdrift`).

The two comparisons are not of one kind. A movement by exactly the slop is still in place, a release
there is no tap; and a distance that is undefined is not beyond the slop, nor less than the slop.
-/

namespace Trackpad

/-- The sample moves a contact that came down at `p` beyond the slop. -/
def Sample.Leaves (s : Sample) (p : Point) (slop : Float) : Prop :=
  s.action = .move ∧ slop < p.distance s.position

instance (s : Sample) (p : Point) (slop : Float) : Decidable (s.Leaves p slop) :=
  inferInstanceAs (Decidable (_ ∧ _))

/-- A contact that came down at `p` stays in place until `lift` lifts it: none of the samples in
between moves it beyond the slop, and it is lifted less than the slop away. -/
def StaysInPlace (p : Point) (slop : Float) (between : List Sample) (lift : Sample) : Prop :=
  (∀ s ∈ between, ¬s.Leaves p slop) ∧ p.distance lift.position < slop

instance (p : Point) (slop : Float) (between : List Sample) (lift : Sample) :
    Decidable (StaysInPlace p slop between lift) :=
  inferInstanceAs (Decidable (_ ∧ _))

/-- The states that a contact that has moved beyond the slop can come to before it is lifted. -/
def State.IsAdrift : State → Prop
  | idle | hoverTracking | dragActive => True
  | _ => False

/-- The sample neither ends a contact nor begins one. -/
def Sample.KeepsContact (s : Sample) : Prop := ¬s.EndsContact ∧ s.action ≠ .down

instance (s : Sample) : Decidable s.KeepsContact := inferInstanceAs (Decidable (_ ∧ _))

/-! ## Samples -/

namespace Turn

variable {σ : Type} [Scheduler σ] {t : Turn σ} {s : Sample}

theorem route_of_contact (hs : t.state = .idle) (ha : s.action = .down)
    (hk : s.kind = .singleFinger) :
    t.Does s (.enter .singleTapPending) (t.route .standard s).2 ∧
      (t.route .standard s).2.context.startPosition = s.position := by
  rw [route_of_reacts hs rfl (ha ▸ trivial) (.touched ha (.tap hk))]
  exact ⟨⟨fits_enter hs (by decide) (by decide), rfl, by simp [Deed.sends]⟩, rfl⟩

/-- A movement beyond the slop ends the wait for the tap. -/
theorem route_of_leaving (hs : t.state = .singleTapPending)
    (h : s.Leaves t.context.startPosition t.slop) :
    (t.route .standard s).2.state = .idle := by
  obtain ⟨ha, hbeyond⟩ := h
  rw [route_of_reacts hs rfl (ha ▸ trivial) (.strayed ha (Point.isBeyond_iff.2 hbeyond))]
  rfl

/-- Nothing else but the end of the contact does. -/
theorem route_of_staying (hs : t.state = .singleTapPending) (hends : ¬s.EndsContact)
    (h : ¬s.Leaves t.context.startPosition t.slop) :
    (t.route .standard s).2.state = .singleTapPending ∧
      (t.route .standard s).2.context.startPosition = t.context.startPosition := by
  simp only [Sample.EndsContact, not_or, not_and] at hends
  obtain ⟨hup, hpress, hcancel, htwo⟩ := hends
  cases ha : s.action with
  | up => exact absurd ha hup
  | buttonPress => exact absurd ha hpress
  | cancel => exact absurd ha hcancel
  | pointerDown | pointerUp | buttonRelease =>
    have hr : (t.route .standard s).2 = t := by simp [route, ha, hs, htwo]
    rw [hr]
    exact ⟨hs, rfl⟩
  | move =>
    have hjitter : t.context.startPosition.isBeyond s.position t.slop = false :=
      Bool.eq_false_iff.2 fun hbeyond => h ⟨ha, Point.isBeyond_iff.1 hbeyond⟩
    rw [route_of_reacts hs rfl (ha ▸ trivial) (.jittered ha hjitter)]
    exact ⟨hs, rfl⟩
  | down | hoverEnter | hoverMove | hoverExit =>
    rw [route_of_reacts hs rfl (ha ▸ trivial) (.ignored ⟨hup, by simp [ha], hcancel⟩)]
    exact ⟨hs, rfl⟩

/-- From where a contact drifts to there is no way back while it lasts. -/
theorem Reacts.isAdrift {state : State} {outcome : Bool × Turn σ} (h : t.Reacts s state outcome)
    (hs : t.state = state) (hadrift : state.IsAdrift) (hdown : s.action ≠ .down)
    (hpress : s.action ≠ .buttonPress) : outcome.2.state.IsAdrift := by
  cases h with
  | touched ha _ => exact absurd ha hdown
  | pressed ha => exact absurd ha hpress
  | ignored _ | pointed _ _ | dragged _ => exact hs ▸ hadrift
  | approached _ | grabbed _ _ | departed _ | dropped _ => trivial
  -- The other handlers are for states that no contact drifts to.
  | _ => exact hadrift.elim

theorem isAdrift_dispatch (h : t.state.IsAdrift) (hdown : s.action ≠ .down)
    (hpress : s.action ≠ .buttonPress) : (Registry.standard.dispatch s t).2.state.IsAdrift := by
  obtain ⟨label, hreacts⟩ := t.reacts_dispatch s
  exact hreacts.isAdrift rfl h hdown hpress

theorem route_of_adrift (h : t.state.IsAdrift) (hkeeps : s.KeepsContact) :
    (t.route .standard s).2.state.IsAdrift := by
  obtain ⟨hends, hdown⟩ := hkeeps
  simp only [Sample.EndsContact, not_or, not_and] at hends
  obtain ⟨-, hpress, hcancel, htwo⟩ := hends
  have hroutes := t.routes s
  generalize (t.route .standard s).2 = u at hroutes ⊢
  cases hroutes with
  | ignored => exact h
  | pinched ha hcount => exact absurd hcount (htwo ha)
  | pressed ha => exact absurd ha hpress
  | dropped ha => exact absurd ha hcancel
  | lifted hlifts =>
    -- Only a pinch and a held button are handed what is lifted.
    rcases hlifts with ⟨-, hs⟩ | ⟨-, hs⟩
    · rw [hs] at h
      exact h.elim
    · rw [hs] at h
      exact h.elim
  | handed _ => exact isAdrift_dispatch (t := t.classify s) h hdown hpress

/-- A release that is not near where the contact came down only ends the wait. -/
theorem route_of_far (ha : s.action = .up) (hs : t.state = .singleTapPending)
    (hfar : ¬t.context.startPosition.distance s.position < t.slop) :
    t.Does s (.enter .idle) (t.route .standard s).2 := by
  rw [route_of_reacts hs rfl (ha ▸ trivial) (.slid ha hfar)]
  exact ⟨fits_enter hs (by decide) (by decide), rfl, by simp [Deed.sends]⟩

/-- Lifting a finger that is no tap schedules nothing. -/
theorem route_of_no_tap (ha : s.action = .up)
    (hs : t.state = .singleTapPending ∨ t.state.IsAdrift) (htaps : ¬t.context.Taps t.slop s) :
    ∃ d : Deed, t.Does s d (t.route .standard s).2 ∧ d.schedulings = 0 := by
  cases hstate : t.state with
  | singleTapPending =>
    exact ⟨.enter .idle, route_of_far ha hstate fun hnear => htaps ⟨ha, hstate, hnear⟩, rfl⟩
  | idle =>
    rw [route_of_reacts hstate rfl (ha ▸ trivial) (.ignored (by simp [State.Ignores, ha]))]
    exact ⟨.nothing, ⟨trivial, rfl, by simp [Deed.sends]⟩, rfl⟩
  | hoverTracking =>
    rw [route_of_reacts hstate rfl (ha ▸ trivial) (.ignored (by simp [State.Ignores, ha]))]
    exact ⟨.nothing, ⟨trivial, rfl, by simp [Deed.sends]⟩, rfl⟩
  | dragActive =>
    rw [route_of_reacts hstate rfl (ha ▸ trivial) (.dropped (by simp [ha]))]
    exact ⟨.endDrag, ⟨hstate, rfl, by simp [Deed.sends]⟩, rfl⟩
  | _ =>
    rw [hstate] at hs
    rcases hs with hs | hs
    · cases hs
    · exact hs.elim

end Turn

/-! ## What is armed -/

namespace Recognizer

variable {σ : Type} [Scheduler σ]

/-- From `r` to `q` the sample `s` is accepted as a tap: the window opens for 160 milliseconds, and
the click and the end of the window are scheduled, each in place of what was live in its slot. -/
structure TakesTap (r : Recognizer σ) (s : Sample) (q : Recognizer σ) : Prop where
  state : q.state = .idle
  window : q.context.window = .armed (s.time.plus 160)
  armed : (q.context.slots, q.timers) =
    let clicking := r.context.slots.arm .delayedClick r.timers
    clicking.1.arm .doubleTapExpiry clicking.2

/-- From `r` to `q` no callback is scheduled and no window is opened: what is live was live before,
and the scheduler was only asked to drop callbacks. -/
structure ArmsNothing (r q : Recognizer σ) : Prop where
  live : ∀ slot ticket, q.context.slots.get? slot = some ticket →
    r.context.slots.get? slot = some ticket
  window : q.context.window = r.context.window ∨ q.context.window = .idle
  timers : ∃ tickets : List Ticket, q.timers = tickets.foldl Scheduler.cancel r.timers

end Recognizer

namespace Slots

variable {σ : Type} [Scheduler σ]

theorem live_disarm {s : Slots} {slot other : Slot} {timers : σ} {ticket : Ticket}
    (h : (s.disarm slot timers).1.get? other = some ticket) : s.get? other = some ticket := by
  by_cases heq : other = slot
  · rw [heq, get?_disarm_self] at h
    cases h
  · rwa [get?_disarm_ne s heq] at h

theorem canceled_disarm (s : Slots) (slot : Slot) (timers : σ) :
    ∃ tickets : List Ticket, (s.disarm slot timers).2 = tickets.foldl Scheduler.cancel timers := by
  unfold disarm
  split
  · rename_i ticket _
    exact ⟨[ticket], rfl⟩
  · exact ⟨[], rfl⟩

end Slots

theorem Queue.nextId_cancelAll (tickets : List Ticket) (q : Queue) :
    (tickets.foldl Scheduler.cancel q).nextId = q.nextId := by
  induction tickets generalizing q with
  | nil => rfl
  | cons ticket rest ih => exact ih (Scheduler.cancel q ticket)

/-- A deed that schedules nothing arms nothing. -/
theorem Deed.armsNothing {σ : Type} [Scheduler σ] {d : Deed} (h : d.schedulings = 0)
    {r q : Recognizer σ} (hq : q.stance = d.apply r.stance) : r.ArmsNothing q := by
  have hkept : (0 : Nat) = 0 ∧
      (∀ slot ticket, (d.apply r.stance).slots.get? slot = some ticket →
        r.context.slots.get? slot = some ticket) ∧
      ∃ tickets : List Ticket,
        (d.apply r.stance).timers = tickets.foldl Scheduler.cancel r.timers := by
    refine d.apply_keeps (P := fun n s timers => n = 0 ∧
      (∀ slot ticket, s.get? slot = some ticket → r.context.slots.get? slot = some ticket) ∧
      ∃ tickets : List Ticket, timers = tickets.foldl Scheduler.cancel r.timers)
      (fun n s timers slot hP => absurd hP.1 n.succ_ne_zero) (fun n s timers slot hP => ?_) ?_
    · obtain ⟨hn, hlive, before, hbefore⟩ := hP
      obtain ⟨tickets, htickets⟩ := s.canceled_disarm slot timers
      refine ⟨hn, fun other ticket hother => hlive other ticket (Slots.live_disarm hother),
        before ++ tickets, ?_⟩
      rw [htickets, hbefore, List.foldl_append]
    · exact ⟨by rw [h], fun slot ticket hslot => hslot, [], rfl⟩
  have hwindow : (d.apply r.stance).window = r.context.window ∨
      (d.apply r.stance).window = .idle := by
    cases d with
    | acceptTap _ | touchTwo | beginDrag _ | keepDrag _ => cases h
    | endDrag | drop => exact .inr rfl
    | _ => exact .inl rfl
  rw [← hq] at hkept hwindow
  exact ⟨hkept.2.1, hwindow, hkept.2.2⟩

namespace Recognizer

section

variable {σ : Type} [Scheduler σ] {r : Recognizer σ} {s : Sample} {p : Point} {slop : Float}

theorem takesTap_handle (hb : r.handlers = .standard) (h : r.context.Taps r.config.touchSlop s) :
    r.TakesTap s (r.handle s).next := by
  have hdelay : Slot.doubleTapExpiry.delayMillis = 160 := by decide
  obtain ⟨hstance, -⟩ := handle_of_turn hb (Turn.route_of_taps (t := r.turn) h)
  rw [hdelay] at hstance
  exact ⟨congrArg Stance.state hstance, congrArg Stance.window hstance,
    congrArg (fun v : Stance σ => (v.slots, v.timers)) hstance⟩

theorem armsNothing_handle (hb : r.handlers = .standard) (ha : s.action = .up)
    (hs : r.state = .singleTapPending ∨ r.state.IsAdrift)
    (h : ¬r.context.Taps r.config.touchSlop s) : r.ArmsNothing (r.handle s).next := by
  obtain ⟨d, hd, hd0⟩ := Turn.route_of_no_tap (t := r.turn) ha hs h
  exact Deed.armsNothing hd0 (handle_of_turn hb hd).1

/-! ## The stretch of a contact -/

/-- Where a contact that came down at `p` stands after the samples `past`. -/
structure Tracks (p : Point) (slop : Float) (past : List Sample) (r : Recognizer σ) : Prop where
  sameSlop : r.config.touchSlop = slop
  inPlace : (∀ s ∈ past, ¬s.Leaves p slop) →
    r.state = .singleTapPending ∧ r.context.startPosition = p
  adrift : (∃ s ∈ past, s.Leaves p slop) → r.state.IsAdrift

theorem startPosition_onTimer (r : Recognizer σ) (slot : Slot) (ticket : Ticket) :
    (r.onTimer slot ticket).next.context.startPosition = r.context.startPosition := by
  have hrest := congrArg Context.startPosition (r.inStance_onTimer slot ticket r.stance)
  exact hrest

theorem isAdrift_onTimer (h : r.state.IsAdrift) (slot : Slot) (ticket : Ticket) :
    (r.onTimer slot ticket).next.state.IsAdrift := by
  by_cases hdrag : r.state = .dragActive
  · by_cases hlive : r.context.slots.get? slot = some ticket
    · have hstate := congrArg Stance.state (onTimer_of_live hlive).1
      show (r.onTimer slot ticket).next.stance.state.IsAdrift
      rw [hstate]
      cases slot with
      | dragTimeout =>
        have hvacated : (r.stance.vacate .dragTimeout).state = .dragActive := hdrag
        rw [Stance.expire_of_drag hvacated]
        trivial
      | _ => exact h
    · rwa [(onTimer_of_stale hlive).1]
  · rwa [state_onTimer_of_not_drag hdrag]

namespace Tracks

variable {past : List Sample}

theorem onTimer (h : r.Tracks p slop past) (slot : Slot) (ticket : Ticket) :
    (r.onTimer slot ticket).next.Tracks p slop past where
  sameSlop := h.sameSlop
  inPlace := by
    intro hall
    obtain ⟨hstate, hstart⟩ := h.inPlace hall
    have hdrag : r.state ≠ .dragActive := by
      rw [hstate]
      decide
    rw [state_onTimer_of_not_drag hdrag, startPosition_onTimer]
    exact ⟨hstate, hstart⟩
  adrift := fun hleft => isAdrift_onTimer (h.adrift hleft) slot ticket

theorem handle (h : r.Tracks p slop past) (hb : r.handlers = .standard) (hkeeps : s.KeepsContact) :
    (r.handle s).next.Tracks p slop (past ++ [s]) := by
  have hslop : r.turn.slop = slop := h.sameSlop
  rw [handle_of_standard hb]
  -- What has left before is adrift; what has not either leaves with this sample or stays.
  by_cases hpast : ∃ s ∈ past, s.Leaves p slop
  · have hleft : ∃ other ∈ past ++ [s], other.Leaves p slop := by
      obtain ⟨before, hmem, hleaves⟩ := hpast
      exact ⟨before, List.mem_append_left _ hmem, hleaves⟩
    refine ⟨h.sameSlop, fun hall => ?_, fun _ => ?_⟩
    · obtain ⟨before, hmem, hleaves⟩ := hleft
      exact absurd hleaves (hall before hmem)
    · exact Turn.route_of_adrift (t := r.turn) (h.adrift hpast) hkeeps
  · have hall : ∀ s ∈ past, ¬s.Leaves p slop := fun s hs hleaves => hpast ⟨s, hs, hleaves⟩
    obtain ⟨hstate, hstart⟩ := h.inPlace hall
    have hstart' : r.turn.context.startPosition = p := hstart
    by_cases hleaves : s.Leaves p slop
    · have hidle : (r.turn.route .standard s).2.state = .idle := by
        refine Turn.route_of_leaving (t := r.turn) hstate ?_
        rwa [hstart', hslop]
      refine ⟨h.sameSlop, fun hall => absurd hleaves (hall s (by simp)), fun _ => ?_⟩
      show State.IsAdrift (r.turn.route .standard s).2.state
      rw [hidle]
      trivial
    · have hstays := Turn.route_of_staying (t := r.turn) hstate hkeeps.1
        (by rwa [hstart', hslop])
      rw [hstart'] at hstays
      refine ⟨h.sameSlop, fun _ => hstays, ?_⟩
      rintro ⟨before, hmem, hbefore⟩
      rcases List.mem_append.1 hmem with hmem | hmem
      · exact absurd hbefore (hall before hmem)
      · rw [List.mem_singleton.1 hmem] at hbefore
        exact absurd hbefore hleaves

end Tracks

/-- A contact is tracked from its first sample to its last. -/
theorem carried_tracks (p : Point) (slop : Float) :
    Carried (σ := σ) Sample.KeepsContact fun past _ r => r.Tracks p slop past where
  callback slot ticket h := h.onTimer slot ticket
  sample hb hkeeps h := h.handle hb hkeeps
  clock _ h := ⟨h.sameSlop, h.inPlace, h.adrift⟩

theorem tracks_of_contact (hb : r.handlers = .standard) (hs : r.state = .idle)
    (ha : s.action = .down) (hk : s.kind = .singleFinger) :
    (r.handle s).next.Tracks s.position r.config.touchSlop [] := by
  obtain ⟨hdoes, hstart⟩ := Turn.route_of_contact (t := r.turn) hs ha hk
  rw [handle_of_standard hb]
  refine ⟨rfl, fun _ => ⟨congrArg Stance.state hdoes.stance, hstart⟩, ?_⟩
  rintro ⟨before, hmem, -⟩
  cases hmem

omit [Scheduler σ] in
/-- Where a contact stands decides whether lifting it is a tap. -/
theorem Tracks.taps_iff {past : List Sample} (h : r.Tracks p slop past) (ha : s.action = .up) :
    r.context.Taps r.config.touchSlop s ↔ StaysInPlace p slop past s := by
  rw [h.sameSlop]
  constructor
  · rintro ⟨-, hs, hnear⟩
    have hall : ∀ s ∈ past, ¬s.Leaves p slop := by
      intro before hmem hleaves
      have hadrift := h.adrift ⟨before, hmem, hleaves⟩
      rw [state, hs] at hadrift
      exact hadrift
    rw [(h.inPlace hall).2] at hnear
    exact ⟨hall, hnear⟩
  · rintro ⟨hall, hnear⟩
    obtain ⟨hs, hstart⟩ := h.inPlace hall
    exact ⟨ha, hs, by rwa [hstart]⟩

theorem Tracks.lift {past : List Sample} (h : r.Tracks p slop past) (hb : r.handlers = .standard)
    (ha : s.action = .up) :
    (StaysInPlace p slop past s → r.TakesTap s (r.handle s).next) ∧
      (¬StaysInPlace p slop past s → r.ArmsNothing (r.handle s).next) := by
  have hplace : r.state = .singleTapPending ∨ r.state.IsAdrift := by
    by_cases hleft : ∃ s ∈ past, s.Leaves p slop
    · exact .inr (h.adrift hleft)
    · exact .inl (h.inPlace fun s hs hleaves => hleft ⟨s, hs, hleaves⟩).1
  rw [← h.taps_iff ha]
  exact ⟨takesTap_handle hb, armsNothing_handle hb ha hplace⟩

end

theorem tracks_performTimed {r : Recognizer Queue} (hb : r.handlers = .standard)
    (hs : r.state = .idle) {c : TimedCall} {s : Sample} (hc : s ∈ c.sample?) (ha : s.action = .down)
    (hk : s.kind = .singleFinger) :
    (r.performTimed c).next.Tracks s.position r.config.touchSlop [] := by
  have hfacing : (r.facing c).state = .idle := by
    rw [state_facing_of_not_drag (hs.trans_ne nofun), hs]
  rw [(r.performTimed_of_sample hc).1, ← r.config_facing c]
  exact tracks_of_contact ((r.handlers_facing c).trans hb) hfacing ha hk

/-- On a queue the two cannot be mistaken for each other: a tap uses up two tickets. -/
theorem TakesTap.not_armsNothing {r q : Recognizer Queue} {s : Sample} (h : r.TakesTap s q) :
    ¬r.ArmsNothing q := by
  rintro ⟨-, -, tickets, htickets⟩
  have hkept : q.timers.nextId = r.timers.nextId := by
    rw [htickets, Queue.nextId_cancelAll]
  have htaken : q.timers.nextId = r.timers.nextId + 1 + 1 := by
    have htimers := congrArg Prod.snd h.armed
    have hnext := congrArg Queue.nextId htimers
    rwa [Slots.nextId_arm, Slots.nextId_arm] at hnext
  rw [hkept] at htaken
  have hwrap := congrArg UInt64.toNat htaken
  rw [UInt64.toNat_add, UInt64.toNat_add] at hwrap
  have hlt := r.timers.nextId.toNat_lt
  have hone : (1 : UInt64).toNat = 1 := rfl
  omega

/-- **One finger taps exactly if it stays in place.** Let a recognizer with the standard handlers be
at rest, whatever timers and window earlier gestures have left, and let a single finger come down
and be lifted again. In between come any samples that keep the contact, and any callbacks, over
whatever scheduler. If no movement goes further than the slop from where the finger came down, and it
is lifted less than the slop away, then lifting it is accepted as a tap: the window opens, and the
click and its end are scheduled anew. Otherwise lifting it schedules nothing and opens no window, so
a finger that has once gone beyond the slop and come back is no tap. Over a queue the same holds of
calls that come with times, with the callbacks that are due delivered before each sample; there the
two outcomes differ by the tickets they use up, and a tap is accepted only if the finger stayed in
place. -/
theorem tap_iff_stays_in_place :
    (∀ {σ : Type} [Scheduler σ] (r : Recognizer σ) (down lift : Sample) (between : List Call),
      r.handlers = .standard → r.state = .idle → .reset ∉ between →
      IsContact .singleFinger Sample.KeepsContact down (Call.samples between) lift →
        let lifted := after perform r (.handle down :: between)
        let stays := StaysInPlace down.position r.config.touchSlop (Call.samples between) lift
        (stays → lifted.TakesTap lift (lifted.handle lift).next) ∧
          (¬stays → lifted.ArmsNothing (lifted.handle lift).next)) ∧
    ∀ (r : Recognizer Queue) (touch release : TimedCall) (down lift : Sample)
      (between : List TimedCall), r.handlers = .standard → r.state = .idle →
      down ∈ touch.sample? → lift ∈ release.sample? → .plain .reset ∉ between →
      IsContact .singleFinger Sample.KeepsContact down (TimedCall.samples between) lift →
        let during := after performTimed r (touch :: between)
        let lifted := during.facing release
        let stays := StaysInPlace down.position r.config.touchSlop (TimedCall.samples between) lift
        (lifted.TakesTap lift (during.performTimed release).next ↔ stays) ∧
          (¬stays → lifted.ArmsNothing (during.performTimed release).next) := by
  refine ⟨?_, ?_⟩
  · intro σ _ r down lift between hb hs hreset hcontact lifted stays
    have hb' : (r.handle down).next.handlers = .standard := hb
    have htracks := (carried_tracks down.position r.config.touchSlop).run hb' hreset hcontact.allowed
      (tracks_of_contact hb hs hcontact.comesDown hcontact.isOfKind)
    have hlifted : lifted.handlers = .standard := (handlers_after r _).trans hb
    exact htracks.lift hlifted hcontact.goesUp
  · intro r touch release down lift between hb hs hdown hlift hreset hcontact during lifted stays
    have hb' : (r.performTimed touch).next.handlers = .standard :=
      (r.handlers_performTimed touch).trans hb
    have hbegun := tracks_performTimed hb hs hdown hcontact.comesDown hcontact.isOfKind
    have hcarried := carried_tracks (σ := Queue) down.position r.config.touchSlop
    have htracks := hcarried.facing [] release
      (hcarried.runTimed hb' hreset hcontact.allowed hbegun)
    have hlifted : lifted.handlers = .standard :=
      (during.handlers_facing release).trans ((r.handlers_afterTimed _).trans hb)
    obtain ⟨htakes, hnothing⟩ := htracks.lift hlifted hcontact.goesUp
    have hnext : (during.performTimed release).next = (lifted.handle lift).next :=
      (during.performTimed_of_sample hlift).1
    rw [hnext]
    refine ⟨⟨fun htap => ?_, htakes⟩, hnothing⟩
    by_contra hleft
    exact htap.not_armsNothing (hnothing hleft)

/-- An earlier tap still waits when a finger comes down and jitters. It is a second tap if it is
lifted then, and none if it has been away first, over the pad, and has come back. -/
theorem tap_iff_stays_in_place_and_not_back :
    let r := after performTimed (new {} (Queue.startingAt 0)) (TimedCall.tapping ⟨10, 10⟩ 0 20)
    let down := Sample.single .down ⟨50, 50⟩ 60
    let lift := Sample.single .up ⟨51, 50⟩ 120
    let jitter := TimedCall.handleAt (.single .move ⟨53, 50⟩ 70)
    let away := [jitter, .handleAt (.single .move ⟨70, 50⟩ 80),
      .handleAt (.single .hoverEnter ⟨60, 50⟩ 90), .handleAt (.single .hoverExit ⟨50, 50⟩ 100)]
    let near := after performTimed r [.handleAt down, jitter]
    let back := after performTimed r (.handleAt down :: away)
    r.context.window = .armed 180 ∧
      (near.facing (.handleAt lift)).TakesTap lift (near.performTimed (.handleAt lift)).next ∧
      (back.facing (.handleAt lift)).ArmsNothing (back.performTimed (.handleAt lift)).next := by
  intro r down lift jitter away near back
  have hr : r.handlers = .standard := rfl
  have hidle : r.state = .idle := by decide +kernel
  have hnear : IsContact .singleFinger Sample.KeepsContact down (TimedCall.samples [jitter]) lift :=
    ⟨rfl, by decide, by decide, rfl⟩
  have hback : IsContact .singleFinger Sample.KeepsContact down (TimedCall.samples away) lift :=
    ⟨rfl, by decide, by decide, rfl⟩
  have htap := (tap_iff_stays_in_place.2 r (.handleAt down) (.handleAt lift) down lift [jitter] hr
    hidle rfl rfl (by decide) hnear).1.2 (by decide +kernel)
  have hnone := (tap_iff_stays_in_place.2 r (.handleAt down) (.handleAt lift) down lift away hr
    hidle rfl rfl (by decide) hback).2 (by decide +kernel)
  exact ⟨by decide +kernel, htap, hnone⟩

end Recognizer

end Trackpad
