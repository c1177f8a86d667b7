import Mathlib.Data.List.Induction
import Trackpad.Proofs.Forward
import Trackpad.Proofs.LateHover

/-!
# TapWindow — the window is open until the time it says

The window of a tap has two ends: the deadline it is armed with, which is computed from the time of
the sample, and the callback that closes it, which is due by the clock of the queue. Nothing ever
reads the deadline. In a run that goes `Forward` the clock stands at the time of the sample when a
tap is accepted, so the two are the same time, and the window is open exactly as long as the clock
is before it (`window_open_until`).

The tap that counts is the last one that was accepted, if since then the gesture was not dropped and
no drag has begun (`LastTap`). What is left of it is carried along the run as `Remembers`.
-/

namespace Trackpad

/-! ## The time of a tap -/

section LastTapTime

variable {σ : Type} [Scheduler σ]

/-- No handler but the one that accepts a tap sets the time. -/
theorem Turn.Reacts.lastTapTime {s : Sample} {t : Turn σ} {state : State}
    {outcome : Bool × Turn σ} (h : t.Reacts s state outcome) (hs : t.state = state)
    (htaps : ¬t.context.Taps t.slop s) :
    outcome.2.context.lastTapTime = t.context.lastTapTime := by
  cases h with
  | tapped ha hnear => exact absurd ⟨ha, hs, hnear⟩ htaps
  | touched _ hbegins => cases hbegins <;> rfl
  | moved _ =>
    rw [Turn.context_scrollTo]
    rfl
  | wheeled _ => rw [Turn.context_scrollTo]
  | pinched _ _ => rw [Turn.context_pinchTo]
  | _ => rfl

theorem Turn.lastTapTime_dispatch {s : Sample} {t : Turn σ} (h : ¬t.context.Taps t.slop s) :
    (Registry.standard.dispatch s t).2.context.lastTapTime = t.context.lastTapTime := by
  obtain ⟨label, hreacts⟩ := t.reacts_dispatch s
  exact hreacts.lastTapTime rfl h

/-- Only a tap that is accepted and a drop of the gesture set the time. -/
theorem Turn.lastTapTime_route {s : Sample} {t : Turn σ} (h : ¬t.context.Taps t.slop s)
    (ha : s.action ≠ .cancel) :
    (t.route .standard s).2.context.lastTapTime = t.context.lastTapTime := by
  have hroutes := t.routes s
  generalize (t.route .standard s).2 = u at hroutes ⊢
  cases hroutes with
  | ignored | pinched _ _ | pressed _ => rfl
  | dropped hcancel => exact absurd hcancel ha
  | lifted _ => exact Turn.lastTapTime_dispatch h
  | handed _ => exact Turn.lastTapTime_dispatch (t := t.classify s) h

theorem Turn.lastTapTime_of_taps {s : Sample} {t : Turn σ} (h : t.context.Taps t.slop s) :
    (t.route .standard s).2.context.lastTapTime = s.time := by
  rw [Turn.snd_route_of_taps h]
  rfl

end LastTapTime

namespace Recognizer

/-! ## What ends a tap -/

/-- The call takes recognition into a drag. -/
def BeginsDrag (r : Recognizer Queue) (c : TimedCall) : Prop :=
  (r.facing c).state ≠ .dragActive ∧ (r.performTimed c).next.state = .dragActive

/-- The call accepts a tap, drops the gesture or begins a drag. -/
def Spends (r : Recognizer Queue) (c : TimedCall) : Prop :=
  r.Accepts c ∨ c.Drops ∨ r.BeginsDrag c

instance (r : Recognizer Queue) (c : TimedCall) : Decidable (r.BeginsDrag c) :=
  inferInstanceAs (Decidable (_ ∧ _))

instance (r : Recognizer Queue) (c : TimedCall) : Decidable (r.Spends c) :=
  inferInstanceAs (Decidable (_ ∨ _ ∨ _))

/-- No call of the run does. -/
def Unspent : Recognizer Queue → List TimedCall → Prop
  | _, [] => True
  | r, c :: rest => ¬r.Spends c ∧ Unspent (r.performTimed c).next rest

theorem unspent_append {r : Recognizer Queue} {first second : List TimedCall} :
    Unspent r (first ++ second) ↔
      Unspent r first ∧ Unspent (after performTimed r first) second := by
  induction first generalizing r with
  | nil => exact ⟨fun h => ⟨trivial, h⟩, And.right⟩
  | cons c rest ih => simp only [List.cons_append, Unspent, ih, after_cons, and_assoc]

/-- A tap was accepted at `u` and counts still: the calls `later` came after it, and none of them
accepted another, dropped the gesture or began a drag. -/
def LastTap (r : Recognizer Queue) (calls : List TimedCall) (u : Time) (later : List TimedCall) :
    Prop :=
  ∃ before tap, calls = before ++ tap :: later ∧ (after performTimed r before).Accepts tap ∧
    tap.time? = some u ∧ Unspent (after performTimed r (before ++ [tap])) later

section

variable {r : Recognizer Queue} {calls later : List TimedCall} {c : TimedCall} {u : Time}

theorem lastTap_of_accepts (h : (after performTimed r calls).Accepts c) (hu : c.time? = some u) :
    LastTap r (calls ++ [c]) u [] :=
  ⟨calls, c, rfl, h, hu, trivial⟩

theorem LastTap.extend (h : LastTap r calls u later)
    (hc : ¬(after performTimed r calls).Spends c) : LastTap r (calls ++ [c]) u (later ++ [c]) := by
  obtain ⟨before, tap, rfl, haccepts, hu, hunspent⟩ := h
  refine ⟨before, tap, by simp, haccepts, hu, unspent_append.2 ⟨hunspent, ?_, trivial⟩⟩
  rwa [← after_append, List.append_assoc]

/-- The tap that counts was accepted by the last call, or counted before it. -/
theorem LastTap.cases_append (h : LastTap r (calls ++ [c]) u later) :
    (later = [] ∧ (after performTimed r calls).Accepts c ∧ c.time? = some u) ∨
      ∃ rest, later = rest ++ [c] ∧ LastTap r calls u rest ∧
        ¬(after performTimed r calls).Spends c := by
  obtain ⟨before, tap, hsplit, haccepts, hu, hunspent⟩ := h
  rcases List.eq_nil_or_concat' later with rfl | ⟨rest, last, rfl⟩
  · obtain ⟨rfl, rfl⟩ := List.append_inj' hsplit rfl |>.imp_right List.singleton_inj.1
    exact .inl ⟨rfl, haccepts, hu⟩
  · rw [← List.cons_append, ← List.append_assoc] at hsplit
    obtain ⟨rfl, rfl⟩ := List.append_inj' hsplit rfl |>.imp_right List.singleton_inj.1
    obtain ⟨hrest, hlast, -⟩ := unspent_append.1 hunspent
    rw [← after_append, List.append_assoc] at hlast
    exact .inr ⟨rest, rfl, ⟨before, tap, rfl, haccepts, hu, hrest⟩, hlast⟩

end

end Recognizer

/-! ## What deeds do to the window -/

section Deeds

variable {σ : Type} [Scheduler σ] {v : Stance σ} {d : Deed} {c : Context} {slop : Float}
  {s : Sample}

/-- A drag that ends closes a window that is closed already. -/
theorem Stance.Coherent.window_apply (h : v.Coherent) (hc : c.state = v.state)
    (hf : d.Fits c slop s) (hd : d.SparesTap) : (d.apply v).window = v.window := by
  cases d with
  | acceptTap _ | beginDrag _ | drop => exact hd.elim
  | endDrag =>
    have hdrag : v.state = .dragActive := hc.symm.trans hf
    exact (h.drag hdrag).2.1.symm
  | _ => rfl

/-- There is one way into a drag. -/
theorem Deed.eq_beginDrag (hf : d.Fits c slop s)
    (hbefore : v.state ≠ .dragActive) (hafter : (d.apply v).state = .dragActive) :
    ∃ p, d = .beginDrag p := by
  cases d with
  | beginDrag p => exact ⟨p, rfl⟩
  | enter target => exact absurd hafter hf.1
  | nothing | point _ | hold _ | wheel _ | keepDrag _ => exact absurd hafter hbefore
  | pressPad | releasePad | acceptTap _ | touchTwo | liftTwo _ | scrollTwo _ | endDrag | drop =>
    cases hafter

end Deeds

namespace Recognizer

namespace Does

variable {r : Recognizer Queue} {c : TimedCall} {d : Deed}

theorem sparesTap_of_unspent (hd : r.Does c d) (hc : ¬r.Spends c) : d.SparesTap := by
  simp only [Spends, not_or] at hc
  obtain ⟨haccepts, hdrops, hbegins⟩ := hc
  cases d with
  | acceptTap _ => exact haccepts hd.accepts
  | drop => exact hdrops hd.drops
  | beginDrag p =>
    refine hbegins ⟨?_, congrArg Stance.state hd.stance⟩
    obtain ⟨s, -, -, hover⟩ := hd.hovers
    rw [state, hover]
    decide
  | _ => trivial

theorem window_of_spares (hd : r.Does c d) (hcoherent : (r.facing c).stance.Coherent)
    (hspares : d.SparesTap) :
    (r.performTimed c).next.context.window = (r.facing c).context.window := by
  have hwindow := congrArg Stance.window hd.stance
  refine hwindow.trans ?_
  have hfits := hd.fits
  split at hfits
  · exact hcoherent.window_apply rfl hfits hspares
  · rcases hfits with rfl | ⟨rfl, -⟩
    · rfl
    · exact hspares.elim

theorem eq_beginDrag (hd : r.Does c d) (hc : r.BeginsDrag c) : ∃ p, d = .beginDrag p := by
  obtain ⟨hbefore, hafter⟩ := hc
  have hstate : (r.performTimed c).next.state = (d.apply (r.facing c).stance).state :=
    congrArg Stance.state hd.stance
  rw [hstate] at hafter
  have hfits := hd.fits
  split at hfits
  · exact Deed.eq_beginDrag hfits hbefore hafter
  · rcases hfits with rfl | ⟨rfl, -⟩
    · exact absurd hafter hbefore
    · cases hafter

theorem window_of_beginsDrag (hd : r.Does c d) (hc : r.BeginsDrag c) :
    (r.performTimed c).next.context.window = .idle := by
  obtain ⟨p, rfl⟩ := hd.eq_beginDrag hc
  exact congrArg Stance.window hd.stance

end Does

/-! ## What is left of a tap -/

section

variable {r : Recognizer Queue} {c : TimedCall} {u time : Time} {s : Sample}

theorem next_of_sample (hb : r.handlers = .standard) (hs : s ∈ c.sample?) :
    (r.performTimed c).next.context = ((r.facing c).turn.route .standard s).2.context := by
  have hf : (r.facing c).handlers = .standard := (r.handlers_facing c).trans hb
  rw [(r.performTimed_of_sample hs).1, handle_of_standard hf]
  rfl

theorem lastTapTime_of_accepts (hb : r.handlers = .standard) (ht : c.IsTimed) (h : r.Accepts c)
    (hu : c.time? = some u) : (r.performTimed c).next.context.lastTapTime = u := by
  obtain ⟨s, hs, htaps⟩ := h
  rw [next_of_sample hb hs, Turn.lastTapTime_of_taps htaps]
  rw [ht.eq_handleAt hs] at hu
  exact Option.some.inj hu

theorem lastTapTime_of_unspent (hb : r.handlers = .standard) (ht : c.IsTimed) (h : ¬r.Spends c) :
    (r.performTimed c).next.context.lastTapTime = r.context.lastTapTime := by
  simp only [Spends, not_or] at h
  obtain ⟨haccepts, hdrops, -⟩ := h
  rw [← r.lastTapTime_facing c]
  cases hc : c.sample? with
  | none =>
    cases c with
    | plain call => cases ht
    | handleAt s => cases hc
    | advanceTo time => rfl
  | some s =>
    have hs : s ∈ c.sample? := hc
    rw [next_of_sample hb hs]
    exact Turn.lastTapTime_route (fun htaps => haccepts ⟨s, hs, htaps⟩)
      (fun hcancel => hdrops (.inr ⟨s, hs, hcancel⟩))

/-- A callback that is pending stays so, with its slot armed, until the time of a call is its
deadline; then the slot is empty when the call faces its sample. -/
theorem Tracked.waits_or_lapsed (hr : r.Tracked) {e : Callback} (he : e ∈ r.timers.pending)
    (ht : c.time? = some time) :
    (time < e.deadline ∧ e ∈ (r.facing c).timers.pending ∧
        (r.facing c).context.slots.isArmed e.slot = true) ∨
      (e.deadline ≤ time ∧ (r.facing c).context.slots.isArmed e.slot = false) := by
  by_cases hdue : e.deadline ≤ time
  · exact .inr ⟨hdue, hr.isArmed_facing_of_lapses he ((TimedCall.lapses_iff ht).2 hdue)⟩
  · have hpending : e ∈ (r.facing c).timers.pending := by
      refine mem_pending_facing.2 ⟨he, ?_⟩
      rwa [TimedCall.lapses_iff ht]
    exact .inl ⟨UInt64.not_le.1 hdue, hpending,
      Slots.isArmed_of_get? ((hr.facing c).agree.live hpending)⟩

/-- The window is open until `u + 160`, and the callback that closes it is pending. -/
structure OpenFor (r : Recognizer Queue) (u : Time) : Prop where
  armed : r.context.window = .armed (u.plus 160)
  expiry : ∃ ticket, ⟨.doubleTapExpiry, ticket, u.plus 160⟩ ∈ r.timers.pending

/-- What is left of a tap that was accepted at `u`: its time, and its window until that is over. -/
structure Remembers (r : Recognizer Queue) (u : Time) : Prop where
  time : r.context.lastTapTime = u
  window : r.OpenFor u ∨ (r.context.window = .idle ∧ u.plus 160 ≤ r.timers.now)

theorem OpenFor.of_accepts {rest : List TimedCall} (h : r.Ready (c :: rest)) (ha : r.Accepts c)
    (ht : c.IsTimed) (hu : c.time? = some u) (hle : r.timers.now ≤ u) :
    (r.performTimed c).next.OpenFor u := by
  obtain ⟨ticket, hw⟩ := Waiting.of_accepts h ha
  rw [now_facing hu hle] at hw
  obtain ⟨later, hlater, -⟩ := hw.window
  refine ⟨?_, later, hlater⟩
  obtain ⟨s, hs, htaps⟩ := ha
  obtain rfl := ht.eq_handleAt hs
  have hdelay : Slot.doubleTapExpiry.delayMillis = 160 := by decide
  have hdoes := Does.of_turn h.tracked.standard hs (Turn.route_of_taps htaps)
  have hwindow := congrArg Stance.window hdoes.stance
  rw [hdelay, Option.some.inj hu] at hwindow
  exact hwindow

/-- A call that advances to the end of the window finds it closed, and open before that. -/
theorem OpenFor.facing (h : r.OpenFor u) (hr : r.Tracked) (ht : c.time? = some time) :
    (time < u.plus 160 ∧ (r.facing c).OpenFor u) ∨
      (u.plus 160 ≤ time ∧ (r.facing c).context.window = .idle) := by
  obtain ⟨ticket, hexpiry⟩ := h.expiry
  have hcoherent : (r.facing c).context.window.isArmed =
      (r.facing c).context.slots.isArmed .doubleTapExpiry := (hr.facing c).coherent.window
  rcases hr.waits_or_lapsed hexpiry ht with ⟨hlt, hpending, hopen⟩ | ⟨hle, hgone⟩
  · refine .inl ⟨hlt, ?_, ticket, hpending⟩
    rcases r.window_facing c with hsame | hidle
    · exact hsame.trans h.armed
    · rw [← hcoherent, hidle] at hopen
      cases hopen
  · refine .inr ⟨hle, ?_⟩
    rcases r.window_facing c with hsame | hidle
    · rw [← hcoherent, hsame, h.armed] at hgone
      cases hgone
    · exact hidle

theorem Remembers.facing (h : r.Remembers u) (hr : r.Tracked) (ht : c.time? = some time)
    (hle : r.timers.now ≤ time) :
    (r.facing c).Remembers u ∧ ((r.facing c).OpenFor u → time < u.plus 160) := by
  have hnow : (r.facing c).timers.now = time := now_facing ht hle
  have htime : (r.facing c).context.lastTapTime = u := (r.lastTapTime_facing c).trans h.time
  rcases h.window with hopen | ⟨hidle, hpast⟩
  · rcases hopen.facing hr ht with ⟨hlt, hfacing⟩ | ⟨hpast, hfacing⟩
    · exact ⟨⟨htime, .inl hfacing⟩, fun _ => hlt⟩
    · refine ⟨⟨htime, .inr ⟨hfacing, hnow.symm ▸ hpast⟩⟩, fun hopen => ?_⟩
      rw [hopen.armed] at hfacing
      cases hfacing
  · have hfacing : (r.facing c).context.window = .idle := by
      rcases r.window_facing c with hsame | hclosed
      · exact hsame.trans hidle
      · exact hclosed
    refine ⟨⟨htime, .inr ⟨hfacing, ?_⟩⟩, fun hopen => ?_⟩
    · rw [hnow]
      exact UInt64.le_trans hpast hle
    · rw [hopen.armed] at hfacing
      cases hfacing

/-- A call that does not end the tap changes nothing but the time. -/
theorem Remembers.call (h : r.Remembers u) (hr : r.Tracked) (hc : c.IsTimed)
    (ht : c.time? = some time) (hle : r.timers.now ≤ time) (hspent : ¬r.Spends c) :
    (r.performTimed c).next.Remembers u ∧
      ((r.performTimed c).next.OpenFor u → (r.performTimed c).next.timers.now < u.plus 160) := by
  obtain ⟨hfacing, hlt⟩ := h.facing hr ht hle
  obtain ⟨d, hd⟩ := performTimed_does hr.standard hc.isDriven
  have hspares := hd.sparesTap_of_unspent hspent
  have hwindow := hd.window_of_spares (hr.facing c).coherent hspares
  have hnow : (r.performTimed c).next.timers.now = time := hd.now.trans (now_facing ht hle)
  have htime : (r.performTimed c).next.context.lastTapTime = u :=
    (lastTapTime_of_unspent hr.standard hc hspent).trans h.time
  rcases hfacing.window with hopen | ⟨hidle, hpast⟩
  · obtain ⟨ticket, hexpiry⟩ := hopen.expiry
    have hpending : ⟨.doubleTapExpiry, ticket, u.plus 160⟩ ∈
        (r.performTimed c).next.timers.pending := by
      rw [hd.timers]
      exact Deed.mem_pending_apply (hr.facing c).agree hspares hexpiry (.inr rfl)
    refine ⟨⟨htime, .inl ⟨hwindow.trans hopen.armed, ticket, hpending⟩⟩, fun _ => ?_⟩
    rw [hnow]
    exact hlt hopen
  · rw [now_facing ht hle] at hpast
    refine ⟨⟨htime, .inr ⟨hwindow.trans hidle, by rwa [hnow]⟩⟩, fun hopen => ?_⟩
    have harmed := hopen.armed
    rw [hwindow, hidle] at harmed
    cases harmed

/-- After a call the window is open for the tap that the call accepted, or as it was before. -/
theorem accepts_or_open (hr : r.Tracked) (driven : c.IsDriven)
    (hopen : (r.performTimed c).next.context.window.isArmed = true) :
    r.Accepts c ∨ (¬r.Spends c ∧ r.context.window.isArmed = true) := by
  by_cases haccepts : r.Accepts c
  · exact .inl haccepts
  right
  obtain ⟨d, hd⟩ := performTimed_does hr.standard driven
  have hspent : ¬r.Spends c := by
    rintro (haccepted | hdrops | hbegins)
    · exact haccepts haccepted
    · have hclosed : (r.performTimed c).next.context.window = .idle :=
        congrArg Stance.window (Does.of_drops (r := r) hdrops).stance
      rw [hclosed] at hopen
      cases hopen
    · rw [hd.window_of_beginsDrag hbegins] at hopen
      cases hopen
  refine ⟨hspent, ?_⟩
  rw [hd.window_of_spares (hr.facing c).coherent (hd.sparesTap_of_unspent hspent)] at hopen
  rcases r.window_facing c with hsame | hidle
  · rwa [hsame] at hopen
  · rw [hidle] at hopen
    cases hopen

/-- A hovering finger that moves begins a drag if the window is open, and is followed otherwise. -/
theorem sent_of_hovers (hb : r.handlers = .standard) (hs : s ∈ c.sample?)
    (h : (r.facing c).context.Hovers s) :
    (r.performTimed c).sent = r.lapse c ++
      if (r.facing c).context.window.isArmed then [.press .left, .move s.position true]
      else [.move s.position false] := by
  split
  · rename_i hopen
    exact (Does.of_turn hb hs (Turn.route_of_hovers h hopen)).sent
  · rename_i hclosed
    exact (Does.of_turn hb hs (Turn.route_of_hovers_closed h (Bool.eq_false_iff.2 hclosed))).sent

end

/-! ## Runs -/

/-- Of all the taps of a run, the window is for the one that counts. A tap that was accepted at the
largest time finds its window open until the next call, which brings the clock to where it stands. -/
structure Knows (r : Recognizer Queue) (calls : List TimedCall) : Prop where
  remembers : ∀ u later, LastTap r calls u later → (after performTimed r calls).Remembers u
  open_iff : ∀ u later, LastTap r calls u later → ((after performTimed r calls).OpenFor u ↔
    (after performTimed r calls).timers.now < u.plus 160 ∨ (u.toNat = 2 ^ 64 - 1 ∧ later = []))
  tapped : (after performTimed r calls).context.window.isArmed = true →
    ∃ u later, LastTap r calls u later

namespace Knows

variable {r : Recognizer Queue} {calls later : List TimedCall} {c : TimedCall} {u time : Time}

theorem start (config : Config) (time : Time) : Knows (new config (Queue.startingAt time)) [] := by
  have hnone (u : Time) (later : List TimedCall) :
      ¬LastTap (new config (Queue.startingAt time)) [] u later := by
    rintro ⟨before, tap, hsplit, -⟩
    exact absurd hsplit.symm (by simp)
  refine ⟨fun u later h => ?_, fun u later h => ?_, nofun⟩
  all_goals exact absurd h (hnone u later)

/-- The last call accepts the tap. -/
theorem remembers_of_accepts (hr : (after performTimed r calls).Ready [c])
    (haccepts : (after performTimed r calls).Accepts c) (hu : c.time? = some u)
    (hle : (after performTimed r calls).timers.now ≤ u) :
    let q := after performTimed r (calls ++ [c])
    q.Remembers u ∧ (q.OpenFor u ↔ q.timers.now < u.plus 160 ∨ u.toNat = 2 ^ 64 - 1) := by
  intro q
  have hq : q = ((after performTimed r calls).performTimed c).next := after_append _ _ _ _
  have ht : c.IsTimed := by
    rw [TimedCall.IsTimed, hu]
    rfl
  obtain ⟨d, hd⟩ := hr.does
  have hnow : q.timers.now = u := by
    rw [hq]
    exact hd.now.trans (now_facing hu hle)
  have hopen : q.OpenFor u := by
    rw [hq]
    exact OpenFor.of_accepts hr haccepts ht hu hle
  have htime : q.context.lastTapTime = u := by
    rw [hq]
    exact lastTapTime_of_accepts hr.tracked.standard ht haccepts hu
  refine ⟨⟨htime, .inl hopen⟩, fun _ => ?_, fun _ => hopen⟩
  have hmax := u.toNat_lt
  rw [hnow, UInt64.lt_iff_toNat_lt, Time.toNat_plus]
  show u.toNat < min (u.toNat + 160) _ ∨ _
  omega

/-- The last call leaves the tap as it was. -/
theorem remembers_of_unspent (h : Knows r calls) (hr : (after performTimed r calls).Tracked)
    (hlast : LastTap r calls u later) (hspent : ¬(after performTimed r calls).Spends c)
    (ht : c.IsTimed)
    (hforward : ∀ time ∈ c.time?, (after performTimed r calls).timers.now ≤ time) :
    let q := after performTimed r (calls ++ [c])
    q.Remembers u ∧ (q.OpenFor u ↔ q.timers.now < u.plus 160) := by
  intro q
  have hq : q = ((after performTimed r calls).performTimed c).next := after_append _ _ _ _
  obtain ⟨time, htime⟩ := Option.isSome_iff_exists.1 ht
  obtain ⟨hremembers, hlt⟩ :=
    (h.remembers u later hlast).call hr ht htime (hforward time htime) hspent
  rw [← hq] at hremembers hlt
  refine ⟨hremembers, hlt, fun hbefore => ?_⟩
  rcases hremembers.window with hopen | ⟨-, hpast⟩
  · exact hopen
  · exact absurd hbefore (UInt64.not_lt.2 hpast)

/-- One call more: the last call accepted the tap that counts, or left it as it was. -/
theorem append (h : Knows r calls) (hr : (after performTimed r calls).Ready [c])
    (hc : c.IsTimed ∨ c = .plain .reset)
    (hforward : ∀ time ∈ c.time?, (after performTimed r calls).timers.now ≤ time) :
    Knows r (calls ++ [c]) := by
  have htimed (hspent : ¬(after performTimed r calls).Spends c) : c.IsTimed := by
    rcases hc with ht | rfl
    · exact ht
    · exact absurd (.inr (.inl (.inl rfl))) hspent
  refine ⟨fun u later hlast => ?_, fun u later hlast => ?_, fun hopen => ?_⟩
  · rcases hlast.cases_append with ⟨rfl, haccepts, hu⟩ | ⟨rest, rfl, hold, hspent⟩
    · exact (remembers_of_accepts hr haccepts hu (hforward u hu)).1
    · exact (h.remembers_of_unspent hr.tracked hold hspent (htimed hspent) hforward).1
  · rcases hlast.cases_append with ⟨rfl, haccepts, hu⟩ | ⟨rest, rfl, hold, hspent⟩
    · rw [(remembers_of_accepts hr haccepts hu (hforward u hu)).2]
      simp only [and_true]
    · rw [(h.remembers_of_unspent hr.tracked hold hspent (htimed hspent) hforward).2]
      simp
  · rw [after_append] at hopen
    rcases accepts_or_open hr.tracked (hr.driven c List.mem_cons_self) hopen with
      haccepts | ⟨hspent, hold⟩
    · rcases hc with ht | rfl
      · exact ⟨_, [], lastTap_of_accepts haccepts (Option.some_get ht).symm⟩
      · obtain ⟨s, hs, -⟩ := haccepts
        cases hs
    · obtain ⟨u, later, hlast⟩ := h.tapped hold
      exact ⟨u, later ++ [c], hlast.extend hspent⟩

theorem run (hr : r.Ready calls) (hstart : Knows r [])
    (timed : ∀ c ∈ calls, c.IsTimed ∨ c = .plain .reset) (forward : Forward r calls) :
    Knows r calls := by
  induction calls using List.reverseRecOn with
  | nil => exact hstart
  | append_singleton calls c ih =>
    obtain ⟨hbefore, hlast, -⟩ := forward_append.1 forward
    have hknows := ih hr.of_append (fun d hd => timed d (List.mem_append_left _ hd)) hbefore
    exact hknows.append hr.run (timed c (by simp)) hlast

theorem openFor (h : Knows r calls)
    (hopen : (after performTimed r calls).context.window.isArmed = true) :
    ∃ u later, LastTap r calls u later ∧ (after performTimed r calls).OpenFor u := by
  obtain ⟨u, later, hlast⟩ := h.tapped hopen
  refine ⟨u, later, hlast, ?_⟩
  rcases (h.remembers u later hlast).window with hopen' | ⟨hidle, -⟩
  · exact hopen'
  · rw [hidle] at hopen
    cases hopen

theorem isArmed_iff (h : Knows r calls) :
    (after performTimed r calls).context.window.isArmed = true ↔
      ∃ u later, LastTap r calls u later ∧
        ((after performTimed r calls).timers.now < u.plus 160 ∨
          (u.toNat = 2 ^ 64 - 1 ∧ later = [])) := by
  constructor
  · intro hopen
    obtain ⟨u, later, hlast, hopen⟩ := h.openFor hopen
    exact ⟨u, later, hlast, (h.open_iff u later hlast).1 hopen⟩
  · rintro ⟨u, later, hlast, hbefore⟩
    rw [((h.open_iff u later hlast).2 hbefore).armed]
    rfl

/-- When a call faces its sample, the window is open until the time it says, saturated or not. -/
theorem isArmed_facing_iff (h : Knows r calls) (hr : (after performTimed r calls).Tracked)
    (ht : c.time? = some time) (hle : (after performTimed r calls).timers.now ≤ time) :
    ((after performTimed r calls).facing c).context.window.isArmed = true ↔
      ∃ u later, LastTap r calls u later ∧ time < u.plus 160 := by
  constructor
  · intro hopen
    rcases (after performTimed r calls).window_facing c with hsame | hidle
    · rw [hsame] at hopen
      obtain ⟨u, later, hlast, hopen'⟩ := h.openFor hopen
      rcases hopen'.facing hr ht with ⟨hlt, -⟩ | ⟨-, hidle⟩
      · exact ⟨u, later, hlast, hlt⟩
      · rw [← hsame, hidle] at hopen
        cases hopen
    · rw [hidle] at hopen
      cases hopen
  · rintro ⟨u, later, hlast, hlt⟩
    rcases (h.remembers u later hlast).window with hopen | ⟨-, hpast⟩
    · rcases hopen.facing hr ht with ⟨-, hfacing⟩ | ⟨hpast, -⟩
      · rw [hfacing.armed]
        rfl
      · exact absurd hlt (UInt64.not_lt.2 hpast)
    · exact absurd hlt (UInt64.not_lt.2 (UInt64.le_trans hpast hle))

end Knows

/-- **The window is open until the time it says.** Whatever samples, jumps of the clock and resets
come, as long as no time is before the clock. Between two calls the window is open exactly if a tap
counts, that is, if it was accepted and since then no tap was, the gesture was not dropped and no
drag began, and the clock is before the end of its window; a tap at the largest time has its window
open until the next call. The end of the window is 160 milliseconds after the tap, as the context
remembers the tap, and one callback is pending that closes it then. So a hovering finger that moves
begins a drag exactly before that end, and is followed from then on. Fewer than `2 ^ 64` callbacks
are scheduled, so that no ticket is handed out twice. -/
theorem window_open_until (config : Config) (start : Time) (calls : List TimedCall)
    (timed : ∀ c ∈ calls, c.IsTimed ∨ c = .plain .reset)
    (forward : Forward (new config (Queue.startingAt start)) calls)
    (room : schedulings (new config (Queue.startingAt start)) calls < 2 ^ 64) :
    let begin := new config (Queue.startingAt start)
    let r := after performTimed begin calls
    (r.context.window.isArmed = true ↔ ∃ u later, LastTap begin calls u later ∧
      (r.timers.now < u.plus 160 ∨ (u.toNat = 2 ^ 64 - 1 ∧ later = []))) ∧
    (∀ u later, LastTap begin calls u later → r.context.lastTapTime = u) ∧
    (∀ deadline, r.context.window = .armed deadline →
      deadline = r.context.lastTapTime.plus 160 ∧
      ∃ ticket, ∀ e, e ∈ r.timers.pending ∧ e.slot = .doubleTapExpiry ↔
        e = ⟨.doubleTapExpiry, ticket, deadline⟩) ∧
    ∀ s, s.action = .hoverMove → r.timers.now ≤ s.time →
      (r.facing (.handleAt s)).state = .hoverTracking →
        .press .left ∉ r.lapse (.handleAt s) ∧
        ((∃ u later, LastTap begin calls u later ∧ s.time < u.plus 160) →
          (r.performTimed (.handleAt s)).sent =
            r.lapse (.handleAt s) ++ [.press .left, .move s.position true]) ∧
        ((¬∃ u later, LastTap begin calls u later ∧ s.time < u.plus 160) →
          (r.performTimed (.handleAt s)).sent =
            r.lapse (.handleAt s) ++ [.move s.position false]) := by
  intro begin r
  have hdriven : ∀ c ∈ calls, c.IsDriven := by
    intro c hc
    rcases timed c hc with ht | rfl
    · exact ht.isDriven
    · trivial
  have hready : begin.Ready calls := Ready.start hdriven room
  have hknows : Knows begin calls := Knows.run hready (Knows.start config start) timed forward
  rw [← List.append_nil calls] at hready
  have hr : r.Tracked := hready.run.tracked
  refine ⟨hknows.isArmed_iff, fun u later hlast => (hknows.remembers u later hlast).time, ?_, ?_⟩
  · intro deadline harmed
    obtain ⟨u, later, hlast, hopen⟩ := hknows.openFor (by rw [harmed]; rfl)
    have htime := (hknows.remembers u later hlast).time
    obtain ⟨ticket, hexpiry⟩ := hopen.expiry
    obtain rfl : u.plus 160 = deadline := Window.armed.inj (hopen.armed.symm.trans harmed)
    refine ⟨by rw [htime], ticket, fun e => ⟨fun ⟨he, hslot⟩ => ?_, ?_⟩⟩
    · exact hr.agree.eq_of_slot he hexpiry hslot
    · rintro rfl
      exact ⟨hexpiry, rfl⟩
  · intro s ha hle hs
    have harmed := hknows.isArmed_facing_iff hr (c := .handleAt s) rfl hle
    have hsent := sent_of_hovers hr.standard (c := .handleAt s) rfl ⟨ha, hs⟩
    refine ⟨r.press_not_mem_lapse _, fun htap => ?_, fun htap => ?_⟩
    · rw [hsent, if_pos (harmed.2 htap)]
    · rw [hsent, if_neg fun hopen => htap (harmed.1 hopen)]

/-- A tap at 140: its window is open until 300, also after its click at 290. -/
theorem window_open_until_tapping :
    let hover (time : Time) := Sample.single .hoverMove ⟨12, 10⟩ time
    let calls := TimedCall.tapping ⟨10, 10⟩ 100 140 ++
      [.handleAt (.single .hoverEnter ⟨10, 10⟩ 200)]
    let r := after performTimed (new {} (Queue.startingAt 0)) calls
    r.context.lastTapTime = 140 ∧
      (r.performTimed (.handleAt (hover 299))).sent =
        [.click .left, .press .left, .move ⟨12, 10⟩ true] ∧
      (r.performTimed (.handleAt (hover 300))).sent = [.click .left, .move ⟨12, 10⟩ false] := by
  intro hover calls r
  obtain ⟨-, htime, -, hhover⟩ :=
    window_open_until {} 0 calls (by decide) (by decide +kernel) (by decide +kernel)
  have hlast : LastTap (new {} (Queue.startingAt 0)) calls 140
      [.handleAt (.single .hoverEnter ⟨10, 10⟩ 200)] :=
    ⟨[.handleAt (.single .down ⟨10, 10⟩ 100)], .handleAt (.single .up ⟨10, 10⟩ 140), rfl,
      by decide +kernel, rfl, by decide +kernel, trivial⟩
  have hlapse (time : Time) (h : time = 299 ∨ time = 300) :
      r.lapse (.handleAt (hover time)) = [.click .left] := by
    rcases h with rfl | rfl <;> decide +kernel
  obtain ⟨-, hopen, -⟩ := hhover (hover 299) rfl (by decide +kernel) (by decide +kernel)
  obtain ⟨-, -, hclosed⟩ := hhover (hover 300) rfl (by decide +kernel) (by decide +kernel)
  refine ⟨htime 140 _ hlast, ?_, ?_⟩
  · rw [hopen ⟨140, _, hlast, by decide⟩, hlapse 299 (.inl rfl)]
    rfl
  · rw [hclosed, hlapse 300 (.inr rfl)]
    · rfl
    · -- The only tap that counts is the one at 140.
      rintro ⟨u, later, hother, hlt⟩
      obtain rfl : 140 = u := (htime 140 _ hlast).symm.trans (htime u later hother)
      exact absurd hlt (by decide)

end Recognizer

end Trackpad
