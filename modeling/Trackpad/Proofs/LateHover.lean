import Trackpad.Proofs.Taps

/-!
# LateHover — a tap that clicks and then drags

A tap that is accepted at `T` clicks at `T + 150`, and its window closes at `T + 160`. The click
leaves the window open. So a finger that hovers and moves in between finds the window open and
begins a drag, for a tap that has clicked already (`LateHover`).

This is the only way in which one tap presses the button twice: in every other continuation it sends
at most one left click or press (`click_then_press_iff_lateHover`).
-/

namespace Trackpad

/-- The left clicks and presses among some commands. -/
def lefts (cs : List Command) : List Command :=
  cs.filter fun c => c = .click .left ∨ c = .press .left

theorem lefts_append (cs ds : List Command) : lefts (cs ++ ds) = lefts cs ++ lefts ds :=
  List.filter_append ..

/-- The left press that a deed sends. -/
def Deed.presses : Deed → List Command
  | beginDrag _ => [.press .left]
  | _ => []

theorem Deed.lefts_sends {d : Deed} {c : Context} {slop : Float} {s : Sample}
    (hf : d.Fits c slop s) : lefts d.sends = d.presses := by
  cases d with
  | wheel cmd | scrollTwo cmd =>
    have hwheel := hf.2
    cases cmd <;> first | rfl | exact hwheel.elim
  | liftTwo clicks => cases clicks <;> rfl
  | _ => rfl

/-! ## Taps that are over -/

/-- Neither the click of a tap nor the end of its window is live. -/
def Slots.IsOver (s : Slots) : Prop :=
  s.isArmed .delayedClick = false ∧ s.isArmed .doubleTapExpiry = false

namespace Deed

variable {σ : Type} [Scheduler σ] {v : Stance σ} {d : Deed}

theorem isOver_apply (h : v.slots.IsOver) (hd : ∀ deadline, d ≠ .acceptTap deadline) :
    (d.apply v).slots.IsOver := by
  obtain ⟨hclick, hwindow⟩ := h
  cases d with
  | acceptTap deadline => exact absurd rfl (hd deadline)
  | drop => exact ⟨rfl, rfl⟩
  | _ => exact ⟨by simp [apply, hclick], by simp [apply, hwindow]⟩

theorem isOver_beginDrag (v : Stance σ) (p : Point) : ((beginDrag p).apply v).slots.IsOver :=
  ⟨by simp [apply], by simp [apply]⟩

/-- A deed that spares a tap arms no click. -/
theorem isArmed_apply (hd : d.SparesTap) :
    (d.apply v).slots.isArmed .delayedClick = v.slots.isArmed .delayedClick := by
  cases d with
  | acceptTap _ | beginDrag _ | drop => exact hd.elim
  | _ => simp [apply]

theorem presses_of_spares (hd : d.SparesTap) : d.presses = [] := by
  cases d with
  | beginDrag _ => exact hd.elim
  | _ => rfl

end Deed

namespace Recognizer

/-! ## Left clicks and presses of calls and runs -/

theorem press_not_mem_onTimer (r : Recognizer Queue) (slot : Slot) (ticket : Ticket) :
    Command.press .left ∉ (r.onTimer slot ticket).sent := by
  by_cases hl : r.context.slots.get? slot = some ticket
  · rw [(onTimer_of_live hl).2]
    cases slot with
    | delayedClick | dragTimeout =>
      simp only [Stance.expirySends]
      split <;> simp
    | _ => simp [Stance.expirySends]
  · rw [(onTimer_of_stale hl).2]
    simp

theorem press_not_mem_lapse (r : Recognizer Queue) (c : TimedCall) :
    Command.press .left ∉ r.lapse c := by
  intro hmem
  obtain ⟨p, -, hsent⟩ := List.mem_flatMap.1 hmem
  exact p.2.press_not_mem_onTimer _ _ hsent

/-- Before its sample, a call sends the left clicks of its clickers and no left press. -/
theorem lefts_lapse (r : Recognizer Queue) (c : TimedCall) :
    lefts (r.lapse c) = List.replicate (r.clickers c).length (.click .left) := by
  rw [← count_lapse, ← List.filter_beq]
  refine List.filter_congr fun cmd hcmd => ?_
  have hne : cmd ≠ .press .left := fun he => r.press_not_mem_lapse c (he ▸ hcmd)
  rw [Bool.eq_iff_iff]
  simp [hne]

theorem Does.lefts_sent {r : Recognizer Queue} {c : TimedCall} {d : Deed} (h : r.Does c d) :
    lefts (r.performTimed c).sent =
      List.replicate (r.clickers c).length (.click .left) ++ d.presses := by
  have hsends : lefts d.sends = d.presses := by
    have hfits := h.fits
    split at hfits
    · exact d.lefts_sends hfits
    · rcases hfits with rfl | ⟨rfl, -⟩ <;> rfl
  rw [h.sent, lefts_append, lefts_lapse, hsends]

/-- The left clicks and presses of a run. -/
def leftsIn (r : Recognizer Queue) (calls : List TimedCall) : List Command :=
  lefts (sentIn performTimed r calls)

theorem leftsIn_cons (r : Recognizer Queue) (c : TimedCall) (rest : List TimedCall) :
    leftsIn r (c :: rest) =
      lefts (r.performTimed c).sent ++ leftsIn (r.performTimed c).next rest := by
  rw [leftsIn, sentIn_cons, lefts_append, leftsIn]

/-- No call of the run accepts a tap. -/
def Untapped : Recognizer Queue → List TimedCall → Prop
  | _, [] => True
  | r, c :: rest => ¬r.Accepts c ∧ Untapped (r.performTimed c).next rest

namespace Tracked

variable {r : Recognizer Queue} {c : TimedCall} {rest : List TimedCall}

/-- A slot is empty when the sample of a call comes, if whatever is pending for it is due. -/
theorem isArmed_facing_of_forall (h : r.Tracked) {slot : Slot}
    (hall : ∀ e ∈ r.timers.pending, e.slot = slot → c.Lapses e.deadline) :
    (r.facing c).context.slots.isArmed slot = false := by
  rw [Slots.isArmed_eq_false_iff]
  refine Option.eq_none_iff_forall_ne_some.2 fun ticket hl => ?_
  obtain ⟨deadline, hmem, hlapses⟩ := h.live_facing.1 hl
  exact hlapses (hall _ hmem rfl)

theorem isArmed_facing (h : r.Tracked) {slot : Slot}
    (hs : r.context.slots.isArmed slot = false) :
    (r.facing c).context.slots.isArmed slot = false := by
  refine h.isArmed_facing_of_forall fun e he hslot => ?_
  have hlive := h.agree.live he
  rw [hslot, Slots.isArmed_eq_false_iff.1 hs] at hlive
  cases hlive

/-- A callback that a call delivers is not live any more when its sample comes. -/
theorem isArmed_facing_of_lapses (h : r.Tracked) {e : Callback} (he : e ∈ r.timers.pending)
    (hlapses : c.Lapses e.deadline) : (r.facing c).context.slots.isArmed e.slot = false := by
  refine h.isArmed_facing_of_forall fun other hmem hslot => ?_
  rw [h.agree.eq_of_slot hmem he hslot]
  exact hlapses

theorem clickers_eq_nil (h : r.Tracked)
    (hs : r.context.slots.isArmed .delayedClick = false) : r.clickers c = [] := by
  refine List.eq_nil_iff_forall_not_mem.2 fun ticket hmem => ?_
  obtain ⟨deadline, hp⟩ := pending_of_mem_clickers hmem
  have hlive := h.agree.live hp
  rw [Slots.isArmed_eq_false_iff.1 hs] at hlive
  cases hlive

/-- A call with a sample that finds the tap over presses nothing. -/
theorem presses_of_over (h : r.Tracked) (hover : (r.facing c).context.slots.IsOver) {d : Deed}
    (hd : r.Does c d) : d.presses = [] := by
  cases d with
  | beginDrag p =>
    obtain ⟨s, -, -, hopen⟩ := hd.exists_sample nofun nofun
    have hwindow : (r.facing c).context.window.isArmed =
        (r.facing c).context.slots.isArmed .doubleTapExpiry := (h.facing c).coherent.window
    rw [hwindow, hover.2] at hopen
    cases hopen
  | _ => rfl

end Tracked

namespace Ready

variable {r : Recognizer Queue} {c : TimedCall} {rest calls : List TimedCall}

/-- A call whose sample finds the tap over leaves it over. -/
theorem over_next (h : r.Ready (c :: rest)) (hover : (r.facing c).context.slots.IsOver)
    (haccepts : ¬r.Accepts c) :
    (r.performTimed c).next.context.slots.IsOver ∧
      lefts (r.performTimed c).sent = List.replicate (r.clickers c).length (.click .left) := by
  obtain ⟨d, hd⟩ := h.does
  have hnever : ∀ deadline, d ≠ .acceptTap deadline := by
    rintro deadline rfl
    exact haccepts hd.accepts
  refine ⟨?_, ?_⟩
  · rw [hd.slots]
    exact Deed.isOver_apply (v := (r.facing c).stance) hover hnever
  · rw [hd.lefts_sent, h.tracked.presses_of_over hover hd, List.append_nil]

/-- Once a tap is over, no left click and no left press comes without another. -/
theorem leftsIn_of_over (h : r.Ready calls) (hover : r.context.slots.IsOver)
    (untapped : Untapped r calls) : leftsIn r calls = [] := by
  induction calls generalizing r with
  | nil => rfl
  | cons c rest ih =>
    have hfacing : (r.facing c).context.slots.IsOver :=
      ⟨h.tracked.isArmed_facing hover.1, h.tracked.isArmed_facing hover.2⟩
    obtain ⟨hnext, hlefts⟩ := h.over_next hfacing untapped.1
    rw [leftsIn_cons, hlefts, h.tracked.clickers_eq_nil hover.1, ih h.next hnext untapped.2]
    rfl

end Ready

/-! ## Late hovers -/

/-- A finger that hovers moves before any call advances to `expiry`, and before any drop. -/
def HoversBefore (expiry : Time) : Recognizer Queue → List TimedCall → Prop
  | _, [] => False
  | r, c :: rest =>
    ¬c.Lapses expiry ∧
      (r.Hovers c ∨ (¬c.Drops ∧ HoversBefore expiry (r.performTimed c).next rest))

/-- From the first call on that advances to `due`, a finger that hovers moves before `expiry`; it
neither moved nor was the gesture dropped before that call. -/
def LateHover (due expiry : Time) : Recognizer Queue → List TimedCall → Prop
  | _, [] => False
  | r, c :: rest =>
    if c.Lapses due then HoversBefore expiry r (c :: rest)
    else ¬r.Hovers c ∧ ¬c.Drops ∧ LateHover due expiry (r.performTimed c).next rest

instance decideHoversBefore (expiry : Time) :
    ∀ r calls, Decidable (HoversBefore expiry r calls)
  | _, [] => isFalse id
  | r, c :: rest =>
    have := decideHoversBefore expiry (r.performTimed c).next rest
    inferInstanceAs (Decidable (_ ∧ (_ ∨ (_ ∧ _))))

instance decideLateHover (due expiry : Time) :
    ∀ r calls, Decidable (LateHover due expiry r calls)
  | _, [] => isFalse id
  | r, c :: rest =>
    have := decideLateHover due expiry (r.performTimed c).next rest
    inferInstanceAs (Decidable (if c.Lapses due then _ else _))

namespace Ready

variable {r : Recognizer Queue} {ticket : Ticket} {due expiry : Time} {c : TimedCall}
  {rest : List TimedCall}

/-- A drag that begins is the last that comes of a tap. -/
theorem lefts_of_hovers (h : r.Ready (c :: rest)) (hhovers : r.Hovers c)
    (hopen : (r.facing c).context.window.isArmed = true)
    (untapped : Untapped (r.performTimed c).next rest) :
    leftsIn r (c :: rest) =
      List.replicate (r.clickers c).length (.click .left) ++ [.press .left] := by
  obtain ⟨p, hd⟩ := Does.of_hovers h.tracked.standard hhovers hopen
  have hover : (r.performTimed c).next.context.slots.IsOver := by
    rw [hd.slots]
    exact Deed.isOver_beginDrag _ p
  rw [leftsIn_cons, h.next.leftsIn_of_over hover untapped, hd.lefts_sent, List.append_nil]
  rfl

/-- After a drop, nothing comes of a tap. -/
theorem lefts_of_drops (h : r.Ready (c :: rest)) (hdrops : c.Drops)
    (untapped : Untapped (r.performTimed c).next rest) :
    leftsIn r (c :: rest) = List.replicate (r.clickers c).length (.click .left) := by
  have hd := Does.of_drops (r := r) hdrops
  have hover : (r.performTimed c).next.context.slots.IsOver := by
    rw [hd.slots]
    exact ⟨rfl, rfl⟩
  rw [leftsIn_cons, h.next.leftsIn_of_over hover untapped, hd.lefts_sent, List.append_nil]
  exact List.append_nil _

/-- One call of a tap that has clicked when the sample comes, and whose window is not closed before
`expiry`. -/
theorem lefts_of_clicked_facing (h : r.Ready (c :: rest))
    (hpending : ⟨.doubleTapExpiry, ticket, expiry⟩ ∈ r.timers.pending)
    (hclick : (r.facing c).context.slots.isArmed .delayedClick = false)
    (untapped : Untapped r (c :: rest))
    (hrest : (r.performTimed c).next.Ready rest →
      ⟨.doubleTapExpiry, ticket, expiry⟩ ∈ (r.performTimed c).next.timers.pending →
      (r.performTimed c).next.context.slots.isArmed .delayedClick = false →
      leftsIn (r.performTimed c).next rest =
        if HoversBefore expiry (r.performTimed c).next rest then [.press .left] else []) :
    leftsIn r (c :: rest) = List.replicate (r.clickers c).length (.click .left) ++
      if HoversBefore expiry r (c :: rest) then [.press .left] else [] := by
  by_cases hexpiry : c.Lapses expiry
  · -- The window closes before the sample comes.
    have hover : (r.facing c).context.slots.IsOver :=
      ⟨hclick, h.tracked.isArmed_facing_of_lapses hpending hexpiry⟩
    obtain ⟨hnext, hlefts⟩ := h.over_next hover untapped.1
    rw [leftsIn_cons, hlefts, h.next.leftsIn_of_over hnext untapped.2,
      if_neg fun hlate : HoversBefore expiry r (c :: rest) => hlate.1 hexpiry]
  · -- The window is open when the sample comes, and the sample decides.
    have hfacing : ⟨.doubleTapExpiry, ticket, expiry⟩ ∈ (r.facing c).timers.pending :=
      mem_pending_facing.2 ⟨hpending, hexpiry⟩
    by_cases hhovers : r.Hovers c
    · have hopen := (h.tracked.facing c).isArmed_of_pending hfacing
      rw [h.lefts_of_hovers hhovers hopen untapped.2, if_pos ⟨hexpiry, .inl hhovers⟩]
    by_cases hdrops : c.Drops
    · rw [h.lefts_of_drops hdrops untapped.2, if_neg, List.append_nil]
      rintro ⟨-, hlate | ⟨hlate, -⟩⟩
      · exact hhovers hlate
      · exact hlate hdrops
    · obtain ⟨d, hd⟩ := h.does
      have hspares := hd.sparesTap hhovers untapped.1 hdrops
      have hpending' :
          ⟨.doubleTapExpiry, ticket, expiry⟩ ∈ (r.performTimed c).next.timers.pending := by
        rw [hd.timers]
        exact Deed.mem_pending_apply (h.tracked.facing c).agree hspares hfacing (.inr rfl)
      have hclick' : (r.performTimed c).next.context.slots.isArmed .delayedClick = false := by
        rw [hd.slots, Deed.isArmed_apply hspares]
        exact hclick
      rw [leftsIn_cons, hd.lefts_sent, Deed.presses_of_spares hspares, List.append_nil,
        hrest h.next hpending' hclick']
      simp only [HoversBefore, hexpiry, hhovers, hdrops, not_false_eq_true, true_and, false_or]

/-- What comes of a tap that has clicked and whose window is open until `expiry`. -/
theorem leftsIn_of_clicked {calls : List TimedCall} (h : r.Ready calls)
    (hpending : ⟨.doubleTapExpiry, ticket, expiry⟩ ∈ r.timers.pending)
    (hclick : r.context.slots.isArmed .delayedClick = false) (untapped : Untapped r calls) :
    leftsIn r calls = if HoversBefore expiry r calls then [.press .left] else [] := by
  induction calls generalizing r with
  | nil => rfl
  | cons c rest ih =>
    rw [h.lefts_of_clicked_facing hpending (h.tracked.isArmed_facing hclick) untapped
      (fun hready hmem hgone => ih hready hmem hgone untapped.2), h.tracked.clickers_eq_nil hclick]
    rfl

end Ready

end Recognizer

open Recognizer

/-- A tap that waits clicks and then presses, if a finger hovers late, and does at most one of the
two otherwise. -/
theorem Waiting.leftsIn_eq {r : Recognizer Queue} {ticket : Ticket} {due expiry : Time}
    {calls : List TimedCall} (hw : Waiting r.timers ticket due expiry) (h : r.Ready calls)
    (untapped : Untapped r calls) :
    (LateHover due expiry r calls → leftsIn r calls = [.click .left, .press .left]) ∧
      (¬LateHover due expiry r calls → (leftsIn r calls).length ≤ 1) := by
  induction calls generalizing r with
  | nil => exact ⟨False.elim, fun _ => Nat.zero_le 1⟩
  | cons c rest ih =>
    have hclickers := hw.clickers_eq h.tracked.toSound (c := c)
    by_cases hdue : c.Lapses due
    · -- The click goes out with this call, and the window may be open for a while.
      obtain ⟨later, hlater, -⟩ := hw.window
      have hclick := h.tracked.isArmed_facing_of_lapses hw.click hdue
      rw [if_pos hdue] at hclickers
      rw [h.lefts_of_clicked_facing hlater hclick untapped
        (fun hready hmem hgone => hready.leftsIn_of_clicked hmem hgone untapped.2), hclickers]
      simp only [LateHover, if_pos hdue]
      refine ⟨fun hlate => ?_, fun hlate => ?_⟩
      · rw [if_pos hlate]
        rfl
      · rw [if_neg hlate]
        exact Nat.le_refl 1
    · -- Nothing has gone out yet, and the sample decides whether the tap goes on waiting.
      rw [if_neg hdue] at hclickers
      simp only [LateHover, if_neg hdue]
      by_cases hhovers : r.Hovers c
      · have hopen := (hw.facing hdue).isArmed (h.tracked.facing c).toSound
        rw [h.lefts_of_hovers hhovers hopen untapped.2, hclickers]
        exact ⟨fun hlate => absurd hhovers hlate.1, fun _ => Nat.le_refl 1⟩
      by_cases hdrops : c.Drops
      · rw [h.lefts_of_drops hdrops untapped.2, hclickers]
        exact ⟨fun hlate => absurd hdrops hlate.2.1, fun _ => Nat.zero_le 1⟩
      · obtain ⟨d, hd⟩ := h.does
        have hspares := hd.sparesTap hhovers untapped.1 hdrops
        have hnext := hw.call h.tracked hdue hd hspares
        rw [leftsIn_cons, hd.lefts_sent, hclickers, Deed.presses_of_spares hspares]
        simp only [hhovers, hdrops, not_false_eq_true, true_and]
        exact ih hnext h.next untapped.2

namespace Recognizer

/-- **A tap that clicks and drags.** Let a tap be accepted when the clock stands at `T`, and let the
calls that follow accept no other. They send at most one left click or left press, unless a finger
that hovers moves late: after a call has advanced to `T + 150`, before one advances to `T + 160`,
and with no movement and no drop before it. Then they send exactly a left click and a left press, in
this order. The run schedules fewer than `2 ^ 64` callbacks. -/
theorem click_then_press_iff_lateHover (config : Config) (start : Time) (before : List TimedCall)
    (tap : TimedCall) (calls : List TimedCall)
    (driven : ∀ c ∈ before ++ tap :: calls, c.IsDriven)
    (room : schedulings (new config (Queue.startingAt start)) (before ++ tap :: calls) < 2 ^ 64) :
    let r := after performTimed (new config (Queue.startingAt start)) before
    let tapped := (r.performTimed tap).next
    let clock := (r.facing tap).timers.now
    r.Accepts tap → Untapped tapped calls →
      ((leftsIn tapped calls).length ≤ 1 ↔
        ¬LateHover (clock.plus 150) (clock.plus 160) tapped calls) ∧
      (LateHover (clock.plus 150) (clock.plus 160) tapped calls →
        leftsIn tapped calls = [.click .left, .press .left]) := by
  intro r tapped clock accepts untapped
  have hready : r.Ready (tap :: calls) := (Ready.start driven room).run
  obtain ⟨ticket, hw⟩ := Waiting.of_accepts hready accepts
  obtain ⟨hlate, hnot⟩ := hw.leftsIn_eq hready.next untapped
  refine ⟨⟨fun hone hl => ?_, hnot⟩, hlate⟩
  rw [hlate hl] at hone
  exact absurd hone (by decide)

theorem click_then_press_of_late_hover :
    let down := TimedCall.handleAt (.single .down ⟨10, 10⟩ 0)
    let up := TimedCall.handleAt (.single .up ⟨10, 10⟩ 40)
    let tapped := ((after performTimed (new {} (Queue.startingAt 0)) [down]).performTimed up).next
    leftsIn tapped [.handleAt (.single .hoverEnter ⟨10, 10⟩ 60),
      .handleAt (.single .hoverMove ⟨12, 10⟩ 195)] = [.click .left, .press .left] := by
  intro down up tapped
  have hall := click_then_press_iff_lateHover {} 0 [down] up
    [.handleAt (.single .hoverEnter ⟨10, 10⟩ 60), .handleAt (.single .hoverMove ⟨12, 10⟩ 195)]
    (by decide) (by decide +kernel) (by decide +kernel)
    ⟨by decide +kernel, by decide +kernel, trivial⟩
  exact hall.2 (by decide +kernel)

/-- Five milliseconds after its click, a tap begins a drag. -/
theorem one_tap_clicks_and_drags :
    sentIn performTimed (new {} (Queue.startingAt 0))
      [.handleAt (.single .down ⟨10, 10⟩ 0), .handleAt (.single .up ⟨10, 10⟩ 40),
        .handleAt (.single .hoverEnter ⟨10, 10⟩ 60), .handleAt (.single .hoverMove ⟨12, 10⟩ 195)] =
      [.click .left, .press .left, .move ⟨12, 10⟩ true] := by
  decide +kernel

end Recognizer

end Trackpad
