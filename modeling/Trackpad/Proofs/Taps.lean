import Trackpad.Proofs.Waiting

/-!
# Taps — every tap is decided once

A tap that was accepted is decided by the first call that advances to its deadline, moves a finger
that hovers, accepts another tap, or drops the gesture (`Recognizer.Decides`). Until then nothing
clicks. The deadline sends one left click before the call takes its sample, in whatever state; the
others send none. Afterwards the ticket of the tap is spent (`tap_decided_once`).
-/

namespace Trackpad

namespace Recognizer

/-- The call decides a tap whose click is due at `due`. -/
def Decides (r : Recognizer Queue) (due : Time) (c : TimedCall) : Prop :=
  c.Lapses due ∨ r.Hovers c ∨ r.Accepts c ∨ c.Drops

instance (r : Recognizer Queue) (due : Time) (c : TimedCall) : Decidable (r.Decides due c) :=
  inferInstanceAs (Decidable (_ ∨ _ ∨ _ ∨ _))

/-- No call of the run decides the tap. -/
def Undecided (due : Time) : Recognizer Queue → List TimedCall → Prop
  | _, [] => True
  | r, c :: rest => ¬r.Decides due c ∧ Undecided due (r.performTimed c).next rest

/-- How a call decides the tap of a ticket, and what its click does in the rest of the run. -/
structure Decision (r : Recognizer Queue) (due : Time) (ticket : Ticket) (c : TimedCall)
    (rest : List TimedCall) : Prop where
  /-- The deadline sends one left click, before the sample, and it belongs to the tap. -/
  lapse : c.Lapses due →
    (r.lapse c).count (.click .left) = 1 ∧ (r.performTimed c).sent.count (.click .left) = 1 ∧
      r.clickers c = [ticket] ∧ ticket ∉ clickersIn (r.performTimed c).next rest
  /-- Before the deadline, a finger that hovers and moves begins a drag. -/
  hover : ¬c.Lapses due → r.Hovers c →
    (r.performTimed c).next.state = .dragActive ∧ .press .left ∈ (r.performTimed c).sent ∧
      .click .left ∉ (r.performTimed c).sent ∧ ticket ∉ clickersIn r (c :: rest)
  /-- Before the deadline, another tap or a drop of the gesture ends the wait. -/
  other : ¬c.Lapses due → r.Accepts c ∨ c.Drops →
    .click .left ∉ (r.performTimed c).sent ∧ ticket ∉ clickersIn r (c :: rest)

theorem Does.sparesTap {r : Recognizer Queue} {c : TimedCall} {d : Deed} (hd : r.Does c d)
    (hhovers : ¬r.Hovers c) (haccepts : ¬r.Accepts c) (hdrops : ¬c.Drops) : d.SparesTap := by
  cases d with
  | acceptTap _ => exact haccepts hd.accepts
  | beginDrag _ => exact hhovers hd.hovers
  | drop => exact hdrops hd.drops
  | _ => trivial

end Recognizer

namespace Waiting

open Recognizer

variable {r : Recognizer Queue} {ticket : Ticket} {due expiry : Time}

/-- As long as nothing decides the tap, nothing clicks and the tap waits. -/
theorem run {calls : List TimedCall} (hw : Waiting r.timers ticket due expiry) (h : r.Ready calls)
    (undecided : Undecided due r calls) :
    clickersIn r calls = [] ∧
      Waiting (after performTimed r calls).timers ticket due expiry := by
  induction calls generalizing r with
  | nil => exact ⟨rfl, hw⟩
  | cons c rest ih =>
    obtain ⟨hno, hrest⟩ := undecided
    simp only [Decides, not_or] at hno
    obtain ⟨hlapses, hhovers, haccepts, hdrops⟩ := hno
    obtain ⟨d, hd⟩ := h.does
    have hnext := hw.call h.tracked hlapses hd (hd.sparesTap hhovers haccepts hdrops)
    obtain ⟨hclickers, hlast⟩ := ih hnext h.next hrest
    refine ⟨?_, hlast⟩
    rw [clickersIn, hclickers, hw.clickers_eq h.tracked.toSound, if_neg hlapses]
    rfl

variable {c : TimedCall} {rest : List TimedCall}

/-- Before its deadline, a tap is over by each of the three deeds that do not spare it. -/
theorem spent_of_not_spares (hw : Waiting r.timers ticket due expiry) (h : r.Ready (c :: rest))
    {d : Deed} (hd : r.Does c d) (hspares : ¬d.SparesTap) :
    (r.performTimed c).next.IsSpent ticket := by
  have hissued : ticket.raw.toNat < r.timers.nextId.toNat := h.tracked.agree.issued _ hw.click
  have hroom := h.room_call
  rw [hd.schedulingsOf_eq] at hroom
  refine ⟨?_, ?_⟩
  · rw [hd.nextId, UInt64.toNat_add, UInt64.toNat_ofNat']
    omega
  · rw [hd.slots]
    refine d.gone_apply hspares ?_
    show _ < (r.facing c).timers.nextId.toNat
    rwa [nextId_facing]

/-- Before its deadline, a tap that a deed does not spare never clicks. -/
theorem never_clicks (hw : Waiting r.timers ticket due expiry) (h : r.Ready (c :: rest))
    (hlapses : ¬c.Lapses due) {d : Deed} (hd : r.Does c d) (hspares : ¬d.SparesTap) :
    .click .left ∉ (r.performTimed c).sent ∧ ticket ∉ clickersIn r (c :: rest) := by
  have hclickers : r.clickers c = [] := by rw [hw.clickers_eq h.tracked.toSound, if_neg hlapses]
  refine ⟨?_, ?_⟩
  · rw [← List.count_eq_zero, count_sent h, hclickers]
    rfl
  · rw [clickersIn, hclickers]
    exact h.next.not_mem_clickersIn (hw.spent_of_not_spares h hd hspares)

theorem decision (hw : Waiting r.timers ticket due expiry) (h : r.Ready (c :: rest)) :
    r.Decision due ticket c rest where
  lapse := by
    intro hlapses
    have hclickers : r.clickers c = [ticket] := by
      rw [hw.clickers_eq h.tracked.toSound, if_pos hlapses]
    have hspent : (r.facing c).IsSpent ticket := by
      refine h.tracked.spent_facing (h.tracked.agree.issued _ hw.click) fun deadline hmem => ?_
      cases h.tracked.agree.eq_of_slot hmem hw.click rfl
      exact hlapses
    refine ⟨?_, ?_, hclickers, h.next.not_mem_clickersIn (h.spent_of_facing hspent)⟩
    · rw [count_lapse, hclickers]
      rfl
    · rw [count_sent h, hclickers]
      rfl
  hover := by
    intro hlapses hhovers
    have hopen := (hw.facing hlapses).isArmed (h.tracked.facing c).toSound
    obtain ⟨p, hd⟩ := Does.of_hovers h.tracked.standard hhovers hopen
    refine ⟨congrArg Stance.state hd.stance, ?_, hw.never_clicks h hlapses hd id⟩
    rw [hd.sent]
    simp [Deed.sends]
  other := by
    rintro hlapses (haccepts | hdrops)
    · obtain ⟨deadline, hd⟩ := Does.of_accepts h.tracked.standard haccepts
      exact hw.never_clicks h hlapses hd id
    · exact hw.never_clicks h hlapses (Does.of_drops hdrops) id

end Waiting

namespace Recognizer

theorem Ready.tap_decided {r : Recognizer Queue} {tap : TimedCall} {waiting later : List TimedCall}
    (h : r.Ready (tap :: (waiting ++ later))) (accepts : r.Accepts tap)
    (undecided : Undecided ((r.facing tap).timers.now.plus 150) (r.performTimed tap).next waiting) :
    ∃ ticket, (r.performTimed tap).next.context.slots.get? .delayedClick = some ticket ∧
      .click .left ∉ sentIn performTimed (r.performTimed tap).next waiting ∧
      ∀ c rest, later = c :: rest →
        (after performTimed (r.performTimed tap).next waiting).Decision
          ((r.facing tap).timers.now.plus 150) ticket c rest := by
  have htapped := h.next
  obtain ⟨ticket, hw⟩ := Waiting.of_accepts h accepts
  obtain ⟨hclickers, hlast⟩ := hw.run htapped.of_append undecided
  refine ⟨ticket, htapped.tracked.agree.live hw.click, ?_, ?_⟩
  · rw [← List.count_eq_zero, count_sentIn htapped.of_append, hclickers]
    rfl
  · rintro c rest rfl
    exact hlast.decision htapped.run

/-- **Every tap is decided once.** Whatever calls come before a tap that is accepted when the clock
stands at `T`, and whatever calls come after it: as long as none advances to `T + 150` (or the
largest time, if that is past it), moves a finger that hovers, accepts another tap or drops the
gesture, no left click is sent. The first call that does one of these decides the tap as `Decision`
says. The run schedules fewer than `2 ^ 64` callbacks, so that no ticket is handed out twice. -/
theorem tap_decided_once (config : Config) (start : Time) (before : List TimedCall)
    (tap : TimedCall) (waiting later : List TimedCall)
    (driven : ∀ c ∈ before ++ tap :: (waiting ++ later), c.IsDriven)
    (room : schedulings (new config (Queue.startingAt start))
      (before ++ tap :: (waiting ++ later)) < 2 ^ 64) :
    let r := after performTimed (new config (Queue.startingAt start)) before
    let tapped := (r.performTimed tap).next
    let due := (r.facing tap).timers.now.plus 150
    r.Accepts tap → Undecided due tapped waiting →
      ∃ ticket, tapped.context.slots.get? .delayedClick = some ticket ∧
        .click .left ∉ sentIn performTimed tapped waiting ∧
        ∀ c rest, later = c :: rest →
          (after performTimed tapped waiting).Decision due ticket c rest := by
  intro r tapped due accepts undecided
  exact (Ready.start driven room).run.tap_decided accepts undecided

theorem tap_decided_once_tapping :
    let down := TimedCall.handleAt (.single .down ⟨10, 10⟩ 0)
    let up := TimedCall.handleAt (.single .up ⟨10, 10⟩ 40)
    let tapped := ((after performTimed (new {} (Queue.startingAt 0)) [down]).performTimed up).next
    let waited := after performTimed tapped [.advanceTo 100]
    (waited.performTimed (.advanceTo 190)).sent.count (.click .left) = 1 := by
  intro down up tapped waited
  obtain ⟨ticket, -, -, hdecision⟩ := tap_decided_once {} 0 [down] up [.advanceTo 100]
    [.advanceTo 190] (by decide) (by decide +kernel) (by decide +kernel)
    ⟨by decide +kernel, trivial⟩
  exact ((hdecision _ _ rfl).lapse (by decide +kernel)).2.1

end Recognizer

end Trackpad
