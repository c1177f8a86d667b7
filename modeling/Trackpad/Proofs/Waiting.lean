import Trackpad.Proofs.Clicks

/-!
# Waiting — a tap whose click is still to come

A tap that was accepted has two callbacks pending: its click, and the end of its window, which is
due no earlier and has the later ticket. `Waiting` says so of a queue. The deadlines may be equal,
where the clock saturates, so that the click comes out first rests on the order of the tickets.

While a tap waits its window is open and nothing is dragged, so its callback cannot drop the click:
the call that reaches the deadline sends it, once (`Waiting.clickers_eq`). Until then every deed
but three leaves the tap waiting (`Waiting.call`).
-/

namespace Trackpad

/-! ## What deeds leave pending -/

namespace Agree

variable {s : Slots} {q : Queue} {c : Callback} {slot : Slot}

theorem mem_pending_disarm (h : Agree s q) (hc : c ∈ q.pending) (hs : c.slot ≠ slot) :
    c ∈ (s.disarm slot q).2.pending := by
  unfold Slots.disarm
  split
  · rename_i ticket hl
    refine List.mem_filter.2 ⟨hc, ?_⟩
    rw [decide_eq_true_eq]
    rintro rfl
    obtain ⟨deadline, hd⟩ := (h.live_iff _ _).1 hl
    exact hs (congrArg Callback.slot (h.eq_of_ticket hc hd rfl))
  · exact hc

theorem mem_pending_arm (h : Agree s q) (hc : c ∈ q.pending) (hs : c.slot ≠ slot) :
    c ∈ (s.arm slot q).2.pending :=
  List.mem_append_left _ (h.mem_pending_disarm hc hs)

end Agree

theorem Slots.now_disarm (s : Slots) (slot : Slot) (q : Queue) :
    (s.disarm slot q).2.now = q.now := by
  unfold disarm
  split <;> rfl

/-- Arming leaves the new callback pending. -/
theorem Slots.armed_mem_pending (s : Slots) (slot : Slot) (q : Queue) :
    (⟨slot, ⟨q.nextId⟩, q.now.plus slot.delayMillis⟩ : Callback) ∈ (s.arm slot q).2.pending := by
  rw [← s.nextId_disarm slot q, ← s.now_disarm slot q]
  exact List.mem_append_right _ (List.mem_singleton.2 rfl)

/-- The deeds that leave a waiting tap alone. -/
def Deed.SparesTap : Deed → Prop
  | acceptTap _ | beginDrag _ | drop => False
  | _ => True

theorem Deed.mem_pending_apply {v : Stance Queue} (h : Agree v.slots v.timers) {d : Deed}
    (hd : d.SparesTap) {c : Callback} (hc : c ∈ v.timers.pending)
    (hs : c.slot = .delayedClick ∨ c.slot = .doubleTapExpiry) : c ∈ (d.apply v).timers.pending := by
  have htwo : c.slot ≠ .twoFingerTapExpiry := by rcases hs with hs | hs <;> rw [hs] <;> decide
  have hdrag : c.slot ≠ .dragTimeout := by rcases hs with hs | hs <;> rw [hs] <;> decide
  cases d with
  | acceptTap _ | beginDrag _ | drop => exact hd.elim
  | nothing | point _ | hold _ | wheel _ | enter _ | pressPad | releasePad => exact hc
  | touchTwo => exact h.mem_pending_arm hc htwo
  | liftTwo _ | scrollTwo _ => exact h.mem_pending_disarm hc htwo
  | keepDrag _ => exact h.mem_pending_arm hc hdrag
  | endDrag => exact h.mem_pending_disarm hc hdrag

/-- The other deeds leave no click pending by the ticket of a waiting tap. -/
theorem Deed.gone_apply {v : Stance Queue} {d : Deed} (hd : ¬d.SparesTap) {ticket : Ticket}
    (hissued : ticket.raw.toNat < v.timers.nextId.toNat) :
    (d.apply v).slots.get? .delayedClick ≠ some ticket := by
  cases d with
  | acceptTap deadline =>
    -- The slot holds the ticket of the new tap, which nobody had before.
    have hget :
        ((acceptTap deadline).apply v).slots.get? .delayedClick = some ⟨v.timers.nextId⟩ := by
      have hother : Slot.delayedClick ≠ .doubleTapExpiry := by decide
      rw [← v.slots.get?_arm_nextId .delayedClick v.timers]
      exact Slots.get?_arm_ne _ hother _
    rw [hget]
    rintro ⟨⟩
    exact Nat.lt_irrefl _ hissued
  | beginDrag p =>
    have hempty : ((beginDrag p).apply v).slots.isArmed .delayedClick = false := by
      simp [apply]
    rw [Slots.isArmed_eq_false_iff.1 hempty]
    exact (Option.some_ne_none ticket).symm
  | drop => exact (Option.some_ne_none ticket).symm
  | _ => exact absurd trivial hd

theorem TimedCall.Lapses.mono {c : TimedCall} {due later : Time} (h : c.Lapses later)
    (hle : due ≤ later) : c.Lapses due := by
  obtain ⟨time, htime, hdue⟩ := h
  exact ⟨time, htime, UInt64.le_trans hle hdue⟩

/-! ## Waiting taps -/

/-- While the end of the window is pending, the window is open. -/
theorem Recognizer.Sound.isArmed_of_pending {r : Recognizer Queue} (h : r.Sound) {ticket : Ticket}
    {expiry : Time} (hmem : ⟨.doubleTapExpiry, ticket, expiry⟩ ∈ r.timers.pending) :
    r.context.window.isArmed = true := by
  have hlive : r.context.slots.get? .doubleTapExpiry = some ticket := h.agree.live hmem
  have hwindow : r.context.window.isArmed = r.context.slots.isArmed .doubleTapExpiry :=
    h.coherent.window
  rw [hwindow]
  exact Slots.isArmed_of_get? hlive

/-- The click of a tap and the end of its window are pending, in this order. -/
structure Waiting (q : Queue) (ticket : Ticket) (due expiry : Time) : Prop where
  click : ⟨.delayedClick, ticket, due⟩ ∈ q.pending
  window : ∃ later : Ticket, ⟨.doubleTapExpiry, later, expiry⟩ ∈ q.pending ∧
    ticket.raw.toNat < later.raw.toNat
  order : due ≤ expiry

/-- Arming the click and then the end of the window makes a tap wait. -/
theorem Agree.waiting_arm {s : Slots} {q : Queue} (h : Agree s q)
    (room : q.nextId.toNat + 2 < 2 ^ 64) :
    let armed := s.arm .delayedClick q
    Waiting (armed.1.arm .doubleTapExpiry armed.2).2 ⟨q.nextId⟩ (q.now.plus 150)
      (q.now.plus 160) := by
  intro armed
  have hdelay : Slot.delayedClick.delayMillis = 150 := by decide
  have hdelay' : Slot.doubleTapExpiry.delayMillis = 160 := by decide
  have hclick := s.armed_mem_pending .delayedClick q
  have hwindow := armed.1.armed_mem_pending .doubleTapExpiry armed.2
  have hnow : armed.2.now = q.now := s.now_disarm _ q
  have hid : armed.2.nextId = q.nextId + 1 := s.nextId_arm _ q
  rw [hdelay] at hclick
  rw [hdelay', hnow, hid] at hwindow
  refine ⟨?_, ⟨⟨q.nextId + 1⟩, hwindow, ?_⟩, ?_⟩
  · exact (h.arm .delayedClick (by omega)).mem_pending_arm hclick nofun
  · show q.nextId.toNat < (q.nextId + 1).toNat
    rw [Ticket.toNat_succ (by omega)]
    omega
  · rw [UInt64.le_iff_toNat_le, Time.toNat_plus, Time.toNat_plus]
    show min (_ + 150) _ ≤ min (_ + 160) _
    omega

namespace Waiting

variable {r : Recognizer Queue} {ticket : Ticket} {due expiry : Time} {c : TimedCall}

/-- A waiting tap has its window open. -/
theorem isArmed (hw : Waiting r.timers ticket due expiry) (h : r.Sound) :
    r.context.window.isArmed = true := by
  obtain ⟨later, hmem, -⟩ := hw.window
  exact h.isArmed_of_pending hmem

theorem not_drag (hw : Waiting r.timers ticket due expiry) (h : r.Sound) :
    r.context.state ≠ .dragActive := by
  have hlive : r.context.slots.get? .delayedClick = some ticket := h.agree.live hw.click
  exact h.coherent.not_drag (Slots.isArmed_of_get? hlive)

/-- While a tap waits, neither of its callbacks is popped but the click, and that when it is due. -/
theorem slot_of_popDue? (hw : Waiting r.timers ticket due expiry) (h : r.Sound) {time : Time}
    {e : Callback} {rest : Queue} (hp : r.timers.popDue? time = some (e, rest)) :
    (e = ⟨.delayedClick, ticket, due⟩ ∧ due ≤ time) ∨
      (e.slot ≠ .delayedClick ∧ Waiting rest ticket due expiry) := by
  obtain ⟨he, hdue, rfl⟩ := Queue.popDue?_eq_some hp
  obtain ⟨later, hlater, hticket⟩ := hw.window
  by_cases hclick : e.slot = .delayedClick
  · have heq := h.agree.eq_of_slot he hw.click hclick
    subst heq
    exact .inl ⟨rfl, hdue⟩
  · have hwindow : e.slot ≠ .doubleTapExpiry := by
      -- The click would be due too, and it comes out first.
      intro hslot
      have heq := h.agree.eq_of_slot he hlater hslot
      subst heq
      have hfirst := Queue.popDue?_first hp _ hw.click (UInt64.le_trans hw.order hdue)
      have horder := UInt64.le_iff_toNat_le.1 hw.order
      rw [Callback.isBefore_iff] at hfirst
      simp only at hfirst
      omega
    refine .inr ⟨hclick, ?_, ⟨later, ?_, hticket⟩, hw.order⟩
    · exact (List.mem_erase_of_ne fun heq => hclick (congrArg Callback.slot heq).symm).2 hw.click
    · exact (List.mem_erase_of_ne fun heq => hwindow (congrArg Callback.slot heq).symm).2 hlater

/-- Draining sends the click of a waiting tap if it is due, once, and no other left click. -/
theorem clicking_deliveries {time : Time} {fuel : Nat} (hw : Waiting r.timers ticket due expiry)
    (h : r.Sound) (hfuel : r.timers.pending.length ≤ fuel) :
    Recognizer.clicking (Recognizer.deliveries time fuel r) =
      if due ≤ time then [ticket] else [] := by
  induction fuel generalizing r with
  | zero =>
    have hpos := List.length_pos_of_mem hw.click
    omega
  | succ fuel ih =>
    simp only [Recognizer.deliveries]
    split
    · rename_i hnone
      rw [Queue.popDue?_eq_none_iff, Queue.due, List.filter_eq_nil_iff] at hnone
      rw [if_neg (by simpa using hnone _ hw.click)]
      rfl
    · rename_i e rest hp
      have hlen := Queue.length_of_popDue? hp
      have hnext := h.deliver hp
      simp only [Recognizer.clicking, List.flatMap_cons, h.sent_deliver hp]
      rcases hw.slot_of_popDue? h hp with ⟨rfl, hdue⟩ | ⟨hslot, hrest⟩
      · -- No other click is pending, so nothing that is still to come sends one.
        have hempty : Recognizer.clicking (Recognizer.deliveries time fuel
            ({ r with timers := rest }.onTimer .delayedClick ticket).next) = [] := by
          refine List.eq_nil_iff_forall_not_mem.2 fun t ht => ?_
          obtain ⟨deadline, hmem⟩ := Recognizer.pending_of_mem_clicking ht
          have hlive := hnext.agree.live hmem
          rw [h.slots_deliver hp, Slots.get?_set_self] at hlive
          cases hlive
        have hsends : r.stance.expirySends .delayedClick = [.click .left] :=
          if_pos ⟨hw.isArmed h, hw.not_drag h⟩
        rw [hsends, if_pos hdue]
        exact congrArg (ticket :: ·) hempty
      · have hcount : (r.stance.expirySends e.slot).count (.click .left) = 0 := by
          refine List.count_eq_zero.2 fun hmem => hslot ?_
          rw [← h.sent_deliver hp] at hmem
          exact Recognizer.slot_of_click hmem
        rw [hcount]
        refine ih ?_ hnext ?_
        · rwa [Recognizer.timers_onTimer]
        · rw [Recognizer.timers_onTimer]
          show rest.pending.length ≤ fuel
          omega

/-- The left clicks of a call, while a tap waits. -/
theorem clickers_eq (hw : Waiting r.timers ticket due expiry) (h : r.Sound) :
    r.clickers c = if c.Lapses due then [ticket] else [] := by
  unfold Recognizer.clickers Recognizer.delivered
  split
  · rename_i time htime
    rw [hw.clicking_deliveries h (Nat.le_refl _)]
    simp [TimedCall.Lapses, htime]
  · rename_i htime
    rw [if_neg (by simp [TimedCall.Lapses, htime])]
    rfl

theorem facing (hw : Waiting r.timers ticket due expiry) (hc : ¬c.Lapses due) :
    Waiting (r.facing c).timers ticket due expiry := by
  obtain ⟨later, hlater, hticket⟩ := hw.window
  refine ⟨?_, ⟨later, ?_, hticket⟩, hw.order⟩
  · exact Recognizer.mem_pending_facing.2 ⟨hw.click, hc⟩
  · exact Recognizer.mem_pending_facing.2 ⟨hlater, fun hl => hc (hl.mono hw.order)⟩

/-- A tap that is not due goes on waiting, unless the deed is one of three. -/
theorem call (hw : Waiting r.timers ticket due expiry) (h : r.Tracked)
    (hc : ¬c.Lapses due) {d : Deed} (hd : r.Does c d) (hspares : d.SparesTap) :
    Waiting (r.performTimed c).next.timers ticket due expiry := by
  have hagree : Agree (r.facing c).stance.slots (r.facing c).stance.timers := (h.facing c).agree
  have hf := hw.facing hc
  obtain ⟨later, hlater, hticket⟩ := hf.window
  rw [hd.timers]
  refine ⟨?_, ⟨later, ?_, hticket⟩, hw.order⟩
  · exact Deed.mem_pending_apply hagree hspares hf.click (.inl rfl)
  · exact Deed.mem_pending_apply hagree hspares hlater (.inr rfl)

/-- A tap that is accepted waits. -/
theorem of_accepts {rest : List TimedCall} (h : r.Ready (c :: rest)) (ha : r.Accepts c) :
    ∃ ticket, Waiting (r.performTimed c).next.timers ticket
      ((r.facing c).timers.now.plus 150) ((r.facing c).timers.now.plus 160) := by
  obtain ⟨deadline, hd⟩ := Recognizer.Does.of_accepts h.tracked.standard ha
  have hroom := h.room_call
  have htwo : (Deed.acceptTap deadline).schedulings = 2 := rfl
  rw [hd.schedulingsOf_eq, htwo, ← r.nextId_facing c] at hroom
  rw [hd.timers]
  exact ⟨_, (h.tracked.facing c).agree.waiting_arm hroom⟩

end Waiting

end Trackpad
