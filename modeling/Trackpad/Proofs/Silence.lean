import Trackpad.Proofs.Exchange
import Trackpad.Proofs.Ledger
import Trackpad.Proofs.Stages

/-!
# Silence — what comes when no more samples do

Once the samples stop, only callbacks are left. Two things can still be said by them: the click of a
tap and the release of a drag. A click is never postponed during a drag, so it is one of the two,
and whichever goes out, no callback says anything after it (`Stance.Mute`).

A live ticket is not forgotten by the queue: as long as the ticket is live, a callback is pending
that bears it, and none is further away than the delay of its slot (`Covers`). Unlike agreement with
the queue (`Agree`), this survives a host that delivers callbacks on its own, whose entries stay in
the queue as stale ones. The longest delay is 160 milliseconds, so everything has come due by then.
-/

namespace Trackpad

/-! ## What callbacks say -/

/-- No callback can say anything: no click is postponed, and nothing is dragged. -/
structure Stance.Mute {σ : Type} (v : Stance σ) : Prop where
  click : v.slots.isArmed .delayedClick = false
  drag : v.state ≠ .dragActive

namespace Stance

variable {σ : Type} {v : Stance σ} {slot : Slot}

theorem Mute.expirySends (h : v.Mute) (hl : v.slots.isArmed slot = true) :
    v.expirySends slot = [] := by
  refine expirySends_of_not_drag h.drag ?_
  rintro rfl
  rw [h.click] at hl
  cases hl

theorem Mute.deliver (h : v.Mute) (slot : Slot) : (v.deliver slot).Mute := by
  refine ⟨?_, ?_⟩
  · rw [Stance.deliver, slots_expire, isArmed_vacate, h.click, Bool.and_false]
  · rw [state_deliver_of_not_drag h.drag]
    exact h.drag

/-- A live callback says nothing, or it says one thing and nothing can be said after it. -/
theorem Coherent.expirySends (h : v.Coherent) (hl : v.slots.isArmed slot = true) :
    v.expirySends slot = [] ∨
      (v.expirySends slot = [.click .left] ∨ v.expirySends slot = [.release .left]) ∧
        (v.deliver slot).Mute := by
  cases slot with
  | delayedClick =>
    have hdrag : v.state ≠ .dragActive := h.not_drag hl
    by_cases hopen : v.window.isArmed = true
    · have hmute : (v.deliver .delayedClick).Mute := by
        refine ⟨?_, hdrag⟩
        rw [deliver, slots_expire, isArmed_vacate]
        rfl
      exact .inr ⟨.inl (if_pos ⟨hopen, hdrag⟩), hmute⟩
    · exact .inl (if_neg fun hclick => hopen hclick.1)
  | doubleTapExpiry | twoFingerTapExpiry => exact .inl rfl
  | dragTimeout =>
    by_cases hdrag : v.state = .dragActive
    · have hvacated : (v.vacate .dragTimeout).state = .dragActive := hdrag
      have hmute : (v.deliver .dragTimeout).Mute := by
        refine ⟨?_, ?_⟩
        · rw [deliver, slots_expire, isArmed_vacate, (h.drag hdrag).2.2.1, Bool.and_false]
        · have hover : State.hoverTracking ≠ .dragActive := by decide
          rwa [deliver, expire_of_drag hvacated]
      exact .inr ⟨.inr (if_pos hdrag), hmute⟩
    · exact .inl (if_neg hdrag)

end Stance

namespace Recognizer

variable {σ : Type} [Scheduler σ] {r : Recognizer σ}

theorem onTimer_of_mute (h : r.stance.Mute) (slot : Slot) (ticket : Ticket) :
    (r.onTimer slot ticket).sent = [] ∧ (r.onTimer slot ticket).next.stance.Mute := by
  by_cases hlive : r.context.slots.get? slot = some ticket
  · obtain ⟨hstance, hsent⟩ := onTimer_of_live hlive
    rw [hstance, hsent]
    exact ⟨h.expirySends (Slots.isArmed_of_get? hlive), h.deliver slot⟩
  · obtain ⟨hnext, hsent⟩ := onTimer_of_stale hlive
    rw [hnext]
    exact ⟨hsent, h⟩

theorem onTimer_of_coherent (h : r.stance.Coherent) (slot : Slot) (ticket : Ticket) :
    (r.onTimer slot ticket).sent = [] ∨
      ((r.onTimer slot ticket).sent = [.click .left] ∨
        (r.onTimer slot ticket).sent = [.release .left]) ∧
        (r.onTimer slot ticket).next.stance.Mute := by
  by_cases hlive : r.context.slots.get? slot = some ticket
  · obtain ⟨hstance, hsent⟩ := onTimer_of_live hlive
    rw [hstance, hsent]
    exact h.expirySends (Slots.isArmed_of_get? hlive)
  · exact .inl (onTimer_of_stale hlive).2

theorem sent_deliverAll_of_mute (h : r.stance.Mute) (cs : List Callback) :
    (r.deliverAll cs).sent = [] := by
  induction cs generalizing r with
  | nil => rfl
  | cons c rest ih =>
    obtain ⟨hsent, hmute⟩ := onTimer_of_mute h c.slot c.ticket
    rw [deliverAll, Reply.sent_followedBy, hsent, ih hmute, List.nil_append]

theorem sent_deliverAll_of_coherent (h : r.stance.Coherent) (cs : List Callback) :
    (r.deliverAll cs).sent = [] ∨ (r.deliverAll cs).sent = [.click .left] ∨
      (r.deliverAll cs).sent = [.release .left] := by
  induction cs generalizing r with
  | nil => exact .inl rfl
  | cons c rest ih =>
    rw [deliverAll, Reply.sent_followedBy]
    rcases onTimer_of_coherent h c.slot c.ticket with hnil | ⟨hsent, hmute⟩
    · rw [hnil, List.nil_append]
      exact ih (coherent_onTimer h c.slot c.ticket)
    · rw [sent_deliverAll_of_mute hmute, List.append_nil]
      exact .inr hsent

/-- However far the clock is advanced, at most one command goes out. -/
theorem sent_advanceTo_of_coherent {r : Recognizer Queue} (h : r.stance.Coherent) (time : Time) :
    (r.advanceTo time).sent = [] ∨ (r.advanceTo time).sent = [.click .left] ∨
      (r.advanceTo time).sent = [.release .left] := by
  have hleft : (r.withTimers (r.timers.advanceTo time).2).stance.Coherent := h.withTimers _
  rw [advanceTo_eq_deliverAll]
  exact sent_deliverAll_of_coherent hleft _

end Recognizer

/-! ## What the queue does not forget -/

/-- No callback is further away than the delay of its slot. -/
def Queue.Near (q : Queue) : Prop :=
  ∀ c ∈ q.pending, c.deadline ≤ q.now.plus c.slot.delayMillis

theorem Slot.delayMillis_le (slot : Slot) : slot.delayMillis ≤ 160 := by
  cases slot <;> decide

/-- After the longest delay, everything has come due. -/
theorem Queue.Near.pending_advanceTo {q : Queue} (h : q.Near) :
    (q.advanceTo (q.now.plus 160)).2.pending = [] := by
  rw [Queue.pending_advanceTo, List.filter_eq_nil_iff]
  intro c hc hlate
  have hnear := h c hc
  have hdelay := c.slot.delayMillis_le
  rw [decide_eq_true_eq, UInt64.lt_iff_toNat_lt, Time.toNat_plus] at hlate
  rw [UInt64.le_iff_toNat_le, Time.toNat_plus] at hnear
  rw [UInt64.le_iff_toNat_le] at hdelay
  omega

/-- A callback is pending for every live ticket, and none is far away. Stale ones may be pending
too. -/
structure Covers (s : Slots) (q : Queue) : Prop where
  issued : Issued s q.nextId
  pending : ∀ slot ticket, s.get? slot = some ticket →
    ∃ deadline, (⟨slot, ticket, deadline⟩ : Callback) ∈ q.pending
  near : q.Near

namespace Covers

variable {s : Slots} {q : Queue}

/-- Tickets may be taken from their slots and the clock may move, and callbacks may go unless they
bear a ticket that stays live. -/
theorem shrink (h : Covers s q) {q' : Queue} {s' : Slots} (hid : q'.nextId = q.nextId)
    (hnow : q.now ≤ q'.now) (hsub : ∀ c ∈ q'.pending, c ∈ q.pending)
    (hlive : ∀ slot ticket, s'.get? slot = some ticket → s.get? slot = some ticket)
    (hstays : ∀ c ∈ q.pending, s'.get? c.slot = some c.ticket → c ∈ q'.pending) :
    Covers s' q' where
  issued := by
    intro slot ticket hl
    obtain ⟨hlt, hslots⟩ := h.issued slot ticket (hlive slot ticket hl)
    rw [hid]
    exact ⟨hlt, fun other hother => hslots other (hlive other ticket hother)⟩
  pending := by
    intro slot ticket hl
    obtain ⟨deadline, hc⟩ := h.pending slot ticket (hlive slot ticket hl)
    exact ⟨deadline, hstays _ hc hl⟩
  near := by
    intro c hc
    have hold := h.near c (hsub c hc)
    rw [UInt64.le_iff_toNat_le, Time.toNat_plus] at hold ⊢
    rw [UInt64.le_iff_toNat_le] at hnow
    omega

theorem vacate (h : Covers s q) (slot : Slot) : Covers (s.set slot none) q :=
  h.shrink rfl (UInt64.le_refl _) (fun _ hc => hc)
    (fun _ _ hl => (Slots.get?_set_none_eq_some.1 hl).2) (fun _ hc _ => hc)

theorem disarm (h : Covers s q) (slot : Slot) : Covers (s.disarm slot q).1 (s.disarm slot q).2 := by
  unfold Slots.disarm
  split
  · rename_i ticket hticket
    refine h.shrink rfl (UInt64.le_refl _) (fun c hc => (List.mem_filter.1 hc).1)
      (fun _ _ hl => (Slots.get?_set_none_eq_some.1 hl).2) fun c hc hl => ?_
    obtain ⟨hslot, hold⟩ := Slots.get?_set_none_eq_some.1 hl
    refine List.mem_filter.2 ⟨hc, ?_⟩
    -- A callback that is dropped by mistake would bear a ticket that is live in two slots.
    have hne : c.ticket ≠ ticket := by
      rintro rfl
      exact hslot ((h.issued slot _ hticket).2 c.slot hold)
    simpa using hne
  · exact h

theorem schedule (h : Covers s q) (slot : Slot) (room : q.nextId.toNat + 1 < 2 ^ 64) :
    Covers (s.set slot (some (q.schedule slot.delay slot).1)) (q.schedule slot.delay slot).2 where
  issued := persists_issued.issue slot h.issued room
  pending := by
    intro other ticket hl
    rcases Slots.get?_set_some_eq_some.1 hl with ⟨rfl, rfl⟩ | ⟨-, hold⟩
    · exact ⟨_, Queue.mem_pending_schedule.2 (.inr rfl)⟩
    · obtain ⟨deadline, hc⟩ := h.pending other ticket hold
      exact ⟨deadline, Queue.mem_pending_schedule.2 (.inl hc)⟩
  near := by
    intro c hc
    rcases Queue.mem_pending_schedule.1 hc with hc | rfl
    · exact h.near c hc
    · exact UInt64.le_refl _

theorem arm (h : Covers s q) (slot : Slot) (room : q.nextId.toNat + 1 < 2 ^ 64) :
    Covers (s.arm slot q).1 (s.arm slot q).2 :=
  (h.disarm slot).schedule slot (by rwa [Slots.nextId_disarm])

/-- A callback is popped that is not live any more in the slots that are left. -/
theorem pop (h : Covers s q) {time : Time} {c : Callback} {rest : Queue}
    (hp : q.popDue? time = some (c, rest)) {s' : Slots}
    (hlive : ∀ slot ticket, s'.get? slot = some ticket → s.get? slot = some ticket)
    (hgone : s'.get? c.slot ≠ some c.ticket) : Covers s' rest := by
  have hnow := (Queue.now_le_popDue? hp).1
  obtain ⟨-, -, rfl⟩ := Queue.popDue?_eq_some hp
  refine h.shrink rfl hnow (fun _ he => List.mem_of_mem_erase he) hlive fun e he hl => ?_
  have hne : e ≠ c := by
    rintro rfl
    exact hgone hl
  exact (List.mem_erase_of_ne hne).2 he

theorem moveTo (h : Covers s q) (time : Time) : Covers s (q.moveTo time) :=
  h.shrink rfl (q.now_le_moveTo time) (fun _ hc => hc) (fun _ _ hl => hl) (fun _ hc _ => hc)

end Covers

namespace Recognizer

/-- The queue of the recognizer covers its slots. -/
def Covered (r : Recognizer Queue) : Prop := Covers r.context.slots r.timers

namespace Covered

variable {r : Recognizer Queue}

theorem deliver (h : r.Covered) {time : Time} {c : Callback} {rest : Queue}
    (hp : r.timers.popDue? time = some (c, rest)) :
    ({ r with timers := rest }.onTimer c.slot c.ticket).next.Covered := by
  unfold Covered
  rw [timers_onTimer]
  by_cases hlive : r.context.slots.get? c.slot = some c.ticket
  · rw [slots_onTimer_of_live (r := { r with timers := rest }) hlive]
    refine h.pop hp (fun _ _ hl => (Slots.get?_set_none_eq_some.1 hl).2) ?_
    rw [Slots.get?_set_self]
    nofun
  · rw [(onTimer_of_stale (r := { r with timers := rest }) hlive).1]
    exact h.pop hp (fun _ _ hl => hl) hlive

theorem advanceTo (h : r.Covered) (time : Time) : (r.advanceTo time).next.Covered :=
  Covers.moveTo (drain_keeps (P := Covered) (fun _ _ _ hp h => h.deliver hp) _ h) time

theorem facing (h : r.Covered) (c : TimedCall) : (r.facing c).Covered := by
  unfold Recognizer.facing
  split
  · exact h.advanceTo _
  · exact h

/-- A call keeps it, also if the host delivers a callback, as long as there are tickets. -/
theorem call (h : r.Covered) {c : TimedCall} {rest : List TimedCall}
    (hr : r.Stocked (c :: rest)) : (r.performTimed c).next.Covered :=
  hr.keeps (P := Covers) (fun _ _ slot h room => h.arm slot room)
    (fun _ _ slot h => h.disarm slot) (fun _ _ slot h => h.vacate slot) (h.facing c)

theorem run (h : r.Covered) {calls : List TimedCall} (hr : r.Stocked calls) :
    (after performTimed r calls).Covered := by
  induction calls generalizing r with
  | nil => exact h
  | cons c rest ih => exact ih (h.call hr) hr.next

theorem start (config : Config) (time : Time) : (new config (Queue.startingAt time)).Covered where
  issued := issued_new config time
  pending := by
    intro slot ticket hl
    cases slot <;> cases hl
  near := nofun

end Covered

/-! ## Silence -/

/-- No callback is pending, and nothing waits for one. -/
structure Settled (r : Recognizer Queue) : Prop where
  pending : r.timers.pending = []
  slots : ∀ slot, r.context.slots.get? slot = none
  window : r.context.window = .idle
  twoFingerTap : r.context.twoFingerTap = false
  drag : r.context.state ≠ .dragActive

variable {r : Recognizer Queue}

theorem settled_of_pending (hcovered : r.Covered) (hcoherent : r.stance.Coherent)
    (h : r.timers.pending = []) : r.Settled := by
  have hslots (slot : Slot) : r.context.slots.get? slot = none := by
    refine Option.eq_none_iff_forall_ne_some.2 fun ticket hl => ?_
    obtain ⟨deadline, hc⟩ := hcovered.pending slot ticket hl
    rw [h] at hc
    cases hc
  have hempty (slot : Slot) : r.stance.slots.isArmed slot = false :=
    Slots.isArmed_eq_false_iff.2 (hslots slot)
  have hclosed : r.context.window.isArmed = false := hcoherent.window.trans (hempty _)
  refine ⟨h, hslots, ?_, hcoherent.tap.trans (hempty _), fun hdrag => ?_⟩
  · cases hw : r.context.window with
    | idle => rfl
    | armed deadline =>
      rw [hw] at hclosed
      cases hclosed
  · have htimeout := (hcoherent.drag hdrag).1
    rw [hempty] at htimeout
    cases htimeout

/-- With nothing pending, time goes by and that is all. -/
theorem advanceThrough_of_pending (h : r.timers.pending = []) (times : List Time) :
    (r.advanceThrough times).value = 0 ∧ (r.advanceThrough times).events = [] := by
  induction times generalizing r with
  | nil => exact ⟨rfl, rfl⟩
  | cons time rest ih =>
    have hnone : r.timers.popDue? time = none := by
      rw [Queue.popDue?_eq_none_iff, Queue.due, h, List.filter_nil]
    have hmoved : (r.moveTo time).timers.pending = [] := h
    obtain ⟨hvalue, hevents⟩ := ih hmoved
    rw [advanceThrough, advanceTo_of_none hnone]
    refine ⟨?_, ?_⟩
    · show 0 + ((r.moveTo time).advanceThrough rest).value = 0
      rw [hvalue]
    · exact hevents

/-- **Silence settles.** Whatever samples, times, resets and callbacks come, also callbacks that the
host delivers on its own: from then on, however far the clock is advanced, at most one command goes
out, a click or a release of the left button. Once the clock has moved on by 160 milliseconds no
callback is pending, no ticket is live, no tap of one finger or of two is waited for, and nothing is
dragged; and however the clock is advanced after that, no callback has an effect and nothing is let
out. -/
theorem silence_settles (config : Config) (start : Time) (calls : List TimedCall) :
    let r := after performTimed (new config (Queue.startingAt start)) calls
    (∀ time, (r.advanceTo time).sent = [] ∨ (r.advanceTo time).sent = [.click .left] ∨
      (r.advanceTo time).sent = [.release .left]) ∧
    (schedulings (new config (Queue.startingAt start)) calls < 2 ^ 64 →
      let later := (r.advanceTo (r.timers.now.plus 160)).next
      later.Settled ∧ ∀ times, (later.advanceThrough times).value = 0 ∧
        (later.advanceThrough times).events = []) := by
  intro r
  have hcoherent : r.stance.Coherent := coherent_afterTimed config (Queue.startingAt start) calls
  refine ⟨sent_advanceTo_of_coherent hcoherent, fun room => ?_⟩
  intro later
  have hcovered : r.Covered := (Covered.start config start).run (Stocked.start room)
  have hpending : later.timers.pending = [] := by
    rw [timers_advanceTo]
    exact hcovered.near.pending_advanceTo
  exact ⟨settled_of_pending (hcovered.advanceTo _) (coherent_advanceTo hcoherent _) hpending,
    advanceThrough_of_pending hpending⟩

/-- The host ends the window of a tap on its own, so its callback stays in the queue as a stale one,
and the click that is left is dropped. -/
theorem silence_settles_after_early_expiry :
    let calls := TimedCall.tapping ⟨10, 10⟩ 0 40 ++ [.plain (.onTimer .doubleTapExpiry ⟨1⟩)]
    let r := after performTimed (new {} (Queue.startingAt 0)) calls
    r.timers.pending = [⟨.delayedClick, ⟨0⟩, 190⟩, ⟨.doubleTapExpiry, ⟨1⟩, 200⟩] ∧
      r.context.slots.live = [(.delayedClick, ⟨0⟩)] ∧ (r.advanceTo 200).next.Settled := by
  intro calls r
  have hnow : r.timers.now.plus 160 = 200 := by decide +kernel
  obtain ⟨-, hsilent⟩ := silence_settles {} 0 calls
  have hsettled := (hsilent (by decide +kernel)).1
  exact ⟨by decide +kernel, by decide +kernel, hnow ▸ hsettled⟩

end Recognizer

end Trackpad
