import Mathlib.Algebra.Group.Nat.Defs
import Mathlib.Data.List.Nodup
import Trackpad.Proofs.Coherence

/-!
# Tickets — slots and queue describe the same callbacks

The slots belong to the gesture and the pending callbacks to the queue. `Agree` says that they
describe the same callbacks: a ticket is live in a slot exactly if it is pending for that slot, no
two pending tickets are the same, and all of them come from the counter. Arming needs the counter
not to run out, which is why a run is bounded by its `schedulings`; nothing else can break it.

That no pending callback is overdue (`Queue.Ahead`) holds between two calls only: while a call
delivers callbacks, others of the same deadline are still pending.
-/

namespace Trackpad

/-- No two pending callbacks have the same ticket, and all their tickets come from the counter. -/
structure Queue.Issued (q : Queue) : Prop where
  nodup : (q.pending.map (·.ticket)).Nodup
  below : ∀ c ∈ q.pending, c.ticket.raw.toNat < q.nextId.toNat

/-- Slots and queue describe the same callbacks. -/
structure Agree (s : Slots) (q : Queue) : Prop where
  live_iff : ∀ slot ticket, s.get? slot = some ticket ↔
    ∃ deadline, (⟨slot, ticket, deadline⟩ : Callback) ∈ q.pending
  nodup : (q.pending.map (·.ticket)).Nodup
  issued : ∀ c ∈ q.pending, c.ticket.raw.toNat < q.nextId.toNat
  near : ∀ c ∈ q.pending, c.deadline ≤ q.now.plus c.slot.delayMillis

/-- Every pending callback is ahead of the clock, or as late as can be. -/
def Queue.Ahead (q : Queue) : Prop :=
  ∀ c ∈ q.pending, q.now < c.deadline ∨ c.deadline.toNat = 2 ^ 64 - 1

/-- A counter with a ticket left counts on. -/
theorem Ticket.toNat_succ {n : UInt64} (room : n.toNat + 1 < 2 ^ 64) :
    (n + 1).toNat = n.toNat + 1 := by
  rw [UInt64.toNat_add]
  exact Nat.mod_eq_of_lt room

namespace Queue.Issued

variable {q : Queue}

theorem eq_of_ticket (h : q.Issued) {c d : Callback} (hc : c ∈ q.pending) (hd : d ∈ q.pending)
    (ht : c.ticket = d.ticket) : c = d :=
  List.inj_on_of_nodup_map h.nodup hc hd ht

theorem mem_erase_iff (h : q.Issued) {c d : Callback} (hc : c ∈ q.pending) :
    d ∈ q.pending.erase c ↔ d ∈ q.pending ∧ d.ticket ≠ c.ticket := by
  rw [(h.nodup.of_map _).mem_erase_iff]
  constructor
  · rintro ⟨hne, hd⟩
    exact ⟨hd, fun ht => hne (h.eq_of_ticket hd hc ht)⟩
  · rintro ⟨hd, hne⟩
    exact ⟨fun heq => hne (congrArg _ heq), hd⟩

theorem shrink (h : q.Issued) {q' : Queue} (hsub : q'.pending.Sublist q.pending)
    (hid : q'.nextId = q.nextId) : q'.Issued where
  nodup := h.nodup.sublist (hsub.map _)
  below := fun c hc => hid ▸ h.below c (hsub.subset hc)

theorem schedule (h : q.Issued) (delay : Duration) (slot : Slot)
    (room : q.nextId.toNat + 1 < 2 ^ 64) : (q.schedule delay slot).2.Issued where
  nodup := by
    show ((q.pending ++ [_]).map fun c : Callback => c.ticket).Nodup
    rw [List.map_append, List.map_singleton]
    refine List.nodup_append.2 ⟨h.nodup, List.nodup_singleton _, ?_⟩
    -- The new ticket is the counter, and all others are below it.
    rintro t ht u hu rfl
    obtain ⟨c, hc, rfl⟩ := List.mem_map.1 ht
    have hbelow := h.below c hc
    rw [List.mem_singleton.1 hu] at hbelow
    exact Nat.lt_irrefl _ hbelow
  below := by
    intro c hc
    show c.ticket.raw.toNat < (q.nextId + 1).toNat
    rw [Ticket.toNat_succ room]
    rcases mem_pending_schedule.1 hc with hc | rfl
    · exact Nat.lt_succ_of_lt (h.below c hc)
    · exact Nat.lt_succ_self _

end Queue.Issued

namespace Slots

@[simp] theorem nextId_disarm (s : Slots) (slot : Slot) (q : Queue) :
    (s.disarm slot q).2.nextId = q.nextId := by
  unfold disarm
  split <;> rfl

@[simp] theorem nextId_arm (s : Slots) (slot : Slot) (q : Queue) :
    (s.arm slot q).2.nextId = q.nextId + 1 :=
  congrArg (· + 1) (s.nextId_disarm slot q)

/-- The armed slot gets the next ticket of the counter. -/
theorem get?_arm_nextId (s : Slots) (slot : Slot) (q : Queue) :
    (s.arm slot q).1.get? slot = some ⟨q.nextId⟩ := by
  rw [get?_arm_self, ← s.nextId_disarm slot q]
  rfl

end Slots

namespace Agree

variable {s : Slots} {q : Queue}

theorem live (h : Agree s q) {c : Callback} (hc : c ∈ q.pending) :
    s.get? c.slot = some c.ticket :=
  (h.live_iff c.slot c.ticket).2 ⟨c.deadline, hc⟩

theorem tickets (h : Agree s q) : q.Issued := ⟨h.nodup, h.issued⟩

theorem eq_of_ticket (h : Agree s q) {c d : Callback} (hc : c ∈ q.pending) (hd : d ∈ q.pending)
    (ht : c.ticket = d.ticket) : c = d :=
  h.tickets.eq_of_ticket hc hd ht

theorem eq_of_slot (h : Agree s q) {c d : Callback} (hc : c ∈ q.pending) (hd : d ∈ q.pending)
    (hs : c.slot = d.slot) : c = d := by
  have hlive := h.live hc
  rw [hs, h.live hd] at hlive
  exact h.eq_of_ticket hc hd (Option.some.inj hlive).symm

/-- What takes a live callback out of both keeps them in agreement. -/
theorem remove (h : Agree s q) {slot : Slot} {ticket : Ticket} (hl : s.get? slot = some ticket)
    {q' : Queue} (hmem : ∀ c, c ∈ q'.pending ↔ c ∈ q.pending ∧ c.ticket ≠ ticket)
    (hsub : q'.pending.Sublist q.pending) (hid : q'.nextId = q.nextId) (hnow : q.now ≤ q'.now) :
    Agree (s.set slot none) q' where
  live_iff := by
    intro other t
    simp only [hmem]
    by_cases ho : other = slot
    · -- Only the callback that is taken out could be pending for this slot.
      subst ho
      rw [Slots.get?_set_self]
      refine ⟨nofun, ?_⟩
      rintro ⟨d, hc, hne⟩
      have hlive := h.live hc
      rw [hl] at hlive
      exact absurd (Option.some.inj hlive).symm hne
    · rw [Slots.get?_set_ne s ho, h.live_iff]
      refine ⟨?_, fun ⟨d, hc, _⟩ => ⟨d, hc⟩⟩
      rintro ⟨d, hc⟩
      refine ⟨d, hc, ?_⟩
      rintro rfl
      obtain ⟨e, he⟩ := (h.live_iff slot t).1 hl
      exact ho (congrArg Callback.slot (h.eq_of_ticket hc he rfl))
  nodup := (h.tickets.shrink hsub hid).nodup
  issued := (h.tickets.shrink hsub hid).below
  near := by
    intro c hc
    have hold := h.near c ((hmem c).1 hc).1
    rw [UInt64.le_iff_toNat_le, Time.toNat_plus] at hold ⊢
    rw [UInt64.le_iff_toNat_le] at hnow
    omega

theorem disarm (h : Agree s q) (slot : Slot) : Agree (s.disarm slot q).1 (s.disarm slot q).2 := by
  unfold Slots.disarm
  split
  · rename_i ticket hl
    exact h.remove hl (by simp [Scheduler.cancel, Queue.cancel]) List.filter_sublist rfl
      (UInt64.le_refl _)
  · exact h

/-- A callback is taken from the queue and from its slot. -/
theorem pop (h : Agree s q) {time : Time} {c : Callback} {rest : Queue}
    (hp : q.popDue? time = some (c, rest)) : Agree (s.set c.slot none) rest := by
  have hnow := (Queue.now_le_popDue? hp).1
  obtain ⟨hc, -, rfl⟩ := Queue.popDue?_eq_some hp
  exact h.remove (h.live hc) (fun _ => h.tickets.mem_erase_iff hc) List.erase_sublist rfl hnow

/-- An empty slot is filled with the next ticket, if the counter has one left. -/
theorem schedule (h : Agree s q) {slot : Slot} (hs : s.get? slot = none)
    (room : q.nextId.toNat + 1 < 2 ^ 64) :
    Agree (s.set slot (some (q.schedule slot.delay slot).1)) (q.schedule slot.delay slot).2 where
  live_iff := by
    intro other t
    by_cases ho : other = slot
    · subst ho
      have hnone (d : Time) : (⟨other, t, d⟩ : Callback) ∉ q.pending := by
        intro hc
        have := h.live hc
        rw [hs] at this
        cases this
      simp only [Slots.get?_set_self, Queue.schedule, List.mem_append, List.mem_singleton, hnone,
        false_or, Callback.mk.injEq, true_and, exists_and_left, exists_eq, and_true,
        Option.some.injEq, eq_comm]
    · rw [Slots.get?_set_ne s ho, h.live_iff]
      simp [Queue.schedule, ho]
  nodup := (h.tickets.schedule slot.delay slot room).nodup
  issued := (h.tickets.schedule slot.delay slot room).below
  near := by
    intro c hc
    rcases Queue.mem_pending_schedule.1 hc with hc | rfl
    · exact h.near c hc
    · exact UInt64.le_refl _

theorem arm (h : Agree s q) (slot : Slot) (room : q.nextId.toNat + 1 < 2 ^ 64) :
    Agree (s.arm slot q).1 (s.arm slot q).2 :=
  (h.disarm slot).schedule (s.get?_disarm_self slot q) (by rwa [Slots.nextId_disarm])

/-- Moving the clock forward past what is not due keeps agreement. -/
theorem moveTo (h : Agree s q) (time : Time) : Agree s (q.moveTo time) where
  live_iff := h.live_iff
  nodup := h.nodup
  issued := h.issued
  near := by
    intro c hc
    have hold := h.near c hc
    rw [UInt64.le_iff_toNat_le, Time.toNat_plus] at hold ⊢
    simp only [Queue.moveTo, Time.toNat_max]
    omega

end Agree

/-! ## Ahead of the clock -/

namespace Queue.Ahead

theorem schedule {q : Queue} (h : q.Ahead) (slot : Slot) :
    (q.schedule slot.delay slot).2.Ahead := by
  -- No delay is zero, so a deadline is ahead of the clock unless it is cut off.
  have hpos : 0 < slot.delayMillis.toNat := by cases slot <;> decide
  intro c hc
  rcases Queue.mem_pending_schedule.1 hc with hc | rfl
  · exact h c hc
  · have hdeadline := Time.toNat_plus q.now slot.delayMillis
    show q.now < q.now.plus slot.delayMillis ∨ (q.now.plus slot.delayMillis).toNat = 2 ^ 64 - 1
    have := q.now.toNat_lt
    rw [UInt64.lt_iff_toNat_lt]
    omega

theorem disarm {q : Queue} (h : q.Ahead) (s : Slots) (slot : Slot) : (s.disarm slot q).2.Ahead := by
  unfold Slots.disarm
  split
  · exact fun c hc => h c (List.mem_filter.1 hc).1
  · exact h

theorem arm {q : Queue} (h : q.Ahead) (s : Slots) (slot : Slot) : (s.arm slot q).2.Ahead :=
  (h.disarm s slot).schedule slot

/-- Whatever was overdue, nothing is once the queue has been advanced. -/
theorem advanceTo {q : Queue} (h : q.Ahead) (time : Time) : (q.advanceTo time).2.Ahead := by
  intro c hc
  rw [pending_advanceTo, List.mem_filter, decide_eq_true_eq, UInt64.lt_iff_toNat_lt] at hc
  rw [now_advanceTo, UInt64.lt_iff_toNat_lt, Time.toNat_max]
  have := h c hc.1
  rw [UInt64.lt_iff_toNat_lt] at this
  omega

end Queue.Ahead

/-! ## Deeds -/

namespace Deed

theorem schedulings_le_two (d : Deed) : d.schedulings ≤ 2 := by
  cases d <;> simp [schedulings]

/-- A deed takes as many tickets from the counter as it schedules callbacks. -/
theorem nextId_apply (v : Stance Queue) (d : Deed) :
    (d.apply v).timers.nextId = v.timers.nextId + UInt64.ofNat d.schedulings := by
  have hkeeps : (d.apply v).timers.nextId + UInt64.ofNat 0 =
      v.timers.nextId + UInt64.ofNat (0 + d.schedulings) := by
    refine d.apply_keeps (P := fun n _ (q : Queue) =>
      q.nextId + UInt64.ofNat n = v.timers.nextId + UInt64.ofNat (0 + d.schedulings)) ?_ ?_ rfl
    · intro n s q slot h
      rw [Slots.nextId_arm, ← h, UInt64.ofNat_add, UInt64.add_assoc, UInt64.add_comm 1]
      rfl
    · intro n s q slot h
      rwa [Slots.nextId_disarm]
  simpa using hkeeps

/-- What disarming keeps, and arming too while there is a ticket for it, a deed keeps while there
are tickets enough. -/
theorem apply_keeps_of_room {P : Slots → Queue → Prop}
    (harm : ∀ s q slot, P s q → q.nextId.toNat + 1 < 2 ^ 64 → P (s.arm slot q).1 (s.arm slot q).2)
    (hdisarm : ∀ s q slot, P s q → P (s.disarm slot q).1 (s.disarm slot q).2)
    {v : Stance Queue} (h : P v.slots v.timers) (d : Deed)
    (room : v.timers.nextId.toNat + d.schedulings < 2 ^ 64) :
    P (d.apply v).slots (d.apply v).timers := by
  have hkeeps := d.apply_keeps (v := v) (n := 0)
    (P := fun n s (q : Queue) => P s q ∧ q.nextId.toNat + n < 2 ^ 64) ?_ ?_ ⟨h, by omega⟩
  · exact hkeeps.1
  · rintro n s q slot ⟨hp, hroom⟩
    refine ⟨harm s q slot hp (by omega), ?_⟩
    rw [Slots.nextId_arm, Ticket.toNat_succ (by omega)]
    omega
  · rintro n s q slot ⟨hp, hroom⟩
    exact ⟨hdisarm s q slot hp, by rwa [Slots.nextId_disarm]⟩

/-- With tickets enough, a deed keeps slots and queue in agreement. -/
theorem agree_apply {v : Stance Queue} (h : Agree v.slots v.timers) (ha : v.timers.Ahead)
    (d : Deed) (room : v.timers.nextId.toNat + d.schedulings < 2 ^ 64) :
    Agree (d.apply v).slots (d.apply v).timers ∧ (d.apply v).timers.Ahead :=
  d.apply_keeps_of_room (P := fun s q => Agree s q ∧ q.Ahead)
    (fun s _ slot h room => ⟨h.1.arm slot room, h.2.arm s slot⟩)
    (fun s _ slot h => ⟨h.1.disarm slot, h.2.disarm s slot⟩) ⟨h, ha⟩ room

end Deed

end Trackpad
