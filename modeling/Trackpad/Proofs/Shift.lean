import Mathlib.Algebra.Group.Nat.Defs
import Trackpad.Proofs.Twins

/-!
# Shift — recognition reads differences of time only

A run is repeated with all times later by the same number of milliseconds. Nothing compares a time
with a fixed one, and what is scheduled, is scheduled after the clock, so the two queues hold the
same callbacks, later by that number (`Queue.Later`), as long as no deadline is cut off at the
largest time. They order their callbacks alike, and pop the same ones (`Queue.Later.advanceTo`). The
times in the context may differ in any way: no reaction reads them.
-/

namespace Trackpad

def Time.Later (k : Nat) (t t' : Time) : Prop := t'.toNat = t.toNat + k

/-- The same callback, due later by `k` milliseconds. -/
structure Callback.Later (k : Nat) (c c' : Callback) : Prop where
  slot : c'.slot = c.slot
  ticket : c'.ticket = c.ticket
  deadline : Time.Later k c.deadline c'.deadline

/-- The same queue, later by `k` milliseconds. -/
structure Queue.Later (k : Nat) (q q' : Queue) : Prop where
  now : Time.Later k q.now q'.now
  nextId : q'.nextId = q.nextId
  pending : List.Forall₂ (Callback.Later k) q.pending q'.pending

variable {k : Nat}

/-! ## Callbacks -/

namespace Callback

variable {c c' d d' : Callback}

theorem Later.isBefore (hc : c.Later k c') (hd : d.Later k d') :
    c'.isBefore d' = c.isBefore d := by
  have hcd := hc.deadline
  have hdd := hd.deadline
  unfold Time.Later at hcd hdd
  rw [Bool.eq_iff_iff, isBefore_iff, isBefore_iff, hc.ticket, hd.ticket]
  omega

theorem Later.eq_iff (hc : c.Later k c') (hd : d.Later k d') : c' = d' ↔ c = d := by
  obtain ⟨slot, ticket, deadline⟩ := c
  obtain ⟨slot', ticket', deadline'⟩ := c'
  obtain ⟨rfl, rfl, hcd⟩ := hc
  obtain ⟨slot, ticket, other⟩ := d
  obtain ⟨slot', ticket', other'⟩ := d'
  obtain ⟨rfl, rfl, hdd⟩ := hd
  have hdeadlines : deadline' = other' ↔ deadline = other := by
    simp only [Time.Later] at hcd hdd
    rw [← UInt64.toNat_inj, ← UInt64.toNat_inj]
    omega
  rw [mk.injEq, mk.injEq, hdeadlines]

theorem later_earliest? {cs cs' : List Callback} (h : List.Forall₂ (Later k) cs cs') :
    Option.Rel (Later k) (earliest? cs) (earliest? cs') := by
  induction h with
  | nil => exact .none
  | @cons c c' cs cs' hc _ ih =>
    simp only [earliest?]
    generalize earliest? cs = o, earliest? cs' = o' at ih ⊢
    cases ih with
    | none => exact .some hc
    | some hd =>
      simp only [hd.isBefore hc]
      split
      · exact .some hd
      · exact .some hc

theorem later_erase {cs cs' : List Callback} (h : List.Forall₂ (Later k) cs cs')
    (hc : c.Later k c') : List.Forall₂ (Later k) (cs.erase c) (cs'.erase c') := by
  induction h with
  | nil => exact .nil
  | @cons d d' cs cs' hd hcs ih =>
    by_cases heq : d = c
    · rw [(hd.eq_iff hc).2 heq, heq, List.erase_cons_head, List.erase_cons_head]
      exact hcs
    · have hne : d' ≠ c' := fun h => heq ((hd.eq_iff hc).1 h)
      rw [List.erase_cons_tail (by simpa using heq), List.erase_cons_tail (by simpa using hne)]
      exact .cons hd ih

end Callback

/-! ## Queues -/

namespace Queue.Later

variable {q q' : Queue} {time time' : Time}

theorem due (h : q.Later k q') (ht : time.Later k time') :
    List.Forall₂ (Callback.Later k) (q.due time) (q'.due time') := by
  refine List.rel_filter ?_ h.pending
  intro c c' hc
  have hdeadline := hc.deadline
  unfold Time.Later at ht hdeadline
  simp only [decide_eq_true_eq, UInt64.le_iff_toNat_le]
  omega

theorem now_max (h : q.Later k q') (ht : time.Later k time') :
    Time.Later k (max q.now time) (max q'.now time') := by
  have hnow := h.now
  unfold Time.Later at *
  rw [Time.toNat_max, Time.toNat_max]
  omega

theorem moveTo (h : q.Later k q') (ht : time.Later k time') :
    (q.moveTo time).Later k (q'.moveTo time') :=
  { h with now := h.now_max ht }

theorem popDue? (h : q.Later k q') (ht : time.Later k time') :
    Option.Rel (fun p p' => p.1.Later k p'.1 ∧ p.2.Later k p'.2) (q.popDue? time)
      (q'.popDue? time') := by
  have hfirst := Callback.later_earliest? (h.due ht)
  unfold Queue.popDue?
  generalize Callback.earliest? (q.due time) = o, Callback.earliest? (q'.due time') = o' at hfirst ⊢
  cases hfirst with
  | none => exact .none
  | some hc =>
    exact .some ⟨hc, h.now_max hc.deadline, h.nextId, Callback.later_erase h.pending hc⟩

theorem drain (h : q.Later k q') (ht : time.Later k time') (fuel : Nat) :
    List.Forall₂ (Callback.Later k) (Queue.drain time fuel q).1 (Queue.drain time' fuel q').1 ∧
      (Queue.drain time fuel q).2.Later k (Queue.drain time' fuel q').2 := by
  induction fuel generalizing q q' with
  | zero => exact ⟨.nil, h⟩
  | succ fuel ih =>
    have hpop := h.popDue? ht
    simp only [Queue.drain]
    generalize q.popDue? time = o, q'.popDue? time' = o' at hpop ⊢
    cases hpop with
    | none => exact ⟨.nil, h⟩
    | some hpop =>
      obtain ⟨hfired, hrest⟩ := ih hpop.2
      exact ⟨.cons hpop.1 hfired, hrest⟩

theorem advanceTo (h : q.Later k q') (ht : time.Later k time') :
    List.Forall₂ (Callback.Later k) (q.advanceTo time).1 (q'.advanceTo time').1 ∧
      (q.advanceTo time).2.Later k (q'.advanceTo time').2 := by
  obtain ⟨hfired, hrest⟩ := h.drain ht q.pending.length
  simp only [Queue.advanceTo, ← h.pending.length_eq]
  exact ⟨hfired, hrest.moveTo ht⟩

theorem cancel (h : q.Later k q') (ticket : Ticket) :
    (q.cancel ticket).Later k (q'.cancel ticket) := by
  refine { h with pending := List.rel_filter ?_ h.pending }
  intro c c' hc
  simp only [decide_eq_true_eq, hc.ticket]

/-- A deadline that is not cut off is later too. -/
theorem schedule (h : q.Later k q') (slot : Slot) (room : q'.now.toNat + 160 < 2 ^ 64) :
    (q'.schedule slot.delay slot).1 = (q.schedule slot.delay slot).1 ∧
      (q.schedule slot.delay slot).2.Later k (q'.schedule slot.delay slot).2 := by
  have hdelay : slot.delay.toMillis.toNat ≤ 160 := by cases slot <;> decide
  have hticket : (q'.schedule slot.delay slot).1 = (q.schedule slot.delay slot).1 :=
    congrArg Ticket.mk h.nextId
  have hnow := h.now
  -- Neither sum is past the largest time.
  have hdeadline : Time.Later k (q.now.plus slot.delay.toMillis)
      (q'.now.plus slot.delay.toMillis) := by
    unfold Time.Later at *
    rw [Time.toNat_plus, Time.toNat_plus]
    omega
  refine ⟨hticket, h.now, congrArg (· + 1) h.nextId, ?_⟩
  exact List.rel_append h.pending (.cons ⟨rfl, hticket, hdeadline⟩ .nil)

end Queue.Later

/-! ## Runs -/

/-- The same sample, taken later by `k` milliseconds. -/
structure Sample.Later (k : Nat) (s s' : Sample) : Prop where
  same : s' = { s with time := s'.time }
  time : s.time.Later k s'.time

/-- All times are later by `k` milliseconds, and none is so late that a deadline is cut off. -/
def Likeness.shift (k : Nat) : Likeness Queue Queue where
  timers q q' := q.Later k q' ∧ q'.now.toNat + 160 < 2 ^ 64
  sample s s' := s.Later k s' ∧ s'.time.toNat + 160 < 2 ^ 64
  stamp _ _ := True
  last _ _ := True
  history := Eq
  schedule := by
    rintro q q' ⟨h, room⟩ slot
    obtain ⟨hticket, hlater⟩ := h.schedule slot room
    exact ⟨hticket, hlater, room⟩
  cancel := by
    rintro q q' ⟨h, room⟩ ticket
    exact ⟨h.cancel ticket, room⟩
  resembles := by
    rintro s s' ⟨h, -⟩
    rw [h.same]
    exact ⟨rfl, rfl, rfl, rfl, rfl, rfl⟩
  stamp_zero := trivial
  stamp_time _ := trivial
  stamp_expiry _ := trivial
  last_refl _ := trivial
  push := by
    rintro h _ rfl entry
    rfl
  push_entry := by
    rintro h _ rfl s s' ⟨hs, -⟩ state label
    rw [hs.same]
    rfl
  fresh := by
    rintro h _ rfl
    rfl

theorem Likeness.clocks_shift (k : Nat) :
    (Likeness.shift k).Clocks fun t t' => t.Later k t' ∧ t'.toNat + 160 < 2 ^ 64 where
  of_sample := by
    rintro s s' ⟨h, room⟩
    exact ⟨h.time, room⟩
  advanceTo := by
    rintro q q' ⟨h, room⟩ t t' ⟨ht, roomt⟩
    obtain ⟨hfired, hrest⟩ := h.advanceTo ht
    refine ⟨hfired.imp fun c c' hc => ⟨hc.slot, hc.ticket⟩, hrest, ?_⟩
    rw [Queue.now_advanceTo, Time.toNat_max]
    omega

/-- The sample, taken later. -/
def Sample.later (k : Time) (s : Sample) : Sample := { s with time := s.time + k }

namespace TimedCall

/-- The time of a sample, or the time to advance to. -/
def Bears (c : TimedCall) (time : Time) : Prop :=
  c.time? = some time ∨ ∃ s, c.sample? = some s ∧ s.time = time

/-- The call, with its times later. -/
def later (k : Time) : TimedCall → TimedCall
  | plain (.handle s) => plain (.handle (s.later k))
  | plain c => plain c
  | handleAt s => handleAt (s.later k)
  | advanceTo time => advanceTo (time + k)

end TimedCall

theorem Time.later_add {k t : Time} (h : t.toNat + k.toNat + 160 < 2 ^ 64) :
    t.Later k.toNat (t + k) ∧ (t + k).toNat + 160 < 2 ^ 64 := by
  have hadd : (t + k).toNat = t.toNat + k.toNat := by
    rw [UInt64.toNat_add]
    exact Nat.mod_eq_of_lt (by omega)
  unfold Time.Later
  omega

theorem TimedCall.rel_later {k : Time} {c : TimedCall}
    (h : ∀ time, c.Bears time → time.toNat + k.toNat + 160 < 2 ^ 64) :
    TimedCall.Rel (Likeness.shift k.toNat).sample
      (fun t t' => t.Later k.toNat t' ∧ t'.toNat + 160 < 2 ^ 64) c (c.later k) := by
  have hsample {s : Sample} (hs : c.sample? = some s) :
      (Likeness.shift k.toNat).sample s (s.later k) := by
    obtain ⟨hlater, room⟩ := Time.later_add (h s.time (.inr ⟨s, hs, rfl⟩))
    exact ⟨⟨rfl, hlater⟩, room⟩
  cases c with
  | plain call =>
    cases call with
    | handle s => exact .plain (.handle (hsample rfl))
    | onTimer slot ticket => exact .plain (.onTimer slot ticket)
    | reset => exact .plain .reset
  | handleAt s => exact .handleAt (hsample rfl)
  | advanceTo time => exact .advanceTo (Time.later_add (h time (.inl rfl)))

namespace Recognizer

/-- **Recognition reads differences of time only.** Let a run and the time it starts at be later by
`k` milliseconds, samples and advances alike, with none of the times within `160` milliseconds of
the largest one. Then call by call the values, the events, the states, the histories, and the slots
are the same, and the queues hold the same callbacks under the same tickets, with the clock and
every deadline later by `k`. -/
theorem replay_later (config : Config) (start k : Time) (calls : List TimedCall)
    (hstart : start.toNat + k.toNat + 160 < 2 ^ 64)
    (hcalls : ∀ c ∈ calls, ∀ time, c.Bears time → time.toNat + k.toNat + 160 < 2 ^ 64) :
    List.Forall₂
      (fun reply reply' : Reply Queue Answer =>
        reply'.value = reply.value ∧ reply'.events = reply.events ∧
        reply'.next.state = reply.next.state ∧
        reply'.next.context.history = reply.next.context.history ∧
        reply'.next.context.slots = reply.next.context.slots ∧
        reply.next.timers.Later k.toNat reply'.next.timers)
      (replay performTimed (new config (Queue.startingAt start)) calls)
      (replay performTimed (new config (Queue.startingAt (start + k)))
        (calls.map (·.later k))) := by
  obtain ⟨hlater, room⟩ := Time.later_add hstart
  have hpairs : (Likeness.shift k.toNat).Pairs (new config (Queue.startingAt start))
      (new config (Queue.startingAt (start + k))) :=
    .new rfl ⟨⟨hlater, rfl, .nil⟩, room⟩ rfl
  have hrel : List.Forall₂
      (TimedCall.Rel (Likeness.shift k.toNat).sample
        fun t t' => t.Later k.toNat t' ∧ t'.toNat + 160 < 2 ^ 64)
      calls (calls.map (·.later k)) := by
    rw [List.forall₂_map_right_iff, List.forall₂_same]
    exact fun c hc => TimedCall.rel_later (hcalls c hc)
  refine (hpairs.replay ?_ hrel).imp fun reply reply' h => ?_
  · exact fun _ _ _ _ h hc => h.performTimed (Likeness.clocks_shift _) hc
  · exact ⟨h.value, h.events, h.next.turns.state, h.next.turns.context.history.symm,
      h.next.turns.context.slots, h.next.turns.timers.1⟩

/-- A tap, and the same tap five seconds later. -/
theorem replay_later_of_tap :
    let calls := TimedCall.tapping ⟨10, 10⟩ 1000 1040
    let replies := replay performTimed (new {} (Queue.startingAt 900)) calls
    let replies' := replay performTimed (new {} (Queue.startingAt (900 + 5000)))
      (calls.map (·.later 5000))
    let deadlines := fun reply : Reply Queue Answer => reply.next.timers.pending.map (·.deadline)
    replies.map deadlines = [[], [1190, 1200]] ∧ replies'.map deadlines = [[], [6190, 6200]] ∧
      List.Forall₂ (fun reply reply' => reply'.events = reply.events ∧
        reply.next.timers.Later 5000 reply'.next.timers) replies replies' := by
  intro calls replies replies' deadlines
  have hcalls : ∀ c ∈ calls, ∀ time, c.Bears time →
      time.toNat + (5000 : Time).toNat + 160 < 2 ^ 64 := by
    intro c hc time hb
    rcases List.mem_pair.1 hc with rfl | rfl
    all_goals
      rcases hb with h | ⟨s, h, rfl⟩
      · cases h
        decide
      · cases h
        decide
  refine ⟨by decide +kernel, by decide +kernel, ?_⟩
  refine (replay_later {} 900 5000 calls (by decide) hcalls).imp fun reply reply' h => ?_
  exact ⟨h.2.1, h.2.2.2.2.2⟩

end Recognizer

end Trackpad
