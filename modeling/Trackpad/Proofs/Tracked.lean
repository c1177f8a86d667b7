import Trackpad.Proofs.Tickets

/-!
# Tracked — a recognizer that its queue keeps up with

`Sound` is what holds of a recognizer over a queue at every moment, also while a call delivers
callbacks: standard handlers, coherent sub-states, and slots that agree with the queue. Between two
calls nothing is overdue either (`Tracked`).

A sound recognizer never delivers a stale callback (`Sound.deliveries_live`). A scheduler must not
hand out a ticket twice, and a queue counts them in one word, so a run keeps track (`Ready.run`) as
long as it schedules fewer than `2 ^ 64` callbacks. They are read off the counter (`schedulings`): a
call moves it by what its deed schedules, which is never more than two (`Does.schedulingsOf_eq`,
`Deed.schedulings_le_two`).
-/

namespace Trackpad

/-! ## Live tickets as a list -/

/-- The live tickets, each with its slot. -/
def Slots.live (s : Slots) : List (Slot × Ticket) :=
  Slot.all.filterMap fun slot => (s.get? slot).map fun ticket => (slot, ticket)

theorem Slots.mem_live {s : Slots} {slot : Slot} {ticket : Ticket} :
    (slot, ticket) ∈ s.live ↔ s.get? slot = some ticket := by
  simp [live, Slot.mem_all]

theorem Slots.nodup_live (s : Slots) : s.live.Nodup := by
  refine Slot.nodup_all.filterMap ?_
  intro slot other p hs ho
  obtain ⟨_, -, rfl⟩ := Option.map_eq_some_iff.1 hs
  obtain ⟨_, -, he⟩ := Option.map_eq_some_iff.1 ho
  exact (congrArg Prod.fst he).symm

/-- In agreement, the queue holds one callback for each live ticket, and no other. -/
theorem Agree.perm_live {s : Slots} {q : Queue} (h : Agree s q) :
    (q.pending.map fun c => (c.slot, c.ticket)).Perm s.live := by
  have hnodup : (q.pending.map fun c => (c.slot, c.ticket)).Nodup := by
    refine List.Nodup.of_map Prod.snd ?_
    rw [List.map_map]
    exact h.nodup
  refine (List.perm_ext_iff_of_nodup hnodup s.nodup_live).2 ?_
  rintro ⟨slot, ticket⟩
  rw [Slots.mem_live, h.live_iff, List.mem_map]
  constructor
  · rintro ⟨⟨_, _, deadline⟩, hc, he⟩
    cases he
    exact ⟨deadline, hc⟩
  · rintro ⟨deadline, hc⟩
    exact ⟨_, hc, rfl⟩

namespace Recognizer

/-! ## Delivering callbacks -/

/-- What holds of a recognizer over a queue at every moment. -/
structure Sound (r : Recognizer Queue) : Prop where
  standard : r.handlers = .standard
  coherent : r.stance.Coherent
  agree : Agree r.context.slots r.timers

/-- What holds of a recognizer over a queue between two calls. -/
structure Tracked (r : Recognizer Queue) : Prop extends r.Sound where
  ahead : r.timers.Ahead

namespace Sound

variable {r : Recognizer Queue} {time : Time} {c : Callback} {rest : Queue}

/-- What is popped is live. -/
theorem popped_live (h : r.Sound) (hp : r.timers.popDue? time = some (c, rest)) :
    r.context.slots.get? c.slot = some c.ticket :=
  h.agree.live (Queue.popDue?_eq_some hp).1

theorem sent_deliver (h : r.Sound) (hp : r.timers.popDue? time = some (c, rest)) :
    ({ r with timers := rest }.onTimer c.slot c.ticket).sent = r.stance.expirySends c.slot :=
  (onTimer_of_live (r := { r with timers := rest }) (h.popped_live hp)).2

theorem slots_deliver (h : r.Sound) (hp : r.timers.popDue? time = some (c, rest)) :
    ({ r with timers := rest }.onTimer c.slot c.ticket).next.context.slots =
      r.context.slots.set c.slot none :=
  slots_onTimer_of_live (r := { r with timers := rest }) (h.popped_live hp)

theorem deliver (h : r.Sound) (hp : r.timers.popDue? time = some (c, rest)) :
    ({ r with timers := rest }.onTimer c.slot c.ticket).next.Sound where
  standard := h.standard
  coherent := coherent_onTimer (r := { r with timers := rest }) (h.coherent.withTimers rest) _ _
  agree := by
    rw [h.slots_deliver hp, timers_onTimer]
    exact h.agree.pop hp

/-- No stale callback is ever delivered. -/
theorem deliveries_live (fuel : Nat) (h : r.Sound) :
    ∀ p ∈ deliveries time fuel r, p.2.context.slots.get? p.1.slot = some p.1.ticket := by
  induction fuel generalizing r with
  | zero => exact List.forall_mem_nil _
  | succ fuel ih =>
    simp only [deliveries]
    split
    · exact List.forall_mem_nil _
    · rename_i c rest hp
      intro p hmem
      rcases List.mem_cons.1 hmem with rfl | hmem
      · exact h.popped_live hp
      · exact ih (h.deliver hp) p hmem

end Sound

theorem nextId_facing (r : Recognizer Queue) (c : TimedCall) :
    (r.facing c).timers.nextId = r.timers.nextId := by
  unfold facing
  split
  · rw [timers_advanceTo, Queue.nextId_advanceTo]
  · rfl

theorem Tracked.facing {r : Recognizer Queue} (h : r.Tracked) (c : TimedCall) :
    (r.facing c).Tracked := by
  unfold Recognizer.facing
  split
  · rename_i time _
    have hdrained : (drain time r.timers.pending.length r).next.Sound :=
      drain_keeps (P := Sound) (fun _ _ _ hp hs => hs.deliver hp) _ h.toSound
    refine ⟨⟨hdrained.standard, ?_, hdrained.agree.moveTo time⟩, ?_⟩
    · exact hdrained.coherent.withTimers _
    · rw [timers_advanceTo]
      exact h.ahead.advanceTo time
  · exact h

theorem Tracked.delivered_live {r : Recognizer Queue} (h : r.Tracked) (c : TimedCall) :
    ∀ p ∈ r.delivered c, p.2.context.slots.get? p.1.slot = some p.1.ticket := by
  unfold delivered
  split
  · exact h.deliveries_live _
  · exact List.forall_mem_nil _

/-! ## Schedulings -/

/-- How many callbacks a call schedules. -/
def schedulingsOf (r : Recognizer Queue) (c : TimedCall) : Nat :=
  ((r.performTimed c).next.timers.nextId - r.timers.nextId).toNat

/-- How many callbacks a run schedules. -/
def schedulings (r : Recognizer Queue) : List TimedCall → Nat
  | [] => 0
  | c :: rest => r.schedulingsOf c + schedulings (r.performTimed c).next rest

theorem schedulings_append (r : Recognizer Queue) (first second : List TimedCall) :
    schedulings r (first ++ second) =
      schedulings r first + schedulings (after performTimed r first) second := by
  induction first generalizing r with
  | nil => simp [schedulings, after]
  | cons c rest ih => simp [schedulings, after_cons, ih, Nat.add_assoc]

/-- The counter has tickets enough for these calls, and the handlers are the standard ones. -/
structure Stocked (r : Recognizer Queue) (calls : List TimedCall) : Prop where
  standard : r.handlers = .standard
  room : r.timers.nextId.toNat + schedulings r calls < 2 ^ 64

namespace Stocked

variable {r : Recognizer Queue} {c : TimedCall} {rest : List TimedCall}

theorem start {config : Config} {time : Time} {calls : List TimedCall}
    (room : schedulings (new config (Queue.startingAt time)) calls < 2 ^ 64) :
    (new config (Queue.startingAt time)).Stocked calls := by
  refine ⟨rfl, ?_⟩
  show 0 + _ < _
  omega

theorem room_call (h : r.Stocked (c :: rest)) :
    r.timers.nextId.toNat + r.schedulingsOf c < 2 ^ 64 := by
  have hroom := h.room
  simp only [schedulings] at hroom
  omega

/-- With tickets enough, the counter does not go round. -/
theorem toNat_nextId (h : r.Stocked (c :: rest)) :
    (r.performTimed c).next.timers.nextId.toNat = r.timers.nextId.toNat + r.schedulingsOf c := by
  have hroom := h.room_call
  unfold schedulingsOf at hroom ⊢
  rw [UInt64.toNat_sub] at hroom ⊢
  have := r.timers.nextId.toNat_lt
  have := (r.performTimed c).next.timers.nextId.toNat_lt
  omega

theorem next (h : r.Stocked (c :: rest)) : (r.performTimed c).next.Stocked rest := by
  refine ⟨by rw [handlers_performTimed, h.standard], ?_⟩
  have hroom := h.room
  simp only [schedulings] at hroom
  rw [h.toNat_nextId]
  omega

theorem run {first second : List TimedCall} (h : r.Stocked (first ++ second)) :
    (after performTimed r first).Stocked second := by
  induction first generalizing r with
  | nil => exact h
  | cons c rest ih => exact ih h.next

end Stocked

namespace Does

variable {r : Recognizer Queue} {c : TimedCall} {d : Deed}

theorem nextId (h : r.Does c d) :
    (r.performTimed c).next.timers.nextId = r.timers.nextId + UInt64.ofNat d.schedulings := by
  rw [h.timers, d.nextId_apply, ← r.nextId_facing c]
  rfl

/-- A call schedules what its deed schedules. -/
theorem schedulingsOf_eq (h : r.Does c d) : r.schedulingsOf c = d.schedulings := by
  -- At most two, so the difference is exact even if the counter goes round.
  have htwo := d.schedulings_le_two
  rw [schedulingsOf, h.nextId, UInt64.add_comm, UInt64.add_sub_cancel, UInt64.toNat_ofNat']
  omega

theorem coherent (h : r.Does c d) (hc : (r.facing c).stance.Coherent) :
    (r.performTimed c).next.stance.Coherent := by
  rw [h.stance]
  have hfits := h.fits
  split at hfits
  · exact hc.apply rfl hfits
  · rcases hfits with rfl | ⟨rfl, -⟩
    · exact hc
    · exact Stance.coherent_rest _

end Does

/-! ## Runs -/

namespace Tracked

theorem start (config : Config) (time : Time) : (new config (Queue.startingAt time)).Tracked where
  standard := rfl
  coherent := coherent_new config _
  agree := ⟨fun slot _ => by cases slot <;> simp [new, Context.fresh, Queue.startingAt, Slots.get?],
    List.nodup_nil, nofun, nofun⟩
  ahead := nofun

variable {r : Recognizer Queue}

/-- A call keeps track, as long as the counter has tickets for it. -/
theorem call (h : r.Tracked) {c : TimedCall} (driven : c.IsDriven)
    (room : r.timers.nextId.toNat + r.schedulingsOf c < 2 ^ 64) :
    (r.performTimed c).next.Tracked := by
  obtain ⟨d, hd⟩ := performTimed_does h.standard driven
  rw [hd.schedulingsOf_eq] at room
  have hf := h.facing c
  have happly := d.agree_apply (v := (r.facing c).stance) hf.agree hf.ahead
    (by rw [← r.nextId_facing c] at room; exact room)
  rw [← hd.stance] at happly
  refine ⟨⟨?_, hd.coherent hf.coherent, happly.1⟩, happly.2⟩
  rw [handlers_performTimed, h.standard]

end Tracked

/-- A recognizer that has tickets enough to make these calls, and is left its callbacks. -/
structure Ready (r : Recognizer Queue) (calls : List TimedCall) : Prop where
  tracked : r.Tracked
  driven : ∀ c ∈ calls, c.IsDriven
  room : r.timers.nextId.toNat + schedulings r calls < 2 ^ 64

namespace Ready

theorem start {config : Config} {time : Time} {calls : List TimedCall}
    (driven : ∀ c ∈ calls, c.IsDriven)
    (room : schedulings (new config (Queue.startingAt time)) calls < 2 ^ 64) :
    (new config (Queue.startingAt time)).Ready calls :=
  ⟨Tracked.start config time, driven, (Stocked.start room).room⟩

variable {r : Recognizer Queue} {c : TimedCall} {rest : List TimedCall}

theorem does (h : r.Ready (c :: rest)) : ∃ d, r.Does c d :=
  performTimed_does h.tracked.standard (h.driven c List.mem_cons_self)

theorem stocked {calls : List TimedCall} (h : r.Ready calls) : r.Stocked calls :=
  ⟨h.tracked.standard, h.room⟩

theorem room_call (h : r.Ready (c :: rest)) :
    r.timers.nextId.toNat + r.schedulingsOf c < 2 ^ 64 :=
  h.stocked.room_call

theorem next (h : r.Ready (c :: rest)) : (r.performTimed c).next.Ready rest where
  tracked := h.tracked.call (h.driven c List.mem_cons_self) h.room_call
  driven := fun d hd => h.driven d (List.mem_cons_of_mem c hd)
  room := h.stocked.next.room

/-- A run leaves the recognizer ready for the calls that follow. -/
theorem run {first second : List TimedCall} (h : r.Ready (first ++ second)) :
    (after performTimed r first).Ready second := by
  induction first generalizing r with
  | nil => exact h
  | cons c rest ih => exact ih h.next

theorem of_append {first second : List TimedCall} (h : r.Ready (first ++ second)) :
    r.Ready first := by
  refine ⟨h.tracked, fun c hc => h.driven c (List.mem_append_left second hc), ?_⟩
  have hroom := h.room
  rw [schedulings_append] at hroom
  omega

end Ready

/-- **Slots and queue hold the same callbacks.** Whatever samples, times and resets come, also times
that go back: between two calls the queue holds exactly one callback for each live ticket, with its
slot, and no other. Its tickets are distinct and below the counter. No callback is overdue, unless
its deadline is the largest time, and none is later than its delay from now. Whatever call comes
next, each callback that it delivers is live when it is delivered. -/
theorem queue_follows_slots (config : Config) (start : Time) (calls : List TimedCall)
    (driven : ∀ c ∈ calls, c.IsDriven)
    (room : schedulings (new config (Queue.startingAt start)) calls < 2 ^ 64) :
    let r := after performTimed (new config (Queue.startingAt start)) calls
    (r.timers.pending.map fun c => (c.slot, c.ticket)).Perm r.context.slots.live ∧
    (r.timers.pending.map (·.ticket)).Nodup ∧
    (∀ c ∈ r.timers.pending, c.ticket.raw < r.timers.nextId ∧
      (r.timers.now < c.deadline ∨ c.deadline.toNat = 2 ^ 64 - 1) ∧
      c.deadline ≤ r.timers.now.plus c.slot.delayMillis) ∧
    ∀ c : TimedCall, ∀ p ∈ r.delivered c, p.2.context.slots.get? p.1.slot = some p.1.ticket := by
  intro r
  have hready := Ready.start driven room
  rw [← List.append_nil calls] at hready
  have hr : r.Tracked := hready.run.tracked
  refine ⟨hr.agree.perm_live, hr.agree.nodup, fun c hc => ⟨?_, hr.ahead c hc, hr.agree.near c hc⟩,
    hr.delivered_live⟩
  exact UInt64.lt_iff_toNat_lt.2 (hr.agree.issued c hc)

theorem queue_follows_slots_tapping :
    let calls := TimedCall.tapping ⟨10, 10⟩ 100 140 ++ TimedCall.tapping ⟨20, 10⟩ 30 60
    let r := after performTimed (new {} (Queue.startingAt 0)) calls
    (r.timers.pending.map fun c => (c.slot, c.ticket)).Perm
      [(.delayedClick, ⟨2⟩), (.doubleTapExpiry, ⟨3⟩)] := by
  intro calls r
  have hall := queue_follows_slots {} 0 calls (by decide) (by decide +kernel)
  have hlive : r.context.slots.live = [(.delayedClick, ⟨2⟩), (.doubleTapExpiry, ⟨3⟩)] := by
    decide +kernel
  exact hlive ▸ hall.1

end Recognizer

end Trackpad
