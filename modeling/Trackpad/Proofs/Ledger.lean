import Trackpad.Proofs.Tracked

/-!
# Ledger — which tickets are live, and which are used up

Whatever a run does to its tickets, it does in two ways: a slot is emptied, or it is filled with the
next ticket of the counter. So what these two keep, every run keeps (`Persists.run`), as long as the
counter has tickets left. Unlike `Tracked` this needs no agreement with the queue, so it also holds
when the host delivers callbacks on its own: early, twice, or to the wrong slot.

Two facts of this kind are that a live ticket is live in one slot only (`Issued`), and that a ticket
which was handed out is never live in a slot that it is not live in now (`Confined`).
-/

namespace Trackpad

/-- What is kept when a slot is emptied and when it is filled with the next ticket. -/
structure Persists (P : Slots → UInt64 → Prop) : Prop where
  clear {s : Slots} {n : UInt64} (slot : Slot) (h : P s n) : P (s.set slot none) n
  issue {s : Slots} {n : UInt64} (slot : Slot) (h : P s n) (room : n.toNat + 1 < 2 ^ 64) :
    P (s.set slot (some ⟨n⟩)) (n + 1)

namespace Persists

variable {P : Slots → UInt64 → Prop}

theorem disarm (hP : Persists P) {s : Slots} {q : Queue} (h : P s q.nextId) (slot : Slot) :
    P (s.disarm slot q).1 (s.disarm slot q).2.nextId := by
  rw [Slots.nextId_disarm]
  unfold Slots.disarm
  split
  · exact hP.clear slot h
  · exact h

theorem arm (hP : Persists P) {s : Slots} {q : Queue} (h : P s q.nextId) (slot : Slot)
    (room : q.nextId.toNat + 1 < 2 ^ 64) :
    P (s.arm slot q).1 (s.arm slot q).2.nextId :=
  hP.issue slot (hP.disarm h slot) (by rwa [Slots.nextId_disarm])

end Persists

/-! ## Calls -/

namespace Recognizer

/-- A callback empties a slot at most. -/
theorem onTimer_keeps {P : Slots → Queue → Prop}
    (hvacate : ∀ s q slot, P s q → P (s.set slot none) q) {r : Recognizer Queue}
    (h : P r.context.slots r.timers) (slot : Slot) (ticket : Ticket) :
    P (r.onTimer slot ticket).next.context.slots (r.onTimer slot ticket).next.timers := by
  rw [timers_onTimer]
  by_cases hl : r.context.slots.get? slot = some ticket
  · rw [slots_onTimer_of_live hl]
    exact hvacate _ _ slot h
  · rw [(onTimer_of_stale hl).1]
    exact h

/-- From the sample of a call to its end slots are armed, while there are tickets, and disarmed, or
the host empties one. -/
theorem Stocked.keeps {P : Slots → Queue → Prop}
    (harm : ∀ s q slot, P s q → q.nextId.toNat + 1 < 2 ^ 64 → P (s.arm slot q).1 (s.arm slot q).2)
    (hdisarm : ∀ s q slot, P s q → P (s.disarm slot q).1 (s.disarm slot q).2)
    (hvacate : ∀ s q slot, P s q → P (s.set slot none) q)
    {r : Recognizer Queue} {c : TimedCall} {rest : List TimedCall} (hr : r.Stocked (c :: rest))
    (h : P (r.facing c).context.slots (r.facing c).timers) :
    P (r.performTimed c).next.context.slots (r.performTimed c).next.timers := by
  rcases c.isDriven_or_eq with driven | ⟨slot, ticket, rfl⟩
  · obtain ⟨d, hd⟩ := performTimed_does hr.standard driven
    have hroom := hr.room_call
    rw [hd.schedulingsOf_eq, ← nextId_facing] at hroom
    rw [hd.slots, hd.timers]
    exact d.apply_keeps_of_room harm hdisarm (v := (r.facing c).stance) h hroom
  · exact onTimer_keeps hvacate h slot ticket

/-- What can be said of the live tickets of a recognizer and of its counter. -/
def Meets (P : Slots → UInt64 → Prop) (r : Recognizer Queue) : Prop :=
  P r.context.slots r.timers.nextId

end Recognizer

namespace Persists

variable {P : Slots → UInt64 → Prop} {r : Recognizer Queue}

theorem onTimer (hP : Persists P) (h : r.Meets P) (slot : Slot) (ticket : Ticket) :
    (r.onTimer slot ticket).next.Meets P :=
  Recognizer.onTimer_keeps (P := fun s q => P s q.nextId) (fun _ _ slot h => hP.clear slot h) h slot
    ticket

/-- A callback that is popped leaves the counter as it is. -/
theorem deliver (hP : Persists P) (h : r.Meets P) {time : Time} {c : Callback} {rest : Queue}
    (hp : r.timers.popDue? time = some (c, rest)) :
    Recognizer.Meets P { r with timers := rest } ∧
      ({ r with timers := rest }.onTimer c.slot c.ticket).next.Meets P := by
  have htaker : Recognizer.Meets P { r with timers := rest } := by
    obtain ⟨-, -, rfl⟩ := Queue.popDue?_eq_some hp
    exact h
  exact ⟨htaker, hP.onTimer htaker c.slot c.ticket⟩

theorem drain (hP : Persists P) (h : r.Meets P) (time : Time) (fuel : Nat) :
    (Recognizer.drain time fuel r).next.Meets P :=
  Recognizer.drain_keeps (P := Recognizer.Meets P) (fun _ _ _ hp h => (hP.deliver h hp).2) fuel h

/-- It holds whenever a callback is delivered. -/
theorem deliveries (hP : Persists P) (h : r.Meets P) (time : Time) (fuel : Nat) :
    ∀ p ∈ Recognizer.deliveries time fuel r, p.2.Meets P := by
  induction fuel generalizing r with
  | zero => exact List.forall_mem_nil _
  | succ fuel ih =>
    simp only [Recognizer.deliveries]
    split
    · exact List.forall_mem_nil _
    · rename_i c rest hp
      obtain ⟨htaker, hnext⟩ := hP.deliver h hp
      exact List.forall_mem_cons.2 ⟨htaker, ih hnext⟩

/-- It holds when the sample of a call comes. -/
theorem facing (hP : Persists P) (h : r.Meets P) (c : TimedCall) : (r.facing c).Meets P := by
  unfold Recognizer.facing
  split
  · exact hP.drain h _ _
  · exact h

/-- From there to the end of the call it is kept, as long as there are tickets. -/
theorem of_facing (hP : Persists P) {c : TimedCall} {rest : List TimedCall}
    (hr : r.Stocked (c :: rest)) (h : (r.facing c).Meets P) : (r.performTimed c).next.Meets P :=
  hr.keeps (P := fun s q => P s q.nextId) (fun _ _ slot h room => hP.arm h slot room)
    (fun _ _ slot h => hP.disarm h slot) (fun _ _ slot h => hP.clear slot h) h

theorem call (hP : Persists P) {c : TimedCall} {rest : List TimedCall}
    (hr : r.Stocked (c :: rest)) (h : r.Meets P) : (r.performTimed c).next.Meets P :=
  hP.of_facing hr (hP.facing h c)

/-- A run keeps it, as long as there are tickets. -/
theorem run (hP : Persists P) {first second : List TimedCall} (hr : r.Stocked (first ++ second))
    (h : r.Meets P) : (Recognizer.after Recognizer.performTimed r first).Meets P := by
  induction first generalizing r with
  | nil => exact h
  | cons c rest ih => exact ih hr.next (hP.call hr h)

end Persists

/-! ## Live tickets -/

/-- The ticket was handed out, and is live in these slots at most. -/
def Confined (allowed : Slot → Prop) (ticket : Ticket) (s : Slots) (n : UInt64) : Prop :=
  ticket.raw < n ∧ ∀ slot, s.get? slot = some ticket → allowed slot

theorem persists_confined (allowed : Slot → Prop) (ticket : Ticket) :
    Persists (Confined allowed ticket) where
  clear := by
    rintro s n slot ⟨hissued, hslots⟩
    exact ⟨hissued, fun other hlive => hslots other (Slots.get?_set_none_eq_some.1 hlive).2⟩
  issue := by
    rintro s n slot ⟨hissued, hslots⟩ room
    rw [UInt64.lt_iff_toNat_lt] at hissued
    refine ⟨?_, fun other hlive => ?_⟩
    · rw [UInt64.lt_iff_toNat_lt, Ticket.toNat_succ room]
      omega
    · rcases Slots.get?_set_some_eq_some.1 hlive with ⟨-, rfl⟩ | ⟨-, hold⟩
      · -- A ticket that was handed out is not the next one.
        exact absurd hissued (Nat.lt_irrefl _)
      · exact hslots other hold

/-- Every live ticket was handed out, and is live in one slot only. -/
def Issued (s : Slots) (n : UInt64) : Prop :=
  ∀ slot ticket, s.get? slot = some ticket → Confined (· = slot) ticket s n

theorem persists_issued : Persists Issued where
  clear := by
    intro s n slot h other ticket hlive
    have hold := (Slots.get?_set_none_eq_some.1 hlive).2
    exact (persists_confined _ ticket).clear slot (h other ticket hold)
  issue := by
    intro s n slot h room other ticket hlive
    rcases Slots.get?_set_some_eq_some.1 hlive with ⟨rfl, rfl⟩ | ⟨-, hold⟩
    · refine ⟨?_, fun third hthird => ?_⟩
      · rw [UInt64.lt_iff_toNat_lt, Ticket.toNat_succ room]
        exact Nat.lt_succ_self _
      · rcases Slots.get?_set_some_eq_some.1 hthird with ⟨heq, -⟩ | ⟨-, hold⟩
        · exact heq
        · -- All that are live in other slots are below the counter.
          exact absurd (UInt64.lt_iff_toNat_lt.1 (h third _ hold).1) (Nat.lt_irrefl _)
    · exact (persists_confined _ ticket).issue slot (h other ticket hold) room

theorem issued_new (config : Config) (start : Time) :
    (Recognizer.new config (Queue.startingAt start)).Meets Issued := by
  intro slot ticket hlive
  cases slot <;> cases hlive

end Trackpad
