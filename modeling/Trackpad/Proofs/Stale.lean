import Trackpad.Proofs.Ledger

/-!
# Stale — a callback is let through once

A host delivers callbacks through `onTimer`, and so does a recognizer over a queue when it advances
the clock. Here both count (`Recognizer.delivers`), and the host may deliver what it likes: a
callback that has gone off already, the same one twice, to another slot, or one that never was
scheduled.

A ticket that was handed out and is live in no slot is dead (`Recognizer.IsDead`). What is let
through is dead from then on, and so is what is superseded, disarmed or dropped. The dead stay dead,
because the counter hands out no ticket twice, and nothing comes of delivering them.
-/

namespace Trackpad

namespace Recognizer

/-- A callback, with the recognizer that it is delivered to. -/
structure Delivery where
  slot : Slot
  ticket : Ticket
  taker : Recognizer Queue

namespace Delivery

/-- The slots let the callback through. -/
def IsAccepted (d : Delivery) : Prop := (d.taker.context.slots.accept? d.slot d.ticket).isSome = true

instance (d : Delivery) : Decidable d.IsAccepted := inferInstanceAs (Decidable (_ = true))

/-- Nothing comes of the delivery: it is answered with false, changes nothing and sends nothing. -/
def IsDropped (d : Delivery) : Prop :=
  (d.taker.onTimer d.slot d.ticket).value = false ∧
    (d.taker.onTimer d.slot d.ticket).next = d.taker ∧ (d.taker.onTimer d.slot d.ticket).sent = []

theorem isAccepted_iff {d : Delivery} :
    d.IsAccepted ↔ d.taker.context.slots.get? d.slot = some d.ticket := by
  rw [IsAccepted, Option.isSome_iff_ne_none, ne_eq, Slots.accept?_eq_none_iff, not_not]

/-- What is not let through is dropped. -/
theorem isDropped_of_not_isAccepted {d : Delivery} (h : ¬d.IsAccepted) : d.IsDropped := by
  have hstale : d.taker.context.slots.get? d.slot ≠ some d.ticket := mt isAccepted_iff.2 h
  refine ⟨?_, onTimer_of_stale hstale⟩
  rw [onTimer, Turn.deliver_of_stale (t := d.taker.turn) hstale]
  rfl

end Delivery

/-- A callback that the clock delivers. -/
def Delivery.ofDue (p : Callback × Recognizer Queue) : Delivery := ⟨p.1.slot, p.1.ticket, p.2⟩

/-- The callbacks that a call delivers, by the host or by the clock. -/
def delivers (r : Recognizer Queue) : TimedCall → List Delivery
  | .plain (.onTimer slot ticket) => [⟨slot, ticket, r⟩]
  | c => (r.delivered c).map .ofDue

theorem delivers_of_driven (r : Recognizer Queue) {c : TimedCall} (driven : c.IsDriven) :
    r.delivers c = (r.delivered c).map .ofDue := by
  unfold delivers
  split
  · exact driven.elim
  · rfl

/-- Those of them that are let through, each by its slot and its ticket. -/
def accepted (ds : List Delivery) : List (Slot × Ticket) :=
  (ds.filter fun d => d.IsAccepted).map fun d => (d.slot, d.ticket)

/-- The callbacks that a run lets through, in their order. -/
def acceptedIn (r : Recognizer Queue) : List TimedCall → List (Slot × Ticket)
  | [] => []
  | c :: rest => accepted (r.delivers c) ++ acceptedIn (r.performTimed c).next rest

/-- The ticket was handed out, and is live in no slot. -/
def IsDead (r : Recognizer Queue) (ticket : Ticket) : Prop :=
  ticket.raw < r.timers.nextId ∧ ∀ slot, r.context.slots.get? slot ≠ some ticket

/-- Whatever call comes next: if it delivers the ticket, to whichever slot, nothing comes of it. -/
def Ignores (r : Recognizer Queue) (ticket : Ticket) : Prop :=
  ∀ c, ∀ d ∈ r.delivers c, d.ticket = ticket → d.IsDropped

theorem mem_accepted {ds : List Delivery} {p : Slot × Ticket} :
    p ∈ accepted ds ↔
      ∃ d ∈ ds, d.slot = p.1 ∧ d.ticket = p.2 ∧ d.taker.context.slots.get? p.1 = some p.2 := by
  simp only [accepted, List.mem_map, List.mem_filter, decide_eq_true_eq, Delivery.isAccepted_iff]
  constructor
  · rintro ⟨d, ⟨hd, hlive⟩, rfl⟩
    exact ⟨d, hd, rfl, rfl, hlive⟩
  · rintro ⟨d, hd, hslot, hticket, hlive⟩
    exact ⟨d, ⟨hd, by rwa [hslot, hticket]⟩, Prod.ext hslot hticket⟩

theorem accepted_cons (d : Delivery) (ds : List Delivery) :
    accepted (d :: ds) = accepted [d] ++ accepted ds := by
  simp only [accepted, List.filter_cons, List.filter_nil]
  split <;> rfl

theorem nodup_accepted_singleton (d : Delivery) : ((accepted [d]).map Prod.snd).Nodup := by
  simp only [accepted, List.filter_cons, List.filter_nil]
  split
  · exact List.nodup_singleton _
  · exact List.nodup_nil

end Recognizer

namespace Persists

variable {P : Slots → UInt64 → Prop} {r : Recognizer Queue}

/-- It holds whenever a call delivers a callback. -/
theorem delivers (hP : Persists P) (h : r.Meets P) (c : TimedCall) :
    ∀ d ∈ r.delivers c, d.taker.Meets P := by
  rcases c.isDriven_or_eq with driven | ⟨slot, ticket, rfl⟩
  · rw [r.delivers_of_driven driven]
    refine List.forall_mem_map.2 ?_
    unfold Recognizer.delivered
    split
    · exact hP.deliveries h _ _
    · exact List.forall_mem_nil _
  · exact List.forall_mem_singleton.2 h

end Persists

namespace Recognizer

variable {r : Recognizer Queue} {c : TimedCall} {rest calls : List TimedCall} {ticket : Ticket}

/-! ## What is let through -/

/-- A ticket is let through only for a slot that it may be live in. -/
theorem allowed_of_mem_accepted {allowed : Slot → Prop} {ds : List Delivery} {slot : Slot}
    (h : ∀ d ∈ ds, d.taker.Meets (Confined allowed ticket))
    (hmem : (slot, ticket) ∈ accepted ds) : allowed slot := by
  obtain ⟨d, hd, -, -, hlive⟩ := mem_accepted.1 hmem
  exact (h d hd).2 slot hlive

theorem Stocked.allowed_of_mem_acceptedIn {allowed : Slot → Prop} (hr : r.Stocked calls)
    (h : r.Meets (Confined allowed ticket)) {slot : Slot}
    (hmem : (slot, ticket) ∈ r.acceptedIn calls) : allowed slot := by
  have hP := persists_confined allowed ticket
  induction calls generalizing r with
  | nil => cases hmem
  | cons c rest ih =>
    rcases List.mem_append.1 hmem with hnow | hlater
    · exact allowed_of_mem_accepted (hP.delivers h c) hnow
    · exact ih hr.next (hP.call hr h) hlater

/-- Nothing comes of a dead ticket. -/
theorem IsDead.ignores (h : r.IsDead ticket) : r.Ignores ticket := by
  rintro c d hd rfl
  have htaker := (persists_confined (fun _ => False) d.ticket).delivers (r := r) h c d hd
  exact Delivery.isDropped_of_not_isAccepted fun haccepted =>
    htaker.2 d.slot (Delivery.isAccepted_iff.1 haccepted)

theorem Meets.isDead_onTimer (h : r.Meets Issued) {slot : Slot}
    (hlive : r.context.slots.get? slot = some ticket) :
    (r.onTimer slot ticket).next.IsDead ticket := by
  obtain ⟨hissued, honly⟩ := h slot ticket hlive
  refine ⟨by rwa [timers_onTimer], fun other hother => ?_⟩
  rw [slots_onTimer_of_live hlive] at hother
  obtain ⟨hne, hold⟩ := Slots.get?_set_none_eq_some.1 hother
  exact hne (honly other hold)

/-- Once the callback has been delivered, its ticket is dead, if it was let through. -/
theorem isDead_of_mem_singleton {d : Delivery} (h : d.taker.Meets Issued) :
    ∀ p ∈ accepted [d], (d.taker.onTimer d.slot d.ticket).next.IsDead p.2 := by
  intro p hmem
  obtain ⟨e, he, hslot, hticket, hlive⟩ := mem_accepted.1 hmem
  obtain rfl := List.mem_singleton.1 he
  rw [← hslot, ← hticket] at hlive
  rw [← hticket]
  exact h.isDead_onTimer hlive

/-- What is dead after the first of them is not among the others. -/
theorem nodup_append_of_isDead {first later : List (Slot × Ticket)}
    (hfirst : (first.map Prod.snd).Nodup) (hlater : (later.map Prod.snd).Nodup)
    (hdead : ∀ p ∈ first, r.IsDead p.2) (hnone : ∀ p ∈ later, ¬r.IsDead p.2) :
    ((first ++ later).map Prod.snd).Nodup := by
  rw [List.map_append]
  refine List.nodup_append.2 ⟨hfirst, hlater, ?_⟩
  intro t ht u hu heq
  obtain ⟨p, hp, rfl⟩ := List.mem_map.1 ht
  obtain ⟨q, hq, rfl⟩ := List.mem_map.1 hu
  exact hnone q hq (heq ▸ hdead p hp)

/-- The clock lets no ticket through twice, and those that it lets through are dead then. -/
theorem Meets.accepted_deliveries (h : r.Meets Issued) (time : Time) (fuel : Nat) :
    let ps := accepted ((deliveries time fuel r).map .ofDue)
    (ps.map Prod.snd).Nodup ∧ ∀ p ∈ ps, (drain time fuel r).next.IsDead p.2 := by
  induction fuel generalizing r with
  | zero => exact ⟨List.nodup_nil, List.forall_mem_nil _⟩
  | succ fuel ih =>
    cases hp : r.timers.popDue? time with
    | none =>
      simp only [deliveries, drain, hp]
      exact ⟨List.nodup_nil, List.forall_mem_nil _⟩
    | some popped =>
      obtain ⟨c, rest⟩ := popped
      simp only [deliveries, drain, hp]
      obtain ⟨htaker, hnext⟩ := persists_issued.deliver h hp
      obtain ⟨hnodup, hdead⟩ := ih hnext
      have hfirst := isDead_of_mem_singleton (d := .ofDue (c, { r with timers := rest })) htaker
      rw [List.map_cons, accepted_cons]
      refine ⟨nodup_append_of_isDead (nodup_accepted_singleton _) hnodup hfirst ?_, ?_⟩
      · rintro ⟨slot, ticket⟩ hmem hgone
        have hrest := (persists_confined (fun _ => False) ticket).deliveries hgone time fuel
        exact allowed_of_mem_accepted (List.forall_mem_map.2 hrest) hmem
      · refine List.forall_mem_append.2 ⟨fun p hmem => ?_, hdead⟩
        exact (persists_confined _ p.2).drain (hfirst p hmem) time fuel

/-- A call lets no ticket through twice, and those that it lets through are dead then. -/
theorem Stocked.accepted_call (hr : r.Stocked (c :: rest)) (h : r.Meets Issued) :
    ((accepted (r.delivers c)).map Prod.snd).Nodup ∧
      ∀ p ∈ accepted (r.delivers c), (r.performTimed c).next.IsDead p.2 := by
  rcases c.isDriven_or_eq with driven | ⟨slot, ticket, rfl⟩
  · rw [r.delivers_of_driven driven]
    have hfacing : ((accepted ((r.delivered c).map .ofDue)).map Prod.snd).Nodup ∧
        ∀ p ∈ accepted ((r.delivered c).map .ofDue), (r.facing c).IsDead p.2 := by
      unfold delivered facing
      split
      · exact h.accepted_deliveries _ _
      · exact ⟨List.nodup_nil, List.forall_mem_nil _⟩
    exact ⟨hfacing.1, fun p hp => (persists_confined _ p.2).of_facing hr (hfacing.2 p hp)⟩
  · exact ⟨nodup_accepted_singleton _, isDead_of_mem_singleton (d := ⟨slot, ticket, r⟩) h⟩

/-- A run lets no ticket through twice. -/
theorem Stocked.nodup_acceptedIn (hr : r.Stocked calls) (h : r.Meets Issued) :
    ((r.acceptedIn calls).map Prod.snd).Nodup := by
  induction calls generalizing r with
  | nil => exact List.nodup_nil
  | cons c rest ih =>
    obtain ⟨hnodup, hdead⟩ := hr.accepted_call h
    refine nodup_append_of_isDead hnodup (ih hr.next (persists_issued.call hr h)) hdead ?_
    rintro ⟨slot, ticket⟩ hmem hgone
    have hnone : (r.performTimed c).next.Meets (Confined (fun _ => False) ticket) := hgone
    exact hr.next.allowed_of_mem_acceptedIn hnone hmem

/-- What a run lets through is dead at its end. -/
theorem Stocked.isDead_of_mem_acceptedIn {first second : List TimedCall}
    (hr : r.Stocked (first ++ second)) (h : r.Meets Issued) :
    ∀ p ∈ r.acceptedIn first, (after performTimed r first).IsDead p.2 := by
  induction first generalizing r with
  | nil => exact List.forall_mem_nil _
  | cons c rest ih =>
    refine List.forall_mem_append.2 ⟨fun p hp => ?_, ih hr.next (persists_issued.call hr h)⟩
    have hnext : (r.performTimed c).next.Stocked (rest ++ second) := hr.next
    have hend : (after performTimed (r.performTimed c).next rest).IsDead p.2 :=
      (persists_confined _ p.2).run hnext ((hr.accepted_call h).2 p hp)
    exact hend

/-- **A callback is let through once, and is dead then.** Whatever samples, times and resets come,
and whatever callbacks the host delivers of its own accord, with any tickets: no ticket is let
through twice. Between any two calls, a ticket that is live in a slot is let through for no other
slot later; a ticket that was let through since an earlier moment is dead, and so is one that was
live in a slot then and is not now, because it was superseded, disarmed or dropped; and a ticket
that was dead is dead still, so nothing comes of delivering it, to whichever slot. The run schedules
fewer than `2 ^ 64` callbacks. -/
theorem accepted_once (config : Config) (start : Time) (calls : List TimedCall)
    (room : schedulings (new config (Queue.startingAt start)) calls < 2 ^ 64) :
    let begin := new config (Queue.startingAt start)
    ((begin.acceptedIn calls).map Prod.snd).Nodup ∧
    ∀ first second third, calls = first ++ second ++ third →
      let r := after performTimed begin first
      let q := after performTimed r second
      (∀ slot ticket, r.context.slots.get? slot = some ticket →
        ∀ other, (other, ticket) ∈ r.acceptedIn (second ++ third) → other = slot) ∧
      (∀ slot ticket, (slot, ticket) ∈ r.acceptedIn second → q.IsDead ticket) ∧
      (∀ slot ticket, r.context.slots.get? slot = some ticket →
        q.context.slots.get? slot ≠ some ticket → q.IsDead ticket) ∧
      ∀ ticket, r.IsDead ticket → q.IsDead ticket ∧ q.Ignores ticket := by
  intro begin
  have hbegin : begin.Stocked calls := Stocked.start room
  have hissued : begin.Meets Issued := issued_new config start
  refine ⟨hbegin.nodup_acceptedIn hissued, ?_⟩
  rintro first second third rfl r q
  rw [List.append_assoc] at hbegin
  have hr : r.Stocked (second ++ third) := hbegin.run
  have hir : r.Meets Issued := persists_issued.run hbegin hissued
  refine ⟨fun slot ticket hlive other hmem => ?_, fun slot ticket hmem => ?_,
    fun slot ticket hlive hgone => ?_, fun ticket hdead => ?_⟩
  · exact hr.allowed_of_mem_acceptedIn (hir slot ticket hlive) hmem
  · exact hr.isDead_of_mem_acceptedIn hir _ hmem
  · -- It could only be live in the slot that it has left.
    have hq : q.Meets (Confined (· = slot) ticket) :=
      (persists_confined _ ticket).run hr (hir slot ticket hlive)
    refine ⟨hq.1, fun other hother => ?_⟩
    obtain rfl := hq.2 other hother
    exact hgone hother
  · have hq : q.IsDead ticket := (persists_confined _ ticket).run hr hdead
    exact ⟨hq, hq.ignores⟩

/-- The host delivers the click of a tap early. Nothing comes of it when the clock delivers it once
more. -/
theorem ignores_after_early_click :
    let calls := TimedCall.tapping ⟨10, 10⟩ 100 140 ++ [.plain (.onTimer .delayedClick ⟨0⟩)]
    (after performTimed (new {} (Queue.startingAt 0)) calls).Ignores ⟨0⟩ := by
  intro calls
  have hall := accepted_once {} 0 calls (by decide +kernel)
  obtain ⟨-, haccepted, -⟩ := hall.2 [] calls [] (by simp)
  obtain ⟨-, -, -, hdead⟩ := hall.2 calls [] [] (by simp)
  rw [← List.append_nil calls, after_append]
  exact (hdead ⟨0⟩ (haccepted .delayedClick ⟨0⟩ (by decide +kernel))).2

end Recognizer

end Trackpad
