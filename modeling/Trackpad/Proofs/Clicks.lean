import Trackpad.Proofs.Ledger

/-!
# Clicks — the callback that a left click belongs to

No sample sends a left click, only callbacks do, so each left click of a run belongs to the ticket
of a callback: `clickers` lists these tickets. A ticket that was handed out and is no longer that of
a pending click is `Spent`. Since no ticket is handed out twice it remains spent, and no left click
belongs to it ever again (`Ready.not_mem_clickersIn`).
-/

namespace Trackpad

/-! ## Left clicks of a call -/

theorem Deed.click_not_mem_sends {d : Deed} {c : Context} {slop : Float} {s : Sample}
    (hf : d.Fits c slop s) : Command.click .left ∉ d.sends := by
  cases d with
  | wheel cmd | scrollTwo cmd =>
    intro hmem
    rw [sends, List.mem_singleton] at hmem
    have hwheel := hf.2
    rw [← hmem] at hwheel
    exact hwheel
  | liftTwo clicks => cases clicks <;> simp [sends]
  | _ => simp [sends]

namespace Recognizer

theorem Does.click_not_mem_sends {r : Recognizer Queue} {c : TimedCall} {d : Deed}
    (h : r.Does c d) : Command.click .left ∉ d.sends := by
  have hfits := h.fits
  split at hfits
  · exact d.click_not_mem_sends hfits
  · rcases hfits with rfl | ⟨rfl, -⟩ <;> simp [Deed.sends]

/-- The tickets of the callbacks that send a left click, each as often as it sends one. -/
def clicking (ps : List (Callback × Recognizer Queue)) : List Ticket :=
  ps.flatMap fun p =>
    List.replicate ((p.2.onTimer p.1.slot p.1.ticket).sent.count (.click .left)) p.1.ticket

/-- The tickets that the left clicks of a call belong to. -/
def clickers (r : Recognizer Queue) (c : TimedCall) : List Ticket := clicking (r.delivered c)

/-- The tickets that the left clicks of a run belong to. -/
def clickersIn (r : Recognizer Queue) : List TimedCall → List Ticket
  | [] => []
  | c :: rest => r.clickers c ++ clickersIn (r.performTimed c).next rest

/-- Before its sample, a call sends one left click for each of its clickers. -/
theorem count_lapse (r : Recognizer Queue) (c : TimedCall) :
    (r.lapse c).count (.click .left) = (r.clickers c).length := by
  simp [lapse, clickers, clicking, List.count_flatMap, List.length_flatMap, Function.comp_def]

/-- A call sends no other left click. -/
theorem count_sent {r : Recognizer Queue} {c : TimedCall} {rest : List TimedCall}
    (h : r.Ready (c :: rest)) :
    (r.performTimed c).sent.count (.click .left) = (r.clickers c).length := by
  obtain ⟨d, hd⟩ := h.does
  rw [hd.sent, List.count_append, List.count_eq_zero.2 hd.click_not_mem_sends, count_lapse]
  rfl

theorem count_sentIn {r : Recognizer Queue} {calls : List TimedCall} (h : r.Ready calls) :
    (sentIn performTimed r calls).count (.click .left) = (clickersIn r calls).length := by
  induction calls generalizing r with
  | nil => rfl
  | cons c rest ih =>
    rw [sentIn_cons, List.count_append, count_sent h, ih h.next, clickersIn, List.length_append]

/-- Only the callback of a postponed click sends one. -/
theorem slot_of_click {r : Recognizer Queue} {slot : Slot} {ticket : Ticket}
    (h : Command.click .left ∈ (r.onTimer slot ticket).sent) : slot = .delayedClick := by
  by_cases hl : r.context.slots.get? slot = some ticket
  · rw [(onTimer_of_live hl).2] at h
    cases slot with
    | delayedClick => rfl
    | dragTimeout =>
      simp only [Stance.expirySends] at h
      split at h <;> simp at h
    | _ => simp [Stance.expirySends] at h
  · rw [(onTimer_of_stale hl).2] at h
    simp at h

/-- What is delivered was pending. -/
theorem pending_of_mem_deliveries {time : Time} {fuel : Nat} {r : Recognizer Queue} :
    ∀ p ∈ deliveries time fuel r, p.1 ∈ r.timers.pending := by
  induction fuel generalizing r with
  | zero => exact List.forall_mem_nil _
  | succ fuel ih =>
    simp only [deliveries]
    split
    · exact List.forall_mem_nil _
    · rename_i c rest hp
      obtain ⟨hc, -, rfl⟩ := Queue.popDue?_eq_some hp
      intro p hmem
      rcases List.mem_cons.1 hmem with rfl | hmem
      · exact hc
      · have hlater := ih p hmem
        rw [timers_onTimer] at hlater
        exact List.mem_of_mem_erase hlater

/-- What clicks was a pending click. -/
theorem pending_of_mem_clicking {time : Time} {fuel : Nat} {r : Recognizer Queue} {ticket : Ticket}
    (h : ticket ∈ clicking (deliveries time fuel r)) :
    ∃ deadline, (⟨.delayedClick, ticket, deadline⟩ : Callback) ∈ r.timers.pending := by
  obtain ⟨⟨e, taker⟩, hmem, hrep⟩ := List.mem_flatMap.1 h
  obtain ⟨hcount, rfl⟩ := List.mem_replicate.1 hrep
  have hslot : e.slot = .delayedClick :=
    slot_of_click (List.count_pos_iff.1 (Nat.pos_of_ne_zero hcount))
  refine ⟨e.deadline, ?_⟩
  rw [← hslot]
  exact pending_of_mem_deliveries _ hmem

theorem pending_of_mem_clickers {r : Recognizer Queue} {c : TimedCall} {ticket : Ticket}
    (h : ticket ∈ r.clickers c) :
    ∃ deadline, (⟨.delayedClick, ticket, deadline⟩ : Callback) ∈ r.timers.pending := by
  unfold clickers delivered at h
  split at h
  · exact pending_of_mem_clicking h
  · cases h

end Recognizer

/-! ## Spent tickets -/

/-- The ticket was handed out, and no click is pending by it. -/
structure Spent (ticket : Ticket) (s : Slots) (q : Queue) : Prop where
  issued : ticket.raw.toNat < q.nextId.toNat
  gone : s.get? .delayedClick ≠ some ticket

theorem spent_iff {ticket : Ticket} {s : Slots} {q : Queue} :
    Spent ticket s q ↔ Confined (· ≠ .delayedClick) ticket s q.nextId := by
  constructor
  · rintro ⟨hissued, hgone⟩
    exact ⟨UInt64.lt_iff_toNat_lt.2 hissued, fun slot hlive hslot => hgone (hslot ▸ hlive)⟩
  · rintro ⟨hissued, hslots⟩
    exact ⟨UInt64.lt_iff_toNat_lt.1 hissued, fun hlive => hslots _ hlive rfl⟩

namespace Recognizer

def IsSpent (r : Recognizer Queue) (ticket : Ticket) : Prop :=
  Spent ticket r.context.slots r.timers

namespace Tracked

variable {r : Recognizer Queue} {ticket : Ticket}

theorem not_mem_clickers (h : r.Tracked) (hs : r.IsSpent ticket) (c : TimedCall) :
    ticket ∉ r.clickers c := by
  intro hmem
  obtain ⟨deadline, hp⟩ := pending_of_mem_clickers hmem
  exact hs.gone (h.agree.live hp)

/-- What is live when the sample of a call comes was pending, and is not due. -/
theorem live_facing (h : r.Tracked) {c : TimedCall} {slot : Slot} :
    (r.facing c).context.slots.get? slot = some ticket ↔
      ∃ deadline, (⟨slot, ticket, deadline⟩ : Callback) ∈ r.timers.pending ∧
        ¬c.Lapses deadline := by
  rw [(h.facing c).agree.live_iff]
  simp only [mem_pending_facing]

/-- A click that its callback has been delivered for, or that never was pending, is spent. -/
theorem spent_facing (h : r.Tracked) {c : TimedCall}
    (hid : ticket.raw.toNat < r.timers.nextId.toNat)
    (hgone : ∀ deadline, (⟨.delayedClick, ticket, deadline⟩ : Callback) ∈ r.timers.pending →
      c.Lapses deadline) : (r.facing c).IsSpent ticket := by
  refine ⟨by rwa [nextId_facing], ?_⟩
  intro hl
  obtain ⟨deadline, hmem, hlapses⟩ := h.live_facing.1 hl
  exact hlapses (hgone deadline hmem)

end Tracked

namespace Ready

variable {r : Recognizer Queue} {ticket : Ticket} {c : TimedCall} {rest : List TimedCall}

/-- What is spent when the sample of a call comes is so after the call. -/
theorem spent_of_facing (h : r.Ready (c :: rest)) (hs : (r.facing c).IsSpent ticket) :
    (r.performTimed c).next.IsSpent ticket :=
  spent_iff.2 ((persists_confined _ ticket).of_facing h.stocked (spent_iff.1 hs))

theorem spent_next (h : r.Ready (c :: rest)) (hs : r.IsSpent ticket) :
    (r.performTimed c).next.IsSpent ticket :=
  h.spent_of_facing
    (h.tracked.spent_facing hs.issued fun _ hp => absurd (h.tracked.agree.live hp) hs.gone)

/-- No left click ever belongs to a spent ticket. -/
theorem not_mem_clickersIn {calls : List TimedCall} (h : r.Ready calls) (hs : r.IsSpent ticket) :
    ticket ∉ clickersIn r calls := by
  induction calls generalizing r with
  | nil => exact List.not_mem_nil
  | cons c rest ih =>
    simp only [clickersIn, List.mem_append, not_or]
    exact ⟨h.tracked.not_mem_clickers hs c, ih h.next (h.spent_next hs)⟩

end Ready

end Recognizer

end Trackpad
