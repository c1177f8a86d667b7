import Trackpad.Proofs.Firing

/-!
# Fate — what becomes of every callback

Each operation of a queue keeps a balance: what was pending before it and what it schedules is what
is pending after it, what it fires, and what it drops (`perm_perform`). So over a run nothing is
lost and nothing comes twice (`perm_run`). The tickets of a run count up from the first one
(`map_ticket_gather`), so no two callbacks share one, and whoever asks for a ticket finds its one
callback in one of three places: pending, fired, or dropped.
-/

namespace Trackpad

namespace Queue

/-- What an operation takes on, with the ticket it hands out. -/
def scheduled (q : Queue) : Operation → List Callback
  | .schedule delay slot => [⟨slot, (q.schedule delay slot).1, q.now.plus delay.toMillis⟩]
  | _ => []

/-- What an operation drops. -/
def dropped (q : Queue) : Operation → List Callback
  | .cancel ticket => q.pending.filter fun c => c.ticket = ticket
  | _ => []

/-- Collects something from all operations of a run, each on the queue that it meets. -/
def gather (f : Queue → Operation → List Callback) (q : Queue) : List Operation → List Callback
  | [] => []
  | o :: rest => f q o ++ gather f (q.perform o).2 rest

/-- A run has dropped the callback: this was done by the first cancel that named its ticket while it
was pending. -/
def Dropped (q : Queue) (ops : List Operation) (c : Callback) : Prop :=
  ∃ before later, ops = before ++ .cancel c.ticket :: later ∧ c ∈ (q.run before).2.pending ∧
    ∀ earlier between, before = earlier ++ .cancel c.ticket :: between →
      c ∉ (q.run earlier).2.pending

/-! ## The balance -/

/-- Draining splits what was pending into what fires and what stays. -/
theorem perm_drain (time : Time) (fuel : Nat) (q : Queue) :
    ((drain time fuel q).1 ++ (drain time fuel q).2.pending).Perm q.pending := by
  induction fuel generalizing q with
  | zero => exact List.Perm.refl _
  | succ fuel ih =>
    simp only [drain]
    split
    · exact List.Perm.refl _
    · rename_i c rest hp
      obtain ⟨hc, -, rfl⟩ := popDue?_eq_some hp
      exact ((ih _).cons c).trans (List.perm_cons_erase hc).symm

theorem perm_perform (q : Queue) (o : Operation) :
    (q.pending ++ q.scheduled o).Perm
      ((q.perform o).2.pending ++ ((q.perform o).1 ++ q.dropped o)) := by
  cases o with
  | schedule delay slot =>
    simp only [perform, dropped, List.append_nil]
    exact List.Perm.refl _
  | cancel ticket =>
    have hsplit := List.filter_append_perm (fun c : Callback => c.ticket = ticket) q.pending
    simp only [← decide_not] at hsplit
    simp only [scheduled, perform, dropped, List.append_nil, List.nil_append]
    exact hsplit.symm.trans List.perm_append_comm
  | popDue time =>
    simp only [scheduled, perform, dropped, List.append_nil]
    split
    · rw [List.append_nil]
    · rename_i c rest hp
      obtain ⟨hc, -, rfl⟩ := popDue?_eq_some hp
      exact (List.perm_cons_erase hc).trans (List.perm_append_singleton c _).symm
  | advanceTo time =>
    simp only [scheduled, perform, dropped, List.append_nil]
    exact (q.perm_drain time q.pending.length).symm.trans List.perm_append_comm
  | moveTo time => exact List.Perm.refl _

theorem perm_run (q : Queue) (ops : List Operation) :
    (q.pending ++ q.gather scheduled ops).Perm
      ((q.run ops).2.pending ++ ((q.run ops).1 ++ q.gather dropped ops)) := by
  induction ops generalizing q with
  | nil => exact List.Perm.refl _
  | cons o rest ih =>
    rw [List.perm_iff_count]
    intro c
    have hfirst := (q.perm_perform o).count_eq c
    have hothers := (ih (q.perform o).2).count_eq c
    simp only [gather, run, List.count_append] at hfirst hothers ⊢
    omega

/-! ## The tickets of a run -/

/-- A run hands out one ticket after the other. -/
theorem map_ticket_gather {q : Queue} {ops : List Operation}
    (room : q.nextId.toNat + Operation.schedulings ops < 2 ^ 64) :
    (q.gather scheduled ops).map (fun c => c.ticket.raw.toNat) =
      List.range' q.nextId.toNat (Operation.schedulings ops) := by
  induction ops generalizing q with
  | nil => rfl
  | cons o rest ih =>
    have hfirst : (q.scheduled o).map (fun c => c.ticket.raw.toNat) =
        List.range' q.nextId.toNat (Operation.schedulings [o]) := by
      cases o <;> rfl
    rw [Operation.schedulings_cons] at room ⊢
    have hroom : q.nextId.toNat + Operation.schedulings [o] < 2 ^ 64 := by omega
    have hnext := toNat_nextId_perform hroom
    rw [gather, List.map_append, hfirst, ih (by omega), hnext, List.range'_append_1]

/-- Of callbacks with different tickets, one bears a given ticket. -/
theorem filter_ticket_eq_singleton {cs : List Callback}
    (h : (cs.map fun c => c.ticket.raw.toNat).Nodup) {c : Callback} (hc : c ∈ cs) :
    (cs.filter fun d => d.ticket = c.ticket) = [c] := by
  have hsame : ∀ d ∈ cs, decide (d.ticket = c.ticket) = (d == c) := by
    intro d hd
    rw [Bool.eq_iff_iff, decide_eq_true_eq, beq_iff_eq]
    refine ⟨fun ht => ?_, fun heq => congrArg _ heq⟩
    exact List.inj_on_of_nodup_map h hd hc (congrArg (fun t : Ticket => t.raw.toNat) ht)
  rw [List.filter_congr hsame, List.filter_beq, List.count_eq_one_of_mem (h.of_map _) hc]
  rfl

/-! ## What is dropped -/

theorem mem_dropped_iff {q : Queue} {o : Operation} {c : Callback} :
    c ∈ q.dropped o ↔ o = .cancel c.ticket ∧ c ∈ q.pending := by
  cases o with
  | cancel ticket =>
    simp only [dropped, List.mem_filter, decide_eq_true_eq, Operation.cancel.injEq]
    exact ⟨fun ⟨hc, ht⟩ => ⟨ht.symm, hc⟩, fun ⟨ht, hc⟩ => ⟨hc, ht.symm⟩⟩
  | _ => simp [dropped]

theorem mem_gather_dropped_iff {q : Queue} {ops : List Operation} {c : Callback} :
    c ∈ q.gather dropped ops ↔ q.Dropped ops c := by
  induction ops generalizing q with
  | nil => simp [gather, Dropped]
  | cons o rest ih =>
    rw [gather, List.mem_append, mem_dropped_iff, ih]
    constructor
    · intro h
      by_cases hfirst : o = .cancel c.ticket ∧ c ∈ q.pending
      · obtain ⟨rfl, hc⟩ := hfirst
        exact ⟨[], rest, rfl, hc, fun earlier between h => by simp at h⟩
      · obtain ⟨before, later, rfl, hc, hnone⟩ := h.resolve_left hfirst
        refine ⟨o :: before, later, rfl, hc, ?_⟩
        rintro (_ | ⟨o', earlier⟩) between heq
        · -- The first operation is no such cancel.
          obtain ⟨ho, -⟩ := List.cons.inj heq
          exact fun hpending => hfirst ⟨ho, hpending⟩
        · obtain ⟨rfl, hbefore⟩ := List.cons.inj heq
          exact hnone earlier between hbefore
    · rintro ⟨_ | ⟨o', before⟩, later, heq, hc, hnone⟩
      · obtain ⟨rfl, -⟩ := List.cons.inj heq
        exact .inl ⟨rfl, hc⟩
      · obtain ⟨rfl, rfl⟩ := List.cons.inj heq
        exact .inr ⟨before, later, rfl, hc, fun earlier between heq =>
          hnone (o :: earlier) between (congrArg (o :: ·) heq)⟩

/-! ## Advancing -/

/-- Advancing fires what is due, and nothing else. -/
theorem perm_advanceTo (q : Queue) (time : Time) : (q.advanceTo time).1.Perm (q.due time) := by
  have hdrain := q.perm_drain time q.pending.length
  have hsplit := List.filter_append_perm (fun c : Callback => c.deadline ≤ time) q.pending
  simp only [← decide_not, UInt64.not_le] at hsplit
  rw [pending_drain (Nat.le_refl _)] at hdrain
  exact (List.perm_append_right_iff _).1 (hdrain.trans hsplit.symm)

/-- A ticket that is not pending is dropped in vain. -/
theorem cancel_of_not_pending {q : Queue} {ticket : Ticket}
    (h : (q.pending.filter fun c => c.ticket = ticket) = []) : q.cancel ticket = q := by
  have hall : q.pending.filter (fun c => c.ticket ≠ ticket) = q.pending := by
    rw [List.filter_eq_self]
    intro c hc
    rw [List.filter_eq_nil_iff] at h
    simpa using h c hc
  rw [cancel, hall]

/-! ## Runs from an empty queue -/

section Fresh

variable {start : Time} {ops : List Operation} {c : Callback}

/-- All that was taken on is pending, has fired, or was dropped. -/
theorem perm_issued (start : Time) (ops : List Operation) :
    ((startingAt start).gather scheduled ops).Perm
      (((startingAt start).run ops).2.pending ++
        (((startingAt start).run ops).1 ++ (startingAt start).gather dropped ops)) :=
  (startingAt start).perm_run ops

theorem map_ticket_issued (room : Operation.schedulings ops < 2 ^ 64) :
    ((startingAt start).gather scheduled ops).map (fun c => c.ticket.raw.toNat) =
      List.range (Operation.schedulings ops) := by
  rw [List.range_eq_range']
  exact map_ticket_gather (q := startingAt start) (by show 0 + _ < _; omega)

/-- The one callback of a ticket is in one place. -/
theorem one_fate (room : Operation.schedulings ops < 2 ^ 64)
    (hc : c ∈ (startingAt start).gather scheduled ops) :
    let alike (cs : List Callback) := cs.filter fun d => d.ticket = c.ticket
    let fired := ((startingAt start).run ops).1
    let pending := ((startingAt start).run ops).2.pending
    (alike pending = [c] ∧ alike fired = [] ∧ ¬(startingAt start).Dropped ops c) ∨
    (alike pending = [] ∧ alike fired = [c] ∧ ¬(startingAt start).Dropped ops c) ∨
    (alike pending = [] ∧ alike fired = [] ∧ (startingAt start).Dropped ops c) := by
  intro alike fired pending
  let drops := (startingAt start).gather dropped ops
  have hnodup : (((startingAt start).gather scheduled ops).map
      fun c => c.ticket.raw.toNat).Nodup := map_ticket_issued room ▸ List.nodup_range
  -- There is one callback with this ticket, so the three lists hold one of them between them.
  have hall : alike pending ++ (alike fired ++ alike drops) = [c] := by
    have hp := (perm_issued start ops).filter fun d => d.ticket = c.ticket
    rw [filter_ticket_eq_singleton hnodup hc, List.filter_append, List.filter_append] at hp
    exact List.perm_singleton.1 hp.symm
  have hdropped : (startingAt start).Dropped ops c ↔ c ∈ alike drops := by
    rw [← mem_gather_dropped_iff, List.mem_filter, decide_eq_true_eq]
    exact (and_iff_left rfl).symm
  rw [hdropped]
  rcases List.append_eq_singleton_iff.1 hall with ⟨hp, hothers⟩ | ⟨hp, hothers⟩
  · rcases List.append_eq_singleton_iff.1 hothers with ⟨hf, hd⟩ | ⟨hf, hd⟩
    · exact .inr (.inr ⟨hp, hf, hd ▸ List.mem_singleton_self c⟩)
    · exact .inr (.inl ⟨hp, hf, hd ▸ List.not_mem_nil⟩)
  · obtain ⟨hf, hd⟩ := List.append_eq_nil_iff.1 hothers
    exact .inl ⟨hp, hf, hd ▸ List.not_mem_nil⟩

/-- A ticket that has fired, was dropped or was never handed out is not pending. -/
theorem not_pending_of_spent (room : Operation.schedulings ops < 2 ^ 64) {ticket : Ticket}
    (h : (∃ c ∈ ((startingAt start).run ops).1, c.ticket = ticket) ∨
      (∃ c, (startingAt start).Dropped ops c ∧ c.ticket = ticket) ∨
      ∀ c ∈ (startingAt start).gather scheduled ops, c.ticket ≠ ticket) :
    (((startingAt start).run ops).2.pending.filter fun c => c.ticket = ticket) = [] := by
  have hmem {c : Callback} := (perm_issued start ops).mem_iff (a := c)
  simp only [List.mem_append, mem_gather_dropped_iff] at hmem
  rcases h with ⟨c, hc, rfl⟩ | ⟨c, hc, rfl⟩ | hnone
  · rcases one_fate room (hmem.2 (.inr (.inl hc))) with ⟨-, hf, -⟩ | ⟨hp, -⟩ | ⟨hp, -⟩
    · rw [List.filter_eq_nil_iff] at hf
      exact absurd (decide_eq_true rfl) (hf c hc)
    · exact hp
    · exact hp
  · rcases one_fate room (hmem.2 (.inr (.inr hc))) with ⟨-, -, hd⟩ | ⟨hp, -⟩ | ⟨hp, -⟩
    · exact absurd hc hd
    · exact hp
    · exact hp
  · rw [List.filter_eq_nil_iff]
    intro c hc
    rw [decide_eq_true_eq]
    exact hnone c (hmem.2 (.inl hc))

end Fresh

/-- **Every callback has one fate.** Whatever is scheduled, dropped and popped, and wherever the
clock is moved, as long as fewer than `2 ^ 64` callbacks are scheduled: the tickets handed out count
up from zero, and for each callback that was taken on exactly one of these holds. It is pending,
once and as it was scheduled; or it has fired, once; or it was dropped, by the first cancel that
named its ticket while it was pending. Advancing fires what is due by the time, by deadline and then
by ticket, and keeps the others in their order. To cancel a ticket that has fired, was dropped or
was never handed out changes nothing, and nothing that comes later. -/
theorem every_callback_has_one_fate (start : Time) (ops : List Operation)
    (room : Operation.schedulings ops < 2 ^ 64) :
    let begin := startingAt start
    let fired := (begin.run ops).1
    let q := (begin.run ops).2
    let issued := begin.gather scheduled ops
    issued.map (fun c => c.ticket.raw.toNat) = List.range (Operation.schedulings ops) ∧
    (∀ c ∈ issued,
      let alike (cs : List Callback) := cs.filter fun d => d.ticket = c.ticket
      (alike q.pending = [c] ∧ alike fired = [] ∧ ¬begin.Dropped ops c) ∨
      (alike q.pending = [] ∧ alike fired = [c] ∧ ¬begin.Dropped ops c) ∨
      (alike q.pending = [] ∧ alike fired = [] ∧ begin.Dropped ops c)) ∧
    (∀ time,
      (q.advanceTo time).1.Perm (q.pending.filter fun c => c.deadline ≤ time) ∧
      (q.advanceTo time).1.Pairwise (fun c d =>
        c.deadline < d.deadline ∨ (c.deadline = d.deadline ∧ c.ticket.raw < d.ticket.raw)) ∧
      (q.advanceTo time).2.pending = q.pending.filter fun c => time < c.deadline) ∧
    (∀ ticket,
      (∃ c ∈ fired, c.ticket = ticket) ∨ (∃ c, begin.Dropped ops c ∧ c.ticket = ticket) ∨
          (∀ c ∈ issued, c.ticket ≠ ticket) →
        q.cancel ticket = q ∧
        ∀ later, begin.run (ops ++ .cancel ticket :: later) = begin.run (ops ++ later)) := by
  intro begin fired q issued
  have horder : Orderly fired q := (Orderly.start start).run (by show 0 + _ < _; omega)
  refine ⟨map_ticket_issued room, fun c hc => one_fate room hc, fun time => ?_, fun ticket h => ?_⟩
  · refine ⟨q.perm_advanceTo time, ?_, q.pending_advanceTo time⟩
    have hsorted := (List.pairwise_append.1 (horder.drain time q.pending.length).sorted).2.1
    refine hsorted.imp fun {c d} hbefore => ?_
    rw [UInt64.lt_iff_toNat_lt, UInt64.lt_iff_toNat_lt, ← UInt64.toNat_inj]
    exact Callback.isBefore_iff.1 hbefore
  · have hcancel : q.cancel ticket = q := cancel_of_not_pending (not_pending_of_spent room h)
    refine ⟨hcancel, fun later => ?_⟩
    rw [run_append, run_append]
    show (fired ++ ((q.cancel ticket).run later).1, ((q.cancel ticket).run later).2) = _
    rw [hcancel]

/-- Of four callbacks two are pending, one has fired, and one was dropped; to cancel it once more
changes nothing. -/
theorem every_callback_has_one_fate_of_four :
    let ops : List Operation := [.schedule (.ofMillis 150) .delayedClick,
      .schedule (.ofMillis 100) .dragTimeout, .schedule (.ofMillis 50) .doubleTapExpiry,
      .moveTo 500, .cancel ⟨2⟩, .cancel ⟨3⟩, .popDue 120, .schedule (.ofMillis 0) .delayedClick]
    let begin := startingAt 0
    let q := (begin.run ops).2
    Operation.schedulings ops < 2 ^ 64 ∧
      q.pending = [⟨.delayedClick, ⟨0⟩, 150⟩, ⟨.delayedClick, ⟨3⟩, 500⟩] ∧
      (begin.run ops).1 = [⟨.dragTimeout, ⟨1⟩, 100⟩] ∧
      begin.Dropped ops ⟨.doubleTapExpiry, ⟨2⟩, 50⟩ ∧ q.cancel ⟨2⟩ = q := by
  intro ops begin q
  have room : Operation.schedulings ops < 2 ^ 64 := by decide
  obtain ⟨-, hfate, -, hcancel⟩ := every_callback_has_one_fate 0 ops room
  have hpending : q.pending = [⟨.delayedClick, ⟨0⟩, 150⟩, ⟨.delayedClick, ⟨3⟩, 500⟩] := by
    decide +kernel
  have hfired : (begin.run ops).1 = [⟨.dragTimeout, ⟨1⟩, 100⟩] := by decide +kernel
  have hdropped : begin.Dropped ops ⟨.doubleTapExpiry, ⟨2⟩, 50⟩ := by
    rcases hfate ⟨.doubleTapExpiry, ⟨2⟩, 50⟩ (by decide +kernel) with ⟨h, -⟩ | ⟨-, h, -⟩ | ⟨-, -, h⟩
    · exact absurd (hpending ▸ h) (by decide)
    · exact absurd (hfired ▸ h) (by decide)
    · exact h
  exact ⟨room, hpending, hfired, hdropped, (hcancel ⟨2⟩ (.inr (.inl ⟨_, hdropped, rfl⟩))).1⟩

end Queue

end Trackpad
