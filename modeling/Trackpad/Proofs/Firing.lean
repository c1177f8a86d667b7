import Trackpad.Proofs.Tickets

/-!
# Firing — the one order in which a queue fires

Callbacks are scheduled, dropped and popped in any order, and the clock may jump past deadlines
without firing anything. Still, all that ever fires comes out in one order: by deadline, then by
ticket. `Queue.Orderly` carries this through a run. What has fired comes before all that is pending,
its deadline is no later than the clock, and its ticket is below the counter. So whatever is
scheduled next comes after it as well: it is due no earlier than the clock, and its ticket is the
counter.
-/

namespace Trackpad

namespace Queue

inductive Operation where
  | schedule (delay : Duration) (slot : Slot)
  | cancel (ticket : Ticket)
  | popDue (time : Time)
  | advanceTo (time : Time)
  | moveTo (time : Time)
deriving DecidableEq

namespace Operation

def isSchedule : Operation → Bool
  | schedule .. => true
  | _ => false

/-- How many callbacks a run schedules. -/
def schedulings (ops : List Operation) : Nat := ops.countP isSchedule

end Operation

/-- What an operation fires, in order, and the queue after it. -/
def perform (q : Queue) : Operation → List Callback × Queue
  | .schedule delay slot => ([], (q.schedule delay slot).2)
  | .cancel ticket => ([], q.cancel ticket)
  | .popDue time =>
    match q.popDue? time with
    | none => ([], q)
    | some (c, rest) => ([c], rest)
  | .advanceTo time => q.advanceTo time
  | .moveTo time => ([], q.moveTo time)

/-- What a run fires, in order, and the queue at its end. -/
def run (q : Queue) : List Operation → List Callback × Queue
  | [] => ([], q)
  | o :: rest =>
    let first := q.perform o
    let others := run first.2 rest
    (first.1 ++ others.1, others.2)

theorem run_append (q : Queue) (first second : List Operation) :
    q.run (first ++ second) =
      ((q.run first).1 ++ ((q.run first).2.run second).1, ((q.run first).2.run second).2) := by
  induction first generalizing q with
  | nil => rfl
  | cons o rest ih => simp only [List.cons_append, run, ih, List.append_assoc]

theorem snd_run_append (q : Queue) (first second : List Operation) :
    (q.run (first ++ second)).2 = ((q.run first).2.run second).2 := by
  rw [run_append]

/-! ## The clock -/

theorem now_le_perform (q : Queue) (o : Operation) : q.now ≤ (q.perform o).2.now := by
  cases o with
  | schedule delay slot | cancel ticket => exact UInt64.le_refl _
  | popDue time =>
    simp only [perform]
    split
    · exact UInt64.le_refl _
    · rename_i c rest h
      exact (now_le_popDue? h).1
  | advanceTo time =>
    show q.now ≤ (q.advanceTo time).2.now
    rw [now_advanceTo]
    exact q.now_le_moveTo time
  | moveTo time => exact q.now_le_moveTo time

theorem now_le_run (q : Queue) (ops : List Operation) : q.now ≤ (q.run ops).2.now := by
  induction ops generalizing q with
  | nil => exact UInt64.le_refl _
  | cons o rest ih => exact UInt64.le_trans (q.now_le_perform o) (ih _)

/-! ## The order of what fires -/

/-- After `fired` has come out, the queue can go on in order. -/
structure Orderly (fired : List Callback) (q : Queue) : Prop where
  sorted : fired.Pairwise fun c d => c.isBefore d = true
  first : ∀ c ∈ fired, ∀ d ∈ q.pending, c.isBefore d = true
  past : ∀ c ∈ fired, c.deadline ≤ q.now ∧ c.ticket.raw.toNat < q.nextId.toNat
  tickets : q.Issued

namespace Orderly

variable {fired : List Callback} {q : Queue}

theorem start (time : Time) : Orderly [] (startingAt time) :=
  ⟨List.Pairwise.nil, nofun, nofun, List.nodup_nil, nofun⟩

/-- Callbacks may go and the clock may move on. -/
theorem shrink (h : Orderly fired q) {q' : Queue} (hsub : q'.pending.Sublist q.pending)
    (hid : q'.nextId = q.nextId) (hnow : q.now ≤ q'.now) : Orderly fired q' where
  sorted := h.sorted
  first := fun c hc d hd => h.first c hc d (hsub.subset hd)
  past := by
    intro c hc
    obtain ⟨hdeadline, hticket⟩ := h.past c hc
    exact ⟨UInt64.le_trans hdeadline hnow, hid ▸ hticket⟩
  tickets := h.tickets.shrink hsub hid

theorem schedule (h : Orderly fired q) (delay : Duration) (slot : Slot)
    (room : q.nextId.toNat + 1 < 2 ^ 64) : Orderly fired (q.schedule delay slot).2 := by
  have hnext : (q.nextId + 1).toNat = q.nextId.toNat + 1 := Ticket.toNat_succ room
  refine ⟨h.sorted, ?_, ?_, h.tickets.schedule delay slot room⟩
  · intro c hc d hd
    rcases mem_pending_schedule.1 hd with hd | rfl
    · exact h.first c hc d hd
    · obtain ⟨hdeadline, hticket⟩ := h.past c hc
      have hplus := q.now.le_plus delay.toMillis
      rw [UInt64.le_iff_toNat_le] at hdeadline hplus
      rw [Callback.isBefore_iff]
      show c.deadline.toNat < (q.now.plus delay.toMillis).toNat ∨
        (c.deadline.toNat = (q.now.plus delay.toMillis).toNat ∧
          c.ticket.raw.toNat < q.nextId.toNat)
      omega
  · intro c hc
    obtain ⟨hdeadline, hticket⟩ := h.past c hc
    refine ⟨hdeadline, ?_⟩
    show c.ticket.raw.toNat < (q.nextId + 1).toNat
    omega

/-- What is popped comes before all that stays: what is due with it is not before it and bears
another ticket, and the rest is due later. -/
theorem popped_first (h : Orderly fired q) {time : Time} {c : Callback} {rest : Queue}
    (hp : q.popDue? time = some (c, rest)) : ∀ d ∈ rest.pending, c.isBefore d = true := by
  obtain ⟨hc, hdue, rfl⟩ := popDue?_eq_some hp
  intro d hd
  obtain ⟨hd, hne⟩ := (h.tickets.mem_erase_iff hc).1 hd
  have hticket : c.ticket.raw.toNat ≠ d.ticket.raw.toNat :=
    fun heq => hne (congrArg Ticket.mk (UInt64.toNat_inj.1 heq)).symm
  rw [Callback.isBefore_iff]
  rw [UInt64.le_iff_toNat_le] at hdue
  by_cases hd' : d.deadline ≤ time
  · have hfirst := popDue?_first hp d hd hd'
    rw [Callback.isBefore_iff] at hfirst
    omega
  · rw [UInt64.le_iff_toNat_le] at hd'
    omega

theorem pop (h : Orderly fired q) {time : Time} {c : Callback} {rest : Queue}
    (hp : q.popDue? time = some (c, rest)) : Orderly (fired ++ [c]) rest := by
  have hfirst := h.popped_first hp
  have hnow := now_le_popDue? hp
  obtain ⟨hc, -, rfl⟩ := popDue?_eq_some hp
  have hrest : Orderly fired ⟨max q.now c.deadline, q.nextId, q.pending.erase c⟩ :=
    h.shrink List.erase_sublist rfl hnow.1
  refine ⟨?_, ?_, ?_, hrest.tickets⟩
  · refine List.pairwise_append.2 ⟨h.sorted, List.pairwise_singleton _ _, fun d hd e he => ?_⟩
    rw [List.mem_singleton.1 he]
    exact h.first d hd c hc
  · intro d hd
    rcases List.mem_append.1 hd with hd | hd
    · exact hrest.first d hd
    · rw [List.mem_singleton.1 hd]
      exact hfirst
  · intro d hd
    rcases List.mem_append.1 hd with hd | hd
    · exact hrest.past d hd
    · rw [List.mem_singleton.1 hd]
      exact ⟨hnow.2, h.tickets.below c hc⟩

theorem drain (h : Orderly fired q) (time : Time) (fuel : Nat) :
    Orderly (fired ++ (Queue.drain time fuel q).1) (Queue.drain time fuel q).2 := by
  induction fuel generalizing fired q with
  | zero =>
    rw [Queue.drain, List.append_nil]
    exact h
  | succ fuel ih =>
    simp only [Queue.drain]
    split
    · rw [List.append_nil]
      exact h
    · rename_i c rest hp
      rw [List.append_cons]
      exact ih (h.pop hp)

theorem moveTo (h : Orderly fired q) (time : Time) : Orderly fired (q.moveTo time) :=
  h.shrink (List.Sublist.refl _) rfl (q.now_le_moveTo time)

theorem perform (h : Orderly fired q) {o : Operation}
    (room : q.nextId.toNat + Operation.schedulings [o] < 2 ^ 64) :
    Orderly (fired ++ (q.perform o).1) (q.perform o).2 := by
  cases o with
  | schedule delay slot =>
    show Orderly (fired ++ []) _
    rw [List.append_nil]
    exact h.schedule delay slot room
  | cancel ticket =>
    show Orderly (fired ++ []) _
    rw [List.append_nil]
    exact h.shrink List.filter_sublist rfl (UInt64.le_refl _)
  | popDue time =>
    simp only [Queue.perform]
    split
    · rw [List.append_nil]
      exact h
    · rename_i c rest hp
      exact h.pop hp
  | advanceTo time => exact (h.drain time q.pending.length).moveTo time
  | moveTo time =>
    show Orderly (fired ++ []) _
    rw [List.append_nil]
    exact h.moveTo time

end Orderly

theorem toNat_nextId_perform {q : Queue} {o : Operation}
    (room : q.nextId.toNat + Operation.schedulings [o] < 2 ^ 64) :
    (q.perform o).2.nextId.toNat = q.nextId.toNat + Operation.schedulings [o] := by
  cases o with
  | schedule delay slot => exact Ticket.toNat_succ room
  | popDue time =>
    simp only [perform]
    split
    · rfl
    · rename_i c rest hp
      obtain ⟨-, -, rfl⟩ := popDue?_eq_some hp
      rfl
  | advanceTo time => exact congrArg UInt64.toNat (q.nextId_advanceTo time)
  | cancel ticket | moveTo time => rfl

theorem Operation.schedulings_cons (o : Operation) (rest : List Operation) :
    schedulings (o :: rest) = schedulings [o] + schedulings rest := by
  simp only [schedulings, List.countP_cons, List.countP_nil]
  omega

theorem Orderly.run {fired : List Callback} {q : Queue} (h : Orderly fired q)
    {ops : List Operation} (room : q.nextId.toNat + Operation.schedulings ops < 2 ^ 64) :
    Orderly (fired ++ (q.run ops).1) (q.run ops).2 := by
  induction ops generalizing fired q with
  | nil =>
    rw [Queue.run, List.append_nil]
    exact h
  | cons o rest ih =>
    rw [Operation.schedulings_cons] at room
    have hroom : q.nextId.toNat + Operation.schedulings [o] < 2 ^ 64 := by omega
    have hnext := ih (h.perform hroom) (by rw [toNat_nextId_perform hroom]; omega)
    rwa [List.append_assoc] at hnext

/-- **A queue fires in one order.** Whatever is scheduled, dropped and popped, and wherever the clock
is moved: it never goes back, whatever is scheduled is due no earlier than the clock then stands,
and all that ever fires comes out by deadline and, where deadlines are equal, by ticket, no two
alike. Fewer than `2 ^ 64` callbacks are scheduled, so that no ticket is handed out twice. -/
theorem fires_in_one_order (start : Time) (ops : List Operation)
    (room : Operation.schedulings ops < 2 ^ 64) :
    let begin := startingAt start
    (∀ before later, ops = before ++ later → (begin.run before).2.now ≤ (begin.run ops).2.now) ∧
    (∀ before delay slot later, ops = before ++ .schedule delay slot :: later →
      let q := (begin.run before).2
      ∃ c, (q.perform (.schedule delay slot)).2.pending = q.pending ++ [c] ∧ c.slot = slot ∧
        q.now ≤ c.deadline) ∧
    (begin.run ops).1.Pairwise fun c d =>
      c.deadline < d.deadline ∨ (c.deadline = d.deadline ∧ c.ticket.raw < d.ticket.raw) := by
  intro begin
  refine ⟨?_, ?_, ?_⟩
  · rintro before later rfl
    rw [snd_run_append]
    exact now_le_run _ later
  · intro before delay slot later _ q
    exact ⟨_, rfl, rfl, q.now.le_plus _⟩
  · have hrun : Orderly (begin.run ops).1 (begin.run ops).2 :=
      (Orderly.start start).run (by show 0 + _ < _; omega)
    refine hrun.sorted.imp fun {c d} hbefore => ?_
    rw [UInt64.lt_iff_toNat_lt, UInt64.lt_iff_toNat_lt, ← UInt64.toNat_inj]
    exact Callback.isBefore_iff.1 hbefore

/-- The clock jumps past two deadlines, and what is scheduled then comes out after both. -/
theorem fires_in_one_order_after_jump :
    let ops : List Operation := [.schedule (.ofMillis 150) .delayedClick,
      .schedule (.ofMillis 100) .dragTimeout, .moveTo 500, .schedule (.ofMillis 0) .delayedClick,
      .popDue 120, .schedule (.ofMillis 0) .dragTimeout, .advanceTo 200, .advanceTo 600]
    let fired := ((startingAt 0).run ops).1
    fired.map (fun c => (c.deadline, c.ticket.raw)) = [(100, 1), (150, 0), (500, 2), (500, 3)] ∧
      fired.Pairwise fun c d =>
        c.deadline < d.deadline ∨ (c.deadline = d.deadline ∧ c.ticket.raw < d.ticket.raw) := by
  intro ops fired
  exact ⟨by decide +kernel, (fires_in_one_order 0 ops (by decide)).2.2⟩

end Queue

end Trackpad
