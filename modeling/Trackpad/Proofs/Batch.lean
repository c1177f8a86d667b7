import Trackpad.Proofs.Calls

/-!
# Batch — the clock delivers what the queue pops

`Recognizer.advanceTo` pops a callback, delivers it, and pops the next one, so a callback could
reach the queue that is being drained. None does (`deliver_withTimers`): the one that disarms a
slot, at the end of a drag, finds that slot empty already. So it makes no difference if the queue is
advanced first and what it has popped is delivered afterwards, as a batch (`deliverAll`).

`Advances` is the loop without a bound on its rounds. It ends, from every recognizer whatever, after
one round for each callback that is due (`advances_iff`).
-/

namespace Trackpad

/-! ## Rounds of a queue -/

namespace Queue

variable {q rest : Queue} {time : Time} {c : Callback}

theorem advanceTo_of_none (h : q.popDue? time = none) :
    q.advanceTo time = ([], q.moveTo time) := by
  have hdrain : drain time q.pending.length q = ([], q) := by
    cases q.pending.length with
    | zero => rfl
    | succ n => simp only [drain, h]
  rw [advanceTo, hdrain]

theorem advanceTo_of_some (h : q.popDue? time = some (c, rest)) :
    q.advanceTo time = (c :: (rest.advanceTo time).1, (rest.advanceTo time).2) := by
  rw [advanceTo, ← length_of_popDue? h]
  simp only [drain, h, advanceTo]

/-- Each round leaves one callback less that is due. -/
theorem length_due_of_popDue? (h : q.popDue? time = some (c, rest)) :
    (rest.due time).length + 1 = (q.due time).length := by
  obtain ⟨hc, hdue, rfl⟩ := popDue?_eq_some h
  have hmem : c ∈ q.due time := List.mem_filter.2 ⟨hc, by simpa using hdue⟩
  have herase : (q.pending.erase c).filter (fun e => e.deadline ≤ time) = (q.due time).erase c :=
    (List.erase_filter).symm
  show ((q.pending.erase c).filter fun e => e.deadline ≤ time).length + 1 = _
  rw [herase, List.length_erase_of_mem hmem]
  have := List.length_pos_of_mem hmem
  omega

end Queue

/-! ## Callbacks and the scheduler -/

variable {σ : Type}

/-- The turn with another scheduler. -/
def Turn.withTimers (t : Turn σ) (timers : σ) : Turn σ := { t with timers := timers }

/-- The recognizer with another scheduler. -/
def Recognizer.withTimers (r : Recognizer σ) (timers : σ) : Recognizer σ :=
  { r with timers := timers }

/-- The reply with another scheduler. -/
def Reply.withTimers {α : Type} (reply : Reply σ α) (timers : σ) : Reply σ α :=
  { reply with next := reply.next.withTimers timers }

/-- A callback is answered, and then others are; the value counts those that had an effect. -/
def Reply.followedBy (first : Reply σ Bool) (others : Reply σ Nat) : Reply σ Nat where
  value := (if first.value then 1 else 0) + others.value
  events := first.events ++ others.events
  next := others.next

theorem Reply.sent_followedBy (first : Reply σ Bool) (others : Reply σ Nat) :
    (first.followedBy others).sent = first.sent ++ others.sent :=
  Event.commands_append _ _

namespace Turn

variable [Scheduler σ]

theorem disarm_of_none {t : Turn σ} {slot : Slot} (h : t.context.slots.get? slot = none) :
    t.disarm slot = t := by
  rw [disarm, Slots.disarm_of_none h]

theorem onDragTimeout_withTimers {t : Turn σ} (h : t.context.slots.get? .dragTimeout = none)
    (timers : σ) :
    (t.withTimers timers).onDragTimeout = t.onDragTimeout.map id (·.withTimers timers) := by
  have hd : (t.withTimers timers).disarm .dragTimeout = t.withTimers timers := disarm_of_none h
  by_cases hdrag : t.state = .dragActive
  · have hdrag' : (t.withTimers timers).state = .dragActive := hdrag
    simp only [onDragTimeout, if_pos hdrag, if_pos hdrag', endDrag, disarm_of_none h, hd]
    rfl
  · have hdrag' : (t.withTimers timers).state ≠ .dragActive := hdrag
    simp only [onDragTimeout, if_neg hdrag, if_neg hdrag']
    rfl

theorem expire_withTimers {t : Turn σ} {slot : Slot} (h : t.context.slots.get? slot = none)
    (timers : σ) :
    (t.withTimers timers).expire slot = (t.expire slot).map id (·.withTimers timers) := by
  cases slot with
  | delayedClick =>
    by_cases hdrop : t.context.window.isArmed = false ∨ t.state = .dragActive
    · have hdrop' : (t.withTimers timers).context.window.isArmed = false ∨
          (t.withTimers timers).state = .dragActive := hdrop
      simp only [expire, onDelayedClick, if_pos hdrop, if_pos hdrop']
      rfl
    · have hdrop' : ¬((t.withTimers timers).context.window.isArmed = false ∨
          (t.withTimers timers).state = .dragActive) := hdrop
      simp only [expire, onDelayedClick, if_neg hdrop, if_neg hdrop']
      rfl
  | doubleTapExpiry =>
    by_cases hopen : t.context.window.isArmed = true
    · have hopen' : (t.withTimers timers).context.window.isArmed = true := hopen
      simp only [expire, onDoubleTapExpiry, if_pos hopen, if_pos hopen']
      rfl
    · have hopen' : ¬(t.withTimers timers).context.window.isArmed = true := hopen
      simp only [expire, onDoubleTapExpiry, if_neg hopen, if_neg hopen']
      rfl
  | twoFingerTapExpiry => rfl
  | dragTimeout => exact onDragTimeout_withTimers h timers

/-- What a callback does, it does whatever the scheduler holds, and it leaves the scheduler alone. -/
theorem deliver_withTimers (t : Turn σ) (slot : Slot) (ticket : Ticket) (timers : σ) :
    (t.withTimers timers).deliver slot ticket =
      (t.deliver slot ticket).map id (·.withTimers timers) := by
  have hslots : (t.withTimers timers).context.slots = t.context.slots := rfl
  cases ha : t.context.slots.accept? slot ticket with
  | none =>
    simp only [deliver, hslots, ha]
    rfl
  | some slots =>
    -- The slot of a callback that is let through is empty.
    let accepted := (t.update fun c => { c with slots := slots }).note ("timer " ++ slot.title)
    have hempty : accepted.context.slots.get? slot = none := by
      unfold Slots.accept? at ha
      split at ha
      · cases ha
        exact Slots.get?_set_self _ _ _
      · cases ha
    simp only [deliver, hslots, ha]
    exact expire_withTimers hempty timers

end Turn

namespace Recognizer

theorem onTimer_withTimers [Scheduler σ] (r : Recognizer σ) (slot : Slot) (ticket : Ticket)
    (timers : σ) :
    (r.withTimers timers).onTimer slot ticket = (r.onTimer slot ticket).withTimers timers :=
  congrArg (r.withTimers timers).conclude (r.turn.deliver_withTimers slot ticket timers)

/-- Delivers callbacks one after the other, and counts those that had an effect. -/
def deliverAll [Scheduler σ] (r : Recognizer σ) : List Callback → Reply σ Nat
  | [] => ⟨0, [], r⟩
  | c :: rest =>
    let first := r.onTimer c.slot c.ticket
    first.followedBy (first.next.deliverAll rest)

theorem deliverAll_withTimers [Scheduler σ] (r : Recognizer σ) (cs : List Callback) (timers : σ) :
    (r.withTimers timers).deliverAll cs = (r.deliverAll cs).withTimers timers := by
  induction cs generalizing r with
  | nil => rfl
  | cons c rest ih =>
    have hnext : ((r.onTimer c.slot c.ticket).withTimers timers).next =
        (r.onTimer c.slot c.ticket).next.withTimers timers := rfl
    simp only [deliverAll, onTimer_withTimers, hnext, ih]
    rfl

/-! ## Rounds of a recognizer -/

variable {r : Recognizer Queue} {rest : Queue} {time : Time} {c : Callback}

theorem advanceTo_of_none (h : r.timers.popDue? time = none) :
    r.advanceTo time = ⟨0, [], r.moveTo time⟩ := by
  have hdrain : drain time r.timers.pending.length r = ⟨0, [], r⟩ := by
    cases r.timers.pending.length with
    | zero => rfl
    | succ n => simp only [drain, h]
  rw [advanceTo, hdrain]

theorem advanceTo_of_some (h : r.timers.popDue? time = some (c, rest)) :
    r.advanceTo time =
      let first := (r.withTimers rest).onTimer c.slot c.ticket
      first.followedBy (first.next.advanceTo time) := by
  have hlength : ((r.withTimers rest).onTimer c.slot c.ticket).next.timers.pending.length =
      rest.pending.length := by
    rw [timers_onTimer]
    rfl
  rw [advanceTo, ← Queue.length_of_popDue? h]
  simp only [drain, h, advanceTo, hlength]
  rfl

/-- The loop of `advanceTo`, without a bound on its rounds: as long as a callback is due it is
popped and delivered, and then the clock is moved. From `r`, the loop ends after so many rounds with
this reply. -/
inductive Advances (time : Time) : Recognizer Queue → Nat → Reply Queue Nat → Prop where
  | done {r : Recognizer Queue} (h : r.timers.popDue? time = none) :
      Advances time r 0 ⟨0, [], r.moveTo time⟩
  | round {r : Recognizer Queue} {c : Callback} {rest : Queue} {n : Nat} {others : Reply Queue Nat}
      (hpop : r.timers.popDue? time = some (c, rest))
      (h : Advances time ((r.withTimers rest).onTimer c.slot c.ticket).next n others) :
      Advances time r (n + 1) (((r.withTimers rest).onTimer c.slot c.ticket).followedBy others)

/-- However the loop ends, it has taken a round for each callback that was due, and replies as
`advanceTo` does. -/
theorem Advances.eq {n : Nat} {reply : Reply Queue Nat} (h : Advances time r n reply) :
    n = (r.timers.due time).length ∧ reply = r.advanceTo time := by
  induction h with
  | done hnone =>
    rw [advanceTo_of_none hnone, Queue.popDue?_eq_none_iff.1 hnone]
    exact ⟨rfl, rfl⟩
  | round hpop _ ih =>
    obtain ⟨hrounds, hreply⟩ := ih
    rw [timers_onTimer] at hrounds
    rw [advanceTo_of_some hpop, ← Queue.length_due_of_popDue? hpop, hrounds, hreply]
    exact ⟨rfl, rfl⟩

/-- And it does end. -/
theorem advances (r : Recognizer Queue) (time : Time) :
    Advances time r (r.timers.due time).length (r.advanceTo time) := by
  generalize hn : (r.timers.due time).length = n
  induction n generalizing r with
  | zero =>
    have hnone : r.timers.popDue? time = none :=
      Queue.popDue?_eq_none_iff.2 (List.eq_nil_of_length_eq_zero hn)
    rw [advanceTo_of_none hnone]
    exact .done hnone
  | succ n ih =>
    cases hpop : r.timers.popDue? time with
    | none =>
      rw [Queue.popDue?_eq_none_iff.1 hpop] at hn
      cases hn
    | some popped =>
      obtain ⟨c, rest⟩ := popped
      have hlength := Queue.length_due_of_popDue? hpop
      rw [advanceTo_of_some hpop]
      refine .round hpop (ih _ ?_)
      rw [timers_onTimer]
      show (rest.due time).length = n
      omega

theorem advances_iff {n : Nat} {reply : Reply Queue Nat} :
    Advances time r n reply ↔ n = (r.timers.due time).length ∧ reply = r.advanceTo time := by
  constructor
  · exact Advances.eq
  · rintro ⟨rfl, rfl⟩
    exact r.advances time

/-! ## The batch -/

/-- Whatever the loop has delivered one by one, it could have popped first. -/
theorem Advances.eq_deliverAll {n : Nat} {reply : Reply Queue Nat} (h : Advances time r n reply) :
    reply = (r.withTimers (r.timers.advanceTo time).2).deliverAll (r.timers.advanceTo time).1 := by
  induction h with
  | done hnone =>
    rw [Queue.advanceTo_of_none hnone]
    rfl
  | @round r c rest n others hpop _ ih =>
    -- All rounds see the queue that is left at the end, in place of the one they are given.
    let left := (rest.advanceTo time).2
    have hothers :
        others = ((r.onTimer c.slot c.ticket).next.withTimers left).deliverAll
          (rest.advanceTo time).1 := by
      rw [timers_onTimer, onTimer_withTimers] at ih
      exact ih
    rw [Queue.advanceTo_of_some hpop, hothers]
    simp only [deliverAll, onTimer_withTimers]
    rfl

theorem advanceTo_eq_deliverAll (r : Recognizer Queue) (time : Time) :
    r.advanceTo time =
      (r.withTimers (r.timers.advanceTo time).2).deliverAll (r.timers.advanceTo time).1 :=
  (r.advances time).eq_deliverAll

/-- **The clock delivers a batch.** From every recognizer, whatever its context, its configuration
and its queue hold: the loop of `advanceTo` ends, after exactly as many rounds as callbacks are due,
and it leads to the same context, history included, the same queue, the same events in the same
order and the same count as advancing the queue first and then delivering what it has popped, in
this order. -/
theorem advanceTo_delivers_batch (r : Recognizer Queue) (time : Time) :
    let popped := r.timers.advanceTo time
    let batch := (r.withTimers popped.2).deliverAll popped.1
    r.advanceTo time = batch ∧
      ∀ n reply, Advances time r n reply ↔ n = (r.timers.due time).length ∧ reply = batch := by
  intro popped batch
  have hbatch : r.advanceTo time = batch := r.advanceTo_eq_deliverAll time
  refine ⟨hbatch, fun n reply => ?_⟩
  rw [← hbatch]
  exact advances_iff

end Recognizer

end Trackpad
