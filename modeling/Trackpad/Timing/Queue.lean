import Trackpad.Timing.Scheduler
import Trackpad.Timing.Time

/-!
# Queue — a scheduler on an explicit clock

A `Queue` keeps its callbacks in the order they were scheduled in and counts milliseconds only when
told to. Due callbacks come out by deadline; of equal deadlines the earlier ticket comes first. The
clock never goes back: `moveTo` and `popDue?` take the larger of the old and the new time.

`advanceTo` pops until nothing is due. It can pop at most as often as callbacks are pending, so
that number bounds its recursion (`drain`).
-/

namespace Trackpad

/-- A callback that waits for its deadline. -/
structure Callback where
  slot : Slot
  ticket : Ticket
  deadline : Time
deriving DecidableEq

namespace Callback

/-- Whether `c` comes out before `d`: by deadline, then by ticket. -/
def isBefore (c d : Callback) : Bool :=
  c.deadline < d.deadline || (c.deadline == d.deadline && c.ticket.raw < d.ticket.raw)

/-- The callback of a list that comes out first; of equals, the one that stands first. -/
def earliest? : List Callback → Option Callback
  | [] => none
  | c :: cs =>
    match earliest? cs with
    | none => some c
    | some d => some (if d.isBefore c then d else c)

/-- The first callback to come out is one of the list. -/
theorem mem_of_earliest? {cs : List Callback} {c : Callback} (h : earliest? cs = some c) :
    c ∈ cs := by
  induction cs generalizing c with
  | nil => simp [earliest?] at h
  | cons d cs ih =>
    unfold earliest? at h
    split at h
    · simp_all
    · rename_i e he
      have he := ih he
      split at h <;> simp_all

/-- Every list but the empty one has a first callback to come out. -/
theorem earliest?_eq_none_iff {cs : List Callback} : earliest? cs = none ↔ cs = [] := by
  cases cs with
  | nil => simp [earliest?]
  | cons c cs =>
    unfold earliest?
    split <;> simp

end Callback

/-- Pending callbacks on a clock that only moves when told to. -/
structure Queue where
  /-- The clock. -/
  now : Time := 0
  /-- The raw value of the next ticket. -/
  nextId : UInt64 := 0
  /-- What is scheduled, neither fired nor dropped, in the order of scheduling. -/
  pending : List Callback := []
deriving DecidableEq

namespace Queue

/-- An empty queue whose clock stands at `now`. -/
def startingAt (now : Time) : Queue := { now := now }

/-- Takes on a callback. Parts of a millisecond of the delay are dropped, and a deadline past the
largest time becomes that time. -/
def schedule (q : Queue) (delay : Duration) (slot : Slot) : Ticket × Queue :=
  let ticket : Ticket := ⟨q.nextId⟩
  (ticket,
    { q with
      nextId := q.nextId + 1
      pending := q.pending ++ [⟨slot, ticket, q.now.plus delay.toMillis⟩] })

/-- Drops the callback of a ticket, if it is pending. -/
def cancel (q : Queue) (ticket : Ticket) : Queue :=
  { q with pending := q.pending.filter fun c => c.ticket ≠ ticket }

instance : Scheduler Queue where
  schedule := schedule
  cancel := cancel

/-- Whether the callback of a ticket is pending. -/
def isPending (q : Queue) (ticket : Ticket) : Bool :=
  q.pending.any fun c => c.ticket = ticket

/-- The earliest deadline of the pending callbacks. -/
def nextDeadline? (q : Queue) : Option Time :=
  (q.pending.map (·.deadline)).min?

/-- The pending callbacks that are due by `time`, in the order of scheduling. -/
def due (q : Queue) (time : Time) : List Callback :=
  q.pending.filter fun c => c.deadline ≤ time

/-- Takes out the first callback that is due by `time` and moves the clock to its deadline. The
queue stays as it is if none is due. -/
def popDue? (q : Queue) (time : Time) : Option (Callback × Queue) :=
  (Callback.earliest? (q.due time)).map fun c =>
    (c, { q with now := max q.now c.deadline, pending := q.pending.erase c })

/-- Moves the clock forward to `time` and fires nothing. -/
def moveTo (q : Queue) (time : Time) : Queue :=
  { q with now := max q.now time }

/-- Takes out what is due by `time`, at most `fuel` callbacks. -/
def drain (time : Time) : Nat → Queue → List Callback × Queue
  | 0, q => ([], q)
  | fuel + 1, q =>
    match q.popDue? time with
    | none => ([], q)
    | some (c, rest) =>
      let after := drain time fuel rest
      (c :: after.1, after.2)

/-- Takes out everything that is due by `time`, in the order it fires, and moves the clock. -/
def advanceTo (q : Queue) (time : Time) : List Callback × Queue :=
  let drained := drain time q.pending.length q
  (drained.1, drained.2.moveTo time)

/-- What is popped was pending and due. -/
theorem popDue?_eq_some {q rest : Queue} {time : Time} {c : Callback}
    (h : q.popDue? time = some (c, rest)) :
    c ∈ q.pending ∧ c.deadline ≤ time ∧
      rest = { q with now := max q.now c.deadline, pending := q.pending.erase c } := by
  obtain ⟨d, hd, he⟩ := Option.map_eq_some_iff.1 h
  obtain ⟨rfl, rfl⟩ := Prod.mk.inj he
  have hm := List.mem_filter.1 (Callback.mem_of_earliest? hd)
  exact ⟨hm.1, by simpa using hm.2, rfl⟩

/-- Nothing is popped exactly when nothing is due. -/
theorem popDue?_eq_none_iff {q : Queue} {time : Time} :
    q.popDue? time = none ↔ q.due time = [] := by
  rw [popDue?, Option.map_eq_none_iff, Callback.earliest?_eq_none_iff]

/-- Each pop makes the queue one shorter, so the pending number bounds the number of pops. -/
theorem length_of_popDue? {q rest : Queue} {time : Time} {c : Callback}
    (h : q.popDue? time = some (c, rest)) : rest.pending.length + 1 = q.pending.length := by
  obtain ⟨hm, -, rfl⟩ := popDue?_eq_some h
  have := List.length_erase_of_mem hm
  have := List.length_pos_of_mem hm
  simp only []
  omega

end Queue

end Trackpad
