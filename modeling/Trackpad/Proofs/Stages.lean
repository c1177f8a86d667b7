import Trackpad.Proofs.Batch

/-!
# Stages — the clock advanced in one jump or in several

A queue is drained by threshold first and by deadline and ticket then, so what is due by the earlier
of two times comes out before the rest, in the order in which it would come out by the later one
(`Queue.popDue?_of_le`). Wherever an interval is cut, the queue therefore pops the same callbacks in
the same order (`Queue.fst_advanceTo_max`). The recognizer delivers what the queue pops, as a batch,
so it does not see the cut either (`Recognizer.advanceTo_max`).
-/

namespace Trackpad

/-! ## Order in a queue -/

/-- What comes out first by an earlier time comes out first by a later one. -/
theorem Callback.earliest?_filter_of_le {time later : Time} (hle : time ≤ later)
    {cs : List Callback} {c : Callback}
    (h : earliest? (cs.filter fun e => e.deadline ≤ time) = some c) :
    earliest? (cs.filter fun e => e.deadline ≤ later) = some c := by
  induction cs generalizing c with
  | nil => cases h
  | cons d cs ih =>
    by_cases hd : d.deadline ≤ time
    · have hd' : d.deadline ≤ later := UInt64.le_trans hd hle
      rw [List.filter_cons_of_pos (by simpa using hd)] at h
      rw [List.filter_cons_of_pos (by simpa using hd')]
      cases hearly : earliest? (cs.filter fun e => e.deadline ≤ time) with
      | some e =>
        simp only [earliest?, hearly] at h
        simp only [earliest?, ih hearly]
        exact h
      | none =>
        simp only [earliest?, hearly] at h
        cases hlate : earliest? (cs.filter fun e => e.deadline ≤ later) with
        | none =>
          simp only [earliest?, hlate]
          exact h
        | some e =>
          -- All that is due later only is due after `d`.
          have hmem := (List.mem_filter.1 (mem_of_earliest? hlate)).1
          have hafter : ¬e.deadline ≤ time := by
            have hnil := earliest?_eq_none_iff.1 hearly
            rw [List.filter_eq_nil_iff] at hnil
            simpa using hnil e hmem
          have hbefore : ¬e.isBefore d = true := by
            rw [UInt64.le_iff_toNat_le] at hd hafter
            rw [isBefore_iff]
            omega
          simp only [earliest?, hlate, if_neg hbefore]
          exact h
    · rw [List.filter_cons_of_neg (by simpa using hd)] at h
      have hlate := ih h
      by_cases hd' : d.deadline ≤ later
      · have hdue : c.deadline ≤ time := by
          simpa using (List.mem_filter.1 (mem_of_earliest? h)).2
        have hbefore : c.isBefore d = true := by
          rw [UInt64.le_iff_toNat_le] at hd hdue
          rw [isBefore_iff]
          omega
        rw [List.filter_cons_of_pos (by simpa using hd')]
        simp only [earliest?, hlate, if_pos hbefore]
      · rwa [List.filter_cons_of_neg (by simpa using hd')]

theorem Time.max_eq_right {t u : Time} (h : t ≤ u) : max t u = u := by
  rw [UInt64.le_iff_toNat_le] at h
  rw [← UInt64.toNat_inj, toNat_max]
  omega

theorem Time.max_eq_left {t u : Time} (h : u ≤ t) : max t u = t := by
  rw [UInt64.le_iff_toNat_le] at h
  rw [← UInt64.toNat_inj, toNat_max]
  omega

namespace Queue

theorem popDue?_of_le {q rest : Queue} {time later : Time} {c : Callback} (hle : time ≤ later)
    (h : q.popDue? time = some (c, rest)) : q.popDue? later = some (c, rest) := by
  obtain ⟨d, hd, hp⟩ := Option.map_eq_some_iff.1 h
  rw [popDue?, due, Callback.earliest?_filter_of_le hle hd, Option.map_some, hp]

/-- What is popped depends on what is pending, and not on the clock. -/
theorem fst_advanceTo_of_pending {q p : Queue} (h : q.pending = p.pending) (time : Time) :
    (q.advanceTo time).1 = (p.advanceTo time).1 := by
  generalize hn : q.pending.length = n
  induction n generalizing q p with
  | zero =>
    have hnil : q.pending = [] := List.eq_nil_of_length_eq_zero hn
    simp [advanceTo, drain, ← h, hnil]
  | succ n ih =>
    have hdue : q.due time = p.due time := by rw [due, due, h]
    cases hfirst : Callback.earliest? (q.due time) with
    | none =>
      have hq : q.popDue? time = none := by rw [popDue?, hfirst, Option.map_none]
      have hp : p.popDue? time = none := by rw [popDue?, ← hdue, hfirst, Option.map_none]
      rw [advanceTo_of_none hq, advanceTo_of_none hp]
    | some c =>
      have hq : q.popDue? time =
          some (c, { q with now := max q.now c.deadline, pending := q.pending.erase c }) := by
        rw [popDue?, hfirst, Option.map_some]
      have hp : p.popDue? time =
          some (c, { p with now := max p.now c.deadline, pending := p.pending.erase c }) := by
        rw [popDue?, ← hdue, hfirst, Option.map_some]
      have hlength := length_of_popDue? hq
      rw [advanceTo_of_some hq, advanceTo_of_some hp]
      have herase : q.pending.erase c = p.pending.erase c := by rw [h]
      exact congrArg (c :: ·) (ih herase (by omega))

/-- What is popped up to a later time is what is popped up to an earlier one, and then the rest. -/
theorem fst_advanceTo_of_le (q : Queue) {time later : Time} (hle : time ≤ later) :
    (q.advanceTo later).1 =
      (q.advanceTo time).1 ++ ((q.advanceTo time).2.advanceTo later).1 := by
  generalize hn : q.pending.length = n
  induction n generalizing q with
  | zero =>
    have hnil : q.pending = [] := List.eq_nil_of_length_eq_zero hn
    simp [advanceTo, drain, moveTo, hnil]
  | succ n ih =>
    cases hpop : q.popDue? time with
    | none =>
      rw [advanceTo_of_none hpop, List.nil_append]
      exact fst_advanceTo_of_pending (q := q) (p := q.moveTo time) rfl later
    | some popped =>
      obtain ⟨c, rest⟩ := popped
      have hlength := length_of_popDue? hpop
      rw [advanceTo_of_some hpop, advanceTo_of_some (popDue?_of_le hle hpop), ih rest (by omega)]
      rfl

/-- Nothing is popped for a time that the queue has been advanced to already. -/
theorem popDue?_advanceTo (q : Queue) {time earlier : Time} (hle : earlier ≤ time) :
    (q.advanceTo time).2.popDue? earlier = none := by
  rw [popDue?_eq_none_iff, due, pending_advanceTo, List.filter_eq_nil_iff]
  intro c hc hdue
  have hlate : time < c.deadline := by simpa using (List.mem_filter.1 hc).2
  have hearly : c.deadline ≤ earlier := by simpa using hdue
  exact UInt64.not_le.2 hlate (UInt64.le_trans hearly hle)

/-- Two jumps leave the queue that one jump to the later time leaves. -/
theorem snd_advanceTo_max (q : Queue) (t u : Time) :
    (q.advanceTo (max t u)).2 = ((q.advanceTo t).2.advanceTo u).2 := by
  have hnow : (q.advanceTo (max t u)).2.now = ((q.advanceTo t).2.advanceTo u).2.now := by
    simp only [now_advanceTo, ← UInt64.toNat_inj, Time.toNat_max]
    omega
  have hpending :
      (q.advanceTo (max t u)).2.pending = ((q.advanceTo t).2.advanceTo u).2.pending := by
    simp only [pending_advanceTo, List.filter_filter]
    refine List.filter_congr fun c _ => ?_
    rw [← Bool.decide_and, decide_eq_decide]
    simp only [UInt64.lt_iff_toNat_lt, Time.toNat_max]
    omega
  have hid : (q.advanceTo (max t u)).2.nextId = ((q.advanceTo t).2.advanceTo u).2.nextId := by
    simp only [nextId_advanceTo]
  calc (q.advanceTo (max t u)).2
      = ⟨(q.advanceTo (max t u)).2.now, (q.advanceTo (max t u)).2.nextId,
          (q.advanceTo (max t u)).2.pending⟩ := rfl
    _ = ((q.advanceTo t).2.advanceTo u).2 := by rw [hnow, hid, hpending]

/-- And they pop what it pops, in its order. -/
theorem fst_advanceTo_max (q : Queue) (t u : Time) :
    (q.advanceTo (max t u)).1 = (q.advanceTo t).1 ++ ((q.advanceTo t).2.advanceTo u).1 := by
  rcases UInt64.le_total t u with hle | hle
  · rw [Time.max_eq_right hle]
    exact q.fst_advanceTo_of_le hle
  · rw [Time.max_eq_left hle, advanceTo_of_none (q.popDue?_advanceTo hle), List.append_nil]

end Queue

/-! ## Stages of a recognizer -/

/-- The clock is advanced, and then again; the value counts the callbacks of both stages. -/
def Reply.andThen {σ : Type} (first second : Reply σ Nat) : Reply σ Nat where
  value := first.value + second.value
  events := first.events ++ second.events
  next := second.next

theorem Reply.andThen_assoc {σ : Type} (a b c : Reply σ Nat) :
    (a.andThen b).andThen c = a.andThen (b.andThen c) := by
  simp only [andThen, Nat.add_assoc, List.append_assoc]

namespace Recognizer

theorem deliverAll_append {σ : Type} [Scheduler σ] (r : Recognizer σ)
    (first second : List Callback) :
    r.deliverAll (first ++ second) =
      (r.deliverAll first).andThen ((r.deliverAll first).next.deliverAll second) := by
  induction first generalizing r with
  | nil => simp only [List.nil_append, deliverAll, Reply.andThen, Nat.zero_add]
  | cons c rest ih =>
    simp only [List.cons_append, deliverAll, ih, Reply.followedBy, Reply.andThen, Nat.add_assoc,
      List.append_assoc]

/-- Two jumps of the clock are one, to the later of the two times. -/
theorem advanceTo_max (r : Recognizer Queue) (t u : Time) :
    r.advanceTo (max t u) = (r.advanceTo t).andThen ((r.advanceTo t).next.advanceTo u) := by
  let q := (r.timers.advanceTo t).2
  let left := (q.advanceTo u).2
  have hfirst : r.advanceTo t = (r.withTimers q).deliverAll (r.timers.advanceTo t).1 :=
    r.advanceTo_eq_deliverAll t
  have htimers : (r.advanceTo t).next.timers = q := r.timers_advanceTo t
  -- The second stage starts from the queue that the first one leaves, the batch from the last one.
  have hstage : ((r.withTimers left).deliverAll (r.timers.advanceTo t).1) =
      (r.advanceTo t).withTimers left := by
    rw [hfirst, ← deliverAll_withTimers]
    rfl
  calc r.advanceTo (max t u)
      = (r.withTimers left).deliverAll ((r.timers.advanceTo t).1 ++ (q.advanceTo u).1) := by
        rw [advanceTo_eq_deliverAll, Queue.fst_advanceTo_max, Queue.snd_advanceTo_max]
    _ = ((r.advanceTo t).withTimers left).andThen
          (((r.advanceTo t).next.withTimers left).deliverAll (q.advanceTo u).1) := by
        rw [deliverAll_append, hstage]
        rfl
    _ = (r.advanceTo t).andThen ((r.advanceTo t).next.advanceTo u) := by
        rw [(r.advanceTo t).next.advanceTo_eq_deliverAll u, htimers]
        rfl

/-- Where the clock has been advanced to already, nothing happens any more. -/
theorem advanceTo_again (r : Recognizer Queue) (time : Time) :
    (r.advanceTo time).next.advanceTo time = ⟨0, [], (r.advanceTo time).next⟩ := by
  have htimers := r.timers_advanceTo time
  have hnone : (r.advanceTo time).next.timers.popDue? time = none := by
    rw [htimers]
    exact r.timers.popDue?_advanceTo (UInt64.le_refl time)
  have hmoved : (r.advanceTo time).next.timers.moveTo time = (r.advanceTo time).next.timers := by
    have hnow : max (r.advanceTo time).next.timers.now time =
        (r.advanceTo time).next.timers.now := by
      rw [htimers, Queue.now_advanceTo, ← UInt64.toNat_inj]
      simp only [Time.toNat_max]
      omega
    simp only [Queue.moveTo, hnow]
  rw [advanceTo_of_none hnone, moveTo, hmoved]

/-- Advances the clock by stages. -/
def advanceThrough (r : Recognizer Queue) : List Time → Reply Queue Nat
  | [] => ⟨0, [], r⟩
  | time :: rest => (r.advanceTo time).andThen ((r.advanceTo time).next.advanceThrough rest)

theorem advanceThrough_eq (r : Recognizer Queue) (time : Time) (rest : List Time) :
    r.advanceThrough (time :: rest) = r.advanceTo (rest.foldl max time) := by
  induction rest generalizing time with
  | nil =>
    simp only [advanceThrough, Reply.andThen, List.append_nil, Nat.add_zero, List.foldl_nil]
  | cons u rest ih =>
    calc r.advanceThrough (time :: u :: rest)
        = (r.advanceTo (max time u)).andThen
            ((r.advanceTo (max time u)).next.advanceThrough rest) := by
          rw [advanceTo_max, Reply.andThen_assoc]
          rfl
      _ = r.advanceTo (rest.foldl max (max time u)) := ih (max time u)

/-- **The clock may be advanced in stages.** From every recognizer, whatever its context, its
configuration and its queue hold, and for times in any order: two jumps lead to the same context,
history included, the same queue and the same events in the same order as one jump to the later
time, and their counts add up to its count. Any number of jumps is one jump to the last of all the
times. A jump that is repeated changes nothing, counts nothing and lets nothing out. -/
theorem advanceTo_in_stages (r : Recognizer Queue) (t u : Time) (rest : List Time) :
    let once := r.advanceTo (max t u)
    let first := r.advanceTo t
    let second := first.next.advanceTo u
    (once.next = second.next ∧ once.events = first.events ++ second.events ∧
        once.value = first.value + second.value) ∧
      r.advanceThrough (t :: rest) = r.advanceTo (rest.foldl max t) ∧
      first.next.advanceTo t = ⟨0, [], first.next⟩ := by
  intro once first second
  have honce : once = first.andThen second := r.advanceTo_max t u
  refine ⟨?_, r.advanceThrough_eq t rest, r.advanceTo_again t⟩
  rw [honce]
  exact ⟨rfl, rfl, rfl⟩

end Recognizer

end Trackpad
