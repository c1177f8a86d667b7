import Trackpad.Timing.Queue

/-!
# Due — what a queue pops, and what it keeps

The callback that `Queue.popDue?` takes out comes before every other one that is due
(`popDue?_first`). Draining with enough fuel keeps exactly the callbacks that are not due, in their
order (`pending_drain`), and moves the clock no further than the time it drains to, so after
`advanceTo` the clock stands at that time, or where it was if that is later (`now_advanceTo`).
-/

namespace Trackpad

theorem Time.toNat_max (t u : Time) : (max t u).toNat = max t.toNat u.toNat := by
  show (if t ≤ u then u else t).toNat = _
  split
  · rename_i h
    rw [UInt64.le_iff_toNat_le] at h
    omega
  · rename_i h
    rw [UInt64.le_iff_toNat_le] at h
    omega

theorem Callback.isBefore_iff {c d : Callback} :
    c.isBefore d = true ↔ c.deadline.toNat < d.deadline.toNat ∨
      (c.deadline.toNat = d.deadline.toNat ∧ c.ticket.raw.toNat < d.ticket.raw.toNat) := by
  simp [isBefore, UInt64.lt_iff_toNat_lt, ← UInt64.toNat_inj]

/-- Nothing in a list comes before the callback that comes out first. -/
theorem Callback.not_isBefore_earliest? {cs : List Callback} {c : Callback}
    (h : earliest? cs = some c) : ∀ e ∈ cs, ¬e.isBefore c = true := by
  induction cs generalizing c with
  | nil => simp [earliest?] at h
  | cons d cs ih =>
    intro e he
    rw [isBefore_iff]
    simp only [earliest?] at h
    split at h
    · rename_i hnone
      rw [earliest?_eq_none_iff] at hnone
      subst hnone
      simp only [List.mem_singleton] at he
      cases h
      subst he
      omega
    · rename_i x hx
      have hmin := ih hx
      simp only [isBefore_iff] at hmin
      split at h
      · rename_i hxd
        rw [isBefore_iff] at hxd
        cases h
        rcases List.mem_cons.1 he with rfl | he
        · omega
        · exact hmin e he
      · rename_i hxd
        rw [isBefore_iff] at hxd
        cases h
        rcases List.mem_cons.1 he with rfl | he
        · omega
        · have := hmin e he
          omega

namespace Queue

theorem mem_pending_schedule {q : Queue} {delay : Duration} {slot : Slot} {c : Callback} :
    c ∈ (q.schedule delay slot).2.pending ↔
      c ∈ q.pending ∨ c = ⟨slot, ⟨q.nextId⟩, q.now.plus delay.toMillis⟩ := by
  rw [schedule, List.mem_append, List.mem_singleton]

theorem now_le_moveTo (q : Queue) (time : Time) : q.now ≤ (q.moveTo time).now := by
  show q.now ≤ max q.now time
  rw [UInt64.le_iff_toNat_le, Time.toNat_max]
  omega

/-- Popping moves the clock to the deadline, or leaves it where it is past that. -/
theorem now_le_popDue? {q rest : Queue} {time : Time} {c : Callback}
    (h : q.popDue? time = some (c, rest)) : q.now ≤ rest.now ∧ c.deadline ≤ rest.now := by
  obtain ⟨-, -, rfl⟩ := popDue?_eq_some h
  show q.now ≤ max q.now c.deadline ∧ c.deadline ≤ max q.now c.deadline
  rw [UInt64.le_iff_toNat_le, UInt64.le_iff_toNat_le, Time.toNat_max]
  omega

/-- What is popped comes before everything else that is due. -/
theorem popDue?_first {q rest : Queue} {time : Time} {c : Callback}
    (h : q.popDue? time = some (c, rest)) :
    ∀ e ∈ q.pending, e.deadline ≤ time → ¬e.isBefore c = true := by
  obtain ⟨d, hd, he⟩ := Option.map_eq_some_iff.1 h
  cases he
  intro e hmem hdue
  exact Callback.not_isBefore_earliest? hd e (List.mem_filter.2 ⟨hmem, by simpa using hdue⟩)

/-- What is not due stays pending when something else is popped. -/
theorem filter_erase_of_due {cs : List Callback} {c : Callback} {time : Time}
    (h : c.deadline ≤ time) :
    (cs.erase c).filter (fun e => time < e.deadline) = cs.filter fun e => time < e.deadline := by
  rw [← List.erase_filter]
  refine List.erase_of_not_mem fun hmem => ?_
  have hlt := (List.mem_filter.1 hmem).2
  simp only [decide_eq_true_eq] at hlt
  exact absurd h (UInt64.not_le.2 hlt)

/-- Draining keeps what is not due, and nothing else. -/
theorem pending_drain {time : Time} {fuel : Nat} {q : Queue} (h : q.pending.length ≤ fuel) :
    (drain time fuel q).2.pending = q.pending.filter fun e => time < e.deadline := by
  induction fuel generalizing q with
  | zero =>
    have hnil : q.pending = [] := List.eq_nil_of_length_eq_zero (by omega)
    simp [drain, hnil]
  | succ fuel ih =>
    simp only [drain]
    split
    · rename_i hnone
      -- Nothing is due, so everything stays.
      rw [popDue?_eq_none_iff, due, List.filter_eq_nil_iff] at hnone
      refine (List.filter_eq_self.2 fun e he => ?_).symm
      simpa [UInt64.not_le] using hnone e he
    · rename_i c rest hsome
      have hlen := length_of_popDue? hsome
      obtain ⟨-, hdue, rfl⟩ := popDue?_eq_some hsome
      rw [ih (by omega)]
      exact filter_erase_of_due hdue

@[simp] theorem nextId_drain (time : Time) (fuel : Nat) (q : Queue) :
    (drain time fuel q).2.nextId = q.nextId := by
  induction fuel generalizing q with
  | zero => rfl
  | succ fuel ih =>
    simp only [drain]
    split
    · rfl
    · rename_i c rest hsome
      obtain ⟨-, -, rfl⟩ := popDue?_eq_some hsome
      exact ih _

/-- Draining moves the clock forward, if at all, and not beyond the time it drains to. -/
theorem now_drain (time : Time) (fuel : Nat) (q : Queue) :
    q.now.toNat ≤ (drain time fuel q).2.now.toNat ∧
      (drain time fuel q).2.now.toNat ≤ max q.now.toNat time.toNat := by
  induction fuel generalizing q with
  | zero =>
    simp only [drain]
    omega
  | succ fuel ih =>
    simp only [drain]
    split
    · simp only []
      omega
    · rename_i c rest hsome
      obtain ⟨-, hdue, rfl⟩ := popDue?_eq_some hsome
      obtain ⟨hlow, hhigh⟩ :=
        ih { q with now := max q.now c.deadline, pending := q.pending.erase c }
      rw [UInt64.le_iff_toNat_le] at hdue
      simp only [Time.toNat_max] at hlow hhigh ⊢
      omega

theorem pending_advanceTo (q : Queue) (time : Time) :
    (q.advanceTo time).2.pending = q.pending.filter fun e => time < e.deadline :=
  pending_drain (Nat.le_refl _)

@[simp] theorem nextId_advanceTo (q : Queue) (time : Time) :
    (q.advanceTo time).2.nextId = q.nextId :=
  nextId_drain time _ q

/-- After advancing, the clock stands at the later of the two times. -/
theorem now_advanceTo (q : Queue) (time : Time) : (q.advanceTo time).2.now = max q.now time := by
  obtain ⟨hlow, hhigh⟩ := now_drain time q.pending.length q
  rw [← UInt64.toNat_inj]
  simp only [advanceTo, moveTo, Time.toNat_max]
  omega

end Queue

end Trackpad
