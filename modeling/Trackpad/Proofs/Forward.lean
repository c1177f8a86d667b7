import Trackpad.Proofs.Exchange
import Trackpad.Proofs.Stages
import Trackpad.Proofs.Waiting

/-!
# Forward — runs in which no call comes before the clock

A sample brings its own time, and the timers run on the clock of the queue. In a run that goes
`Forward` the two are one: a call advances the clock to exactly the time it comes with
(`now_facing`), and the rest of the call leaves the clock alone (`Does.now`).

Callbacks come before the sample, and this module also says what they leave as it is: all of the
context that is in no stance (`inStance_facing`), the state unless it is a drag, and a window that
is not closed.
-/

namespace Trackpad

namespace TimedCall

variable {c : TimedCall}

/-- The call comes with a time. -/
def IsTimed (c : TimedCall) : Prop := c.time?.isSome = true

instance : DecidablePred IsTimed := fun c => inferInstanceAs (Decidable (c.time?.isSome = true))

theorem IsTimed.isDriven (h : c.IsTimed) : c.IsDriven := by
  cases c with
  | plain call => cases h
  | handleAt s | advanceTo time => trivial

theorem IsTimed.eq_handleAt (h : c.IsTimed) {s : Sample} (hs : s ∈ c.sample?) :
    c = .handleAt s := by
  cases c with
  | plain call => cases h
  | handleAt t =>
    cases hs
    rfl
  | advanceTo time => cases hs

theorem lapses_iff {time due : Time} (h : time ∈ c.time?) : c.Lapses due ↔ due ≤ time := by
  refine ⟨fun ⟨other, hother, hdue⟩ => ?_, fun hdue => ⟨time, h, hdue⟩⟩
  rw [Option.mem_def] at h hother
  rw [h] at hother
  exact Option.some.inj hother ▸ hdue

/-- The samples among some calls. -/
def samples (calls : List TimedCall) : List Sample := calls.filterMap sample?

theorem samples_append (first second : List TimedCall) :
    samples (first ++ second) = samples first ++ samples second :=
  List.filterMap_append

theorem samples_cons (c : TimedCall) (rest : List TimedCall) :
    samples (c :: rest) = samples [c] ++ samples rest :=
  samples_append [c] rest

theorem mem_samples_cons {s : Sample} {rest : List TimedCall} :
    s ∈ samples (c :: rest) ↔ s ∈ c.sample? ∨ s ∈ samples rest := by
  simp [samples]

theorem IsTimed.time_of_sample (h : c.IsTimed) {s : Sample} (hs : s ∈ c.sample?) :
    c.time? = some s.time := by
  rw [h.eq_handleAt hs]
  rfl

end TimedCall

/-! ## The clock -/

theorem Slots.now_arm (s : Slots) (slot : Slot) (q : Queue) : (s.arm slot q).2.now = q.now :=
  s.now_disarm slot q

theorem Deed.now_apply (v : Stance Queue) (d : Deed) : (d.apply v).timers.now = v.timers.now :=
  d.apply_keeps (P := fun _ _ (q : Queue) => q.now = v.timers.now) (n := 0)
    (fun _ s q slot h => (s.now_arm slot q).trans h)
    (fun _ s q slot h => (s.now_disarm slot q).trans h) rfl

namespace Recognizer

/-- No call of the run comes with a time that is before the clock. -/
def Forward : Recognizer Queue → List TimedCall → Prop
  | _, [] => True
  | r, c :: rest => (∀ time ∈ c.time?, r.timers.now ≤ time) ∧ Forward (r.performTimed c).next rest

instance decideForward : ∀ r calls, Decidable (Forward r calls)
  | _, [] => isTrue trivial
  | r, c :: rest =>
    -- Named, since the numbers are finite and a search may settle on trying each of them.
    have : Decidable (∀ time ∈ c.time?, r.timers.now ≤ time) := Option.decidableForallMem _
    have := decideForward (r.performTimed c).next rest
    inferInstanceAs (Decidable (_ ∧ _))

theorem forward_append {r : Recognizer Queue} {first second : List TimedCall} :
    Forward r (first ++ second) ↔
      Forward r first ∧ Forward (after performTimed r first) second := by
  induction first generalizing r with
  | nil => exact ⟨fun h => ⟨trivial, h⟩, And.right⟩
  | cons c rest ih => simp only [List.cons_append, Forward, ih, after_cons, and_assoc]

variable {r : Recognizer Queue} {c : TimedCall} {time : Time}

theorem now_facing (h : time ∈ c.time?) (hle : r.timers.now ≤ time) :
    (r.facing c).timers.now = time := by
  rw [Option.mem_def] at h
  simp only [facing, h]
  rw [timers_advanceTo, Queue.now_advanceTo]
  exact Time.max_eq_right hle

theorem Does.now {d : Deed} (h : r.Does c d) :
    (r.performTimed c).next.timers.now = (r.facing c).timers.now := by
  rw [h.timers]
  exact d.now_apply _

theorem now_performTimed (hb : r.handlers = .standard) (hc : c.IsTimed) (h : time ∈ c.time?)
    (hle : r.timers.now ≤ time) : (r.performTimed c).next.timers.now = time := by
  obtain ⟨d, hd⟩ := performTimed_does hb hc.isDriven
  exact hd.now.trans (now_facing h hle)

theorem Forward.now_le_after {calls : List TimedCall} (h : Forward r calls)
    (hb : r.handlers = .standard) (timed : ∀ c ∈ calls, c.IsTimed) :
    r.timers.now ≤ (after performTimed r calls).timers.now := by
  induction calls generalizing r with
  | nil => exact UInt64.le_refl _
  | cons c rest ih =>
    obtain ⟨hle, hrest⟩ := h
    have ht := timed c List.mem_cons_self
    obtain ⟨time, htime⟩ := Option.isSome_iff_exists.1 ht
    have hlater := ih hrest ((r.handlers_performTimed c).trans hb)
      (fun d hd => timed d (List.mem_cons_of_mem c hd))
    rw [now_performTimed hb ht htime (hle time htime)] at hlater
    exact UInt64.le_trans (hle time htime) hlater

/-- The samples of a run that goes forward are no earlier than the clock is at first. -/
theorem Forward.now_le_sample {calls : List TimedCall} (h : Forward r calls)
    (hb : r.handlers = .standard) (timed : ∀ c ∈ calls, c.IsTimed) :
    ∀ s ∈ TimedCall.samples calls, r.timers.now ≤ s.time := by
  induction calls generalizing r with
  | nil => exact List.forall_mem_nil _
  | cons c rest ih =>
    obtain ⟨hle, hrest⟩ := h
    have ht := timed c List.mem_cons_self
    obtain ⟨time, htime⟩ := Option.isSome_iff_exists.1 ht
    intro s hs
    rcases TimedCall.mem_samples_cons.1 hs with hs | hs
    · exact hle s.time (ht.time_of_sample hs)
    · have hlater := ih hrest ((r.handlers_performTimed c).trans hb)
        (fun d hd => timed d (List.mem_cons_of_mem c hd)) s hs
      rw [now_performTimed hb ht htime (hle time htime)] at hlater
      exact UInt64.le_trans (hle time htime) hlater

/-- Nor are they earlier than the first call. -/
theorem Forward.time_le_sample {rest : List TimedCall} (h : Forward r (c :: rest))
    (hb : r.handlers = .standard) (timed : ∀ d ∈ c :: rest, d.IsTimed) (ht : c.time? = some time) :
    ∀ s ∈ TimedCall.samples (c :: rest), time ≤ s.time := by
  have hc := timed c List.mem_cons_self
  intro s hs
  rcases TimedCall.mem_samples_cons.1 hs with hs | hs
  · obtain rfl := Option.some.inj (ht.symm.trans (hc.time_of_sample hs))
    exact UInt64.le_refl _
  · have hlater := h.2.now_le_sample ((r.handlers_performTimed c).trans hb)
      (fun d hd => timed d (List.mem_cons_of_mem c hd)) s hs
    rwa [now_performTimed hb hc ht (h.1 time ht)] at hlater

/-! ## What callbacks leave alone -/

theorem config_facing (r : Recognizer Queue) (c : TimedCall) : (r.facing c).config = r.config := by
  unfold facing
  split
  · exact drain_keeps (P := fun q => q.config = r.config) (fun _ _ _ _ h => h) _ rfl
  · rfl

theorem config_performTimed (r : Recognizer Queue) (c : TimedCall) :
    (r.performTimed c).next.config = r.config := by
  rw [next_performTimed]
  split
  · rename_i call _
    rw [← r.config_facing c]
    cases call <;> rfl
  · exact r.config_facing c

theorem config_after (r : Recognizer Queue) (calls : List TimedCall) :
    (after performTimed r calls).config = r.config :=
  after_keeps (P := fun q => q.config = r.config)
    (fun q c _ h => (q.config_performTimed c).trans h) rfl

/-- What every callback keeps, all callbacks of a call keep, if a move of the clock does too. -/
theorem facing_keeps {P : Recognizer Queue → Prop}
    (htimers : ∀ (q : Recognizer Queue) timers, P q → P (q.withTimers timers))
    (hcallback : ∀ (q : Recognizer Queue) slot ticket, P q → P (q.onTimer slot ticket).next)
    (h : P r) (c : TimedCall) : P (r.facing c) := by
  unfold facing
  split
  · exact htimers _ _ (drain_keeps (P := P)
      (fun q e rest _ hq => hcallback (q.withTimers rest) e.slot e.ticket (htimers q rest hq)) _ h)
  · exact h

theorem inStance_facing (r : Recognizer Queue) (c : TimedCall) (v : Stance Queue) :
    (r.facing c).context.inStance v = r.context.inStance v :=
  facing_keeps (P := fun q => q.context.inStance v = r.context.inStance v) (fun _ _ h => h)
    (fun q slot ticket h => (q.inStance_onTimer slot ticket v).trans h) rfl c

theorem lastTapTime_facing (r : Recognizer Queue) (c : TimedCall) :
    (r.facing c).context.lastTapTime = r.context.lastTapTime := by
  have hrest := congrArg Context.lastTapTime (r.inStance_facing c r.stance)
  exact hrest

theorem scroll_facing (r : Recognizer Queue) (c : TimedCall) :
    (r.facing c).context.scroll = r.context.scroll := by
  have hrest := congrArg Context.scroll (r.inStance_facing c r.stance)
  exact hrest

theorem state_onTimer_of_not_drag {σ : Type} [Scheduler σ] {r : Recognizer σ}
    (h : r.state ≠ .dragActive) (slot : Slot) (ticket : Ticket) :
    (r.onTimer slot ticket).next.state = r.state := by
  by_cases hlive : r.context.slots.get? slot = some ticket
  · have hstate := congrArg Stance.state (onTimer_of_live hlive).1
    rwa [← Stance.deliver, Stance.state_deliver_of_not_drag h] at hstate
  · rw [(onTimer_of_stale hlive).1]

theorem state_facing_of_not_drag (h : r.state ≠ .dragActive) (c : TimedCall) :
    (r.facing c).state = r.state :=
  facing_keeps (P := fun q => q.state = r.state) (fun _ _ h => h)
    (fun q slot ticket hq => by
      rw [state_onTimer_of_not_drag (hq.trans_ne h), hq]) rfl c

theorem window_onTimer (r : Recognizer Queue) (slot : Slot) (ticket : Ticket) :
    (r.onTimer slot ticket).next.context.window = r.context.window ∨
      (r.onTimer slot ticket).next.context.window = .idle := by
  by_cases hlive : r.context.slots.get? slot = some ticket
  · have hwindow := congrArg Stance.window (onTimer_of_live hlive).1
    rw [← Stance.deliver] at hwindow
    exact (r.stance.window_deliver slot).imp hwindow.trans hwindow.trans
  · rw [(onTimer_of_stale hlive).1]
    exact .inl rfl

/-- Callbacks may close the window, and do nothing else to it. -/
theorem window_facing (r : Recognizer Queue) (c : TimedCall) :
    (r.facing c).context.window = r.context.window ∨ (r.facing c).context.window = .idle :=
  facing_keeps (P := fun q => q.context.window = r.context.window ∨ q.context.window = .idle)
    (fun _ _ h => h)
    (fun q slot ticket hq => by
      rcases q.window_onTimer slot ticket with hsame | hidle
      · rwa [hsame]
      · exact .inr hidle) (.inl rfl) c

end Recognizer

end Trackpad
