import Trackpad.Proofs.Forward

/-!
# Contact — what lasts as long as a contact does

A contact comes down with one sample and goes up with another. In between come samples that do not
end it (`Sample.EndsContact`), and callbacks whenever the scheduler has them due. What is known of
such a stretch speaks of the samples that came so far, of the commands that were sent so far, and of
the recognizer. If a single callback and a single sample carry that on (`Carried`), the stretch
does, over any scheduler with the calls that all of them have (`Carried.run`), and over a queue with
calls that come with a time (`Carried.runTimed`).

Nothing is asked of the tickets that callbacks come with, so it makes no difference which of them
are stale, nor in which order they come.
-/

namespace Trackpad

/-- The sample ends whatever contact is down: it is lifted, cancelled, or becomes something else. -/
def Sample.EndsContact (s : Sample) : Prop :=
  s.action = .up ∨ s.action = .buttonPress ∨ s.action = .cancel ∨
    (s.action = .pointerDown ∧ s.pointerCount = 2)

instance (s : Sample) : Decidable s.EndsContact :=
  inferInstanceAs (Decidable (_ ∨ _ ∨ _ ∨ _))

/-- The samples of a contact of a kind: it comes down with `down`, it goes up with `lift`, and the
samples in between are `allowed`. -/
structure IsContact (kind : Kind) (allowed : Sample → Prop) (down : Sample)
    (between : List Sample) (lift : Sample) : Prop where
  comesDown : down.action = .down
  isOfKind : down.kind = kind
  allowed : ∀ s ∈ between, allowed s
  goesUp : lift.action = .up

namespace Call

/-- The sample of a call. -/
def sample? : Call → Option Sample
  | handle s => some s
  | onTimer .. | reset => none

/-- The samples among some calls. -/
def samples (calls : List Call) : List Sample := calls.filterMap sample?

end Call

namespace Recognizer

variable {σ γ : Type}

/-- Whatever each call of a run carries on, of the samples and the commands so far and of the
recognizer, the run carries on. -/
theorem carries_run {step : Recognizer σ → γ → Reply σ Answer} {sample? : γ → Option Sample}
    {P : List Sample → List Command → Recognizer σ → Prop} {calls : List γ}
    (hstep : ∀ past sent r, ∀ c ∈ calls, P past sent r →
      P (past ++ (sample? c).toList) (sent ++ (step r c).sent) (step r c).next)
    {past : List Sample} {sent : List Command} {r : Recognizer σ} (h : P past sent r) :
    P (past ++ calls.filterMap sample?) (sent ++ sentIn step r calls) (after step r calls) := by
  induction calls generalizing past sent r with
  | nil =>
    rw [show sentIn step r [] = [] from rfl, List.filterMap_nil, List.append_nil, List.append_nil]
    exact h
  | cons c rest ih =>
    have hsamples : (c :: rest).filterMap sample? =
        (sample? c).toList ++ rest.filterMap sample? := by
      cases hc : sample? c <;> simp [hc]
    rw [hsamples, sentIn_cons, ← List.append_assoc, ← List.append_assoc]
    exact ih (fun past sent q d hd => hstep past sent q d (List.mem_cons_of_mem c hd))
      (hstep past sent r c List.mem_cons_self h)

variable [Scheduler σ]

/-- What is known of the samples so far, of the commands so far and of the recognizer, a callback
carries on, whichever it is, and so does a sample of the kind `allowed`. A clock that only moves
makes no difference. -/
structure Carried (allowed : Sample → Prop)
    (P : List Sample → List Command → Recognizer σ → Prop) : Prop where
  callback {past : List Sample} {sent : List Command} {r : Recognizer σ} (slot : Slot)
    (ticket : Ticket) : P past sent r →
      P past (sent ++ (r.onTimer slot ticket).sent) (r.onTimer slot ticket).next
  sample {past : List Sample} {sent : List Command} {r : Recognizer σ} {s : Sample} :
    r.handlers = .standard → allowed s → P past sent r →
      P (past ++ [s]) (sent ++ (r.handle s).sent) (r.handle s).next
  clock {past : List Sample} {sent : List Command} {r : Recognizer σ} (timers : σ) :
    P past sent r → P past sent (r.withTimers timers)

namespace Carried

variable {allowed : Sample → Prop} {past : List Sample} {sent : List Command}

section

variable {P : List Sample → List Command → Recognizer σ → Prop} {r : Recognizer σ}

theorem perform (h : Carried allowed P) (hb : r.handlers = .standard) {c : Call}
    (hreset : c ≠ .reset) (hallowed : ∀ s ∈ c.sample?, allowed s) (hP : P past sent r) :
    P (past ++ c.sample?.toList) (sent ++ (r.perform c).sent) (r.perform c).next := by
  cases c with
  | handle s => exact h.sample hb (hallowed s rfl) hP
  | onTimer slot ticket =>
    rw [show (Call.onTimer slot ticket).sample?.toList = [] from rfl, List.append_nil]
    exact h.callback slot ticket hP
  | reset => exact absurd rfl hreset

/-- A stretch of samples and callbacks carries it on, over any scheduler. -/
theorem run (h : Carried allowed P) (hb : r.handlers = .standard) {calls : List Call}
    (hreset : .reset ∉ calls) (hallowed : ∀ s ∈ Call.samples calls, allowed s) (hP : P [] [] r) :
    P (Call.samples calls) (sentIn Recognizer.perform r calls)
      (after Recognizer.perform r calls) := by
  refine (carries_run (P := fun past sent q => q.handlers = .standard ∧ P past sent q)
    (fun past sent q c hc hq => ?_) ⟨hb, hP⟩).2
  exact ⟨(q.handlers_perform c).trans hq.1,
    h.perform hq.1 (fun heq => hreset (heq ▸ hc))
      (fun s hs => hallowed s (List.mem_filterMap.2 ⟨c, hc, hs⟩)) hq.2⟩

theorem deliverAll (h : Carried allowed P) (cs : List Callback) (hP : P past sent r) :
    P past (sent ++ (r.deliverAll cs).sent) (r.deliverAll cs).next := by
  induction cs generalizing sent r with
  | nil => rwa [show (r.deliverAll []).sent = [] from rfl, List.append_nil]
  | cons c rest ih =>
    rw [Recognizer.deliverAll, Reply.sent_followedBy, ← List.append_assoc]
    exact ih (h.callback c.slot c.ticket hP)

end

section

variable {P : List Sample → List Command → Recognizer Queue → Prop} {r : Recognizer Queue}
  {c : TimedCall}

/-- All callbacks of a call carry it on, to the recognizer that takes the sample. -/
theorem facing (h : Carried allowed P) (sent : List Command) (c : TimedCall)
    (hP : P past sent r) : P past (sent ++ r.lapse c) (r.facing c) := by
  have hadvance (time : Time) :
      P past (sent ++ (r.advanceTo time).sent) (r.advanceTo time).next := by
    rw [advanceTo_eq_deliverAll]
    exact h.deliverAll _ (h.clock _ hP)
  cases c with
  | plain call =>
    rw [show r.lapse (.plain call) = [] from rfl, List.append_nil]
    exact hP
  | handleAt s =>
    rw [lapse_of_time (c := .handleAt s) rfl]
    exact hadvance s.time
  | advanceTo time =>
    rw [lapse_of_time (c := .advanceTo time) rfl]
    exact hadvance time

theorem performTimed (h : Carried allowed P) (hb : r.handlers = .standard)
    (hreset : c ≠ .plain .reset) (hallowed : ∀ s ∈ c.sample?, allowed s) (hP : P past sent r) :
    P (past ++ c.sample?.toList) (sent ++ (r.performTimed c).sent) (r.performTimed c).next := by
  have hf : (r.facing c).handlers = .standard := (r.handlers_facing c).trans hb
  have hfacing := h.facing sent c hP
  rw [sent_performTimed, next_performTimed, ← List.append_assoc]
  cases c with
  | plain call =>
    have hsample : (TimedCall.plain call).sample? = call.sample? := by cases call <;> rfl
    rw [hsample] at hallowed ⊢
    exact h.perform hf (fun heq => hreset (heq ▸ rfl)) hallowed hfacing
  | handleAt s => exact h.sample hf (hallowed s rfl) hfacing
  | advanceTo time =>
    show P (past ++ []) (sent ++ r.lapse (.advanceTo time) ++ []) (r.facing (.advanceTo time))
    rwa [List.append_nil, List.append_nil]

/-- A stretch of calls over a queue carries it on, with the callbacks that their times make due. -/
theorem runTimed (h : Carried allowed P) (hb : r.handlers = .standard) {calls : List TimedCall}
    (hreset : .plain .reset ∉ calls) (hallowed : ∀ s ∈ TimedCall.samples calls, allowed s)
    (hP : P [] [] r) :
    P (TimedCall.samples calls) (sentIn Recognizer.performTimed r calls)
      (after Recognizer.performTimed r calls) := by
  refine (carries_run (P := fun past sent q => q.handlers = .standard ∧ P past sent q)
    (fun past sent q c hc hq => ?_) ⟨hb, hP⟩).2
  exact ⟨(q.handlers_performTimed c).trans hq.1,
    h.performTimed hq.1 (fun heq => hreset (heq ▸ hc))
      (fun s hs => hallowed s (List.mem_filterMap.2 ⟨c, hc, hs⟩)) hq.2⟩

end

end Carried

end Recognizer

end Trackpad
