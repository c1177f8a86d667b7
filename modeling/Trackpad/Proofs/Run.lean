import Trackpad.Proofs.Calls

/-!
# Run — the deeds of a run

What a call does after its callbacks is one deed of the table (`performTimed_does`). Whether it can
accept a tap, begin a drag or drop the gesture is read off the call and the recognizer that takes
the sample (`Accepts`, `Hovers`, `TimedCall.Drops`). A run does one deed after another, so what
every call keeps, the run keeps (`after_keeps`).
-/

namespace Trackpad

namespace Recognizer

/-- The call hands on a tap. -/
def Accepts (r : Recognizer Queue) (c : TimedCall) : Prop :=
  ∃ s ∈ c.sample?, (r.facing c).context.Taps (r.facing c).config.touchSlop s

/-- The call hands on the movement of a finger that hovers. -/
def Hovers (r : Recognizer Queue) (c : TimedCall) : Prop :=
  ∃ s ∈ c.sample?, (r.facing c).context.Hovers s

instance (r : Recognizer Queue) (c : TimedCall) : Decidable (r.Accepts c) :=
  inferInstanceAs (Decidable (∃ s ∈ c.sample?, (r.facing c).context.Taps _ s))

instance (r : Recognizer Queue) (c : TimedCall) : Decidable (r.Hovers c) :=
  inferInstanceAs (Decidable (∃ s ∈ c.sample?, (r.facing c).context.Hovers s))

/-- After its callbacks, the call does the deed `d`. -/
structure Does (r : Recognizer Queue) (c : TimedCall) (d : Deed) : Prop where
  stance : (r.performTimed c).next.stance = d.apply (r.facing c).stance
  sent : (r.performTimed c).sent = r.lapse c ++ d.sends
  fits : match c.sample? with
    | some s => d.Fits (r.facing c).context (r.facing c).config.touchSlop s
    | none => d = .nothing ∨ (d = .drop ∧ c.Drops)

/-- What a call with a sample does, it does by handling the sample. -/
theorem performTimed_of_sample (r : Recognizer Queue) {c : TimedCall} {s : Sample}
    (h : s ∈ c.sample?) :
    (r.performTimed c).next = ((r.facing c).handle s).next ∧
      (r.performTimed c).sent = r.lapse c ++ ((r.facing c).handle s).sent := by
  have hsent := r.sent_performTimed c
  cases c with
  | plain call =>
    cases call with
    | handle t => cases h; exact ⟨rfl, hsent⟩
    | _ => cases h
  | handleAt t => cases h; exact ⟨rfl, hsent⟩
  | advanceTo time => cases h

/-- A call whose callbacks are its own does one deed after them. -/
theorem performTimed_does {r : Recognizer Queue} (hb : r.handlers = .standard) {c : TimedCall}
    (hc : c.IsDriven) : ∃ d, r.Does c d := by
  have hf : (r.facing c).handlers = .standard := (r.handlers_facing c).trans hb
  cases hc' : c.sample? with
  | some s =>
    obtain ⟨d, hfit, hst, hse⟩ := handle_does hf s
    obtain ⟨hnext, hsent⟩ := r.performTimed_of_sample hc'
    exact ⟨d, by rw [hnext, hst], by rw [hsent, hse], by rw [hc']; exact hfit⟩
  | none =>
    have hsent := r.sent_performTimed c
    cases c with
    | plain call =>
      cases call with
      | handle s => cases hc'
      | onTimer slot ticket => exact hc.elim
      | reset =>
        obtain ⟨hst, hse⟩ := r.reset_does
        exact ⟨.drop, hst, hsent.trans (congrArg _ hse), .inr ⟨rfl, .inl rfl⟩⟩
    | handleAt s => cases hc'
    | advanceTo time => exact ⟨.nothing, rfl, hsent, .inl rfl⟩

namespace Does

variable {r : Recognizer Queue} {c : TimedCall} {d : Deed}

theorem slots (h : r.Does c d) :
    (r.performTimed c).next.context.slots = (d.apply (r.facing c).stance).slots :=
  congrArg Stance.slots h.stance

theorem timers (h : r.Does c d) :
    (r.performTimed c).next.timers = (d.apply (r.facing c).stance).timers :=
  congrArg Stance.timers h.stance

/-- What a deed needs of a sample, where it cannot come without one. -/
theorem exists_sample (h : r.Does c d) (h1 : d ≠ .nothing) (h2 : d ≠ .drop) :
    ∃ s ∈ c.sample?, d.Fits (r.facing c).context (r.facing c).config.touchSlop s := by
  have hf := h.fits
  split at hf
  · rename_i s hs
    exact ⟨s, hs, hf⟩
  · rcases hf with hf | ⟨hf, -⟩
    · exact absurd hf h1
    · exact absurd hf h2

theorem accepts {deadline : Time} (h : r.Does c (.acceptTap deadline)) : r.Accepts c := by
  obtain ⟨s, hs, hf⟩ := h.exists_sample nofun nofun
  exact ⟨s, hs, hf.1⟩

theorem hovers {p : Point} (h : r.Does c (.beginDrag p)) : r.Hovers c := by
  obtain ⟨s, hs, hf⟩ := h.exists_sample nofun nofun
  exact ⟨s, hs, hf.1⟩

theorem drops (h : r.Does c .drop) : c.Drops := by
  have hf := h.fits
  split at hf
  · rename_i s hs
    exact .inr ⟨s, hs, hf⟩
  · rcases hf with hf | ⟨-, hf⟩
    · cases hf
    · exact hf

/-- What the turn of the sample does, the call does. -/
theorem of_turn (hb : r.handlers = .standard) {s : Sample} (hs : s ∈ c.sample?)
    (hd : (r.facing c).turn.Does s d ((r.facing c).turn.route .standard s).2) : r.Does c d := by
  have hf : (r.facing c).handlers = .standard := (r.handlers_facing c).trans hb
  obtain ⟨hst, hse⟩ := handle_of_turn hf hd
  obtain ⟨hnext, hsent⟩ := r.performTimed_of_sample hs
  refine ⟨by rw [hnext, hst], by rw [hsent, hse], ?_⟩
  rw [Option.mem_def.1 hs]
  exact hd.fits

theorem of_accepts (hb : r.handlers = .standard) (h : r.Accepts c) :
    ∃ deadline, r.Does c (.acceptTap deadline) := by
  obtain ⟨s, hs, htaps⟩ := h
  exact ⟨_, of_turn hb hs (Turn.route_of_taps htaps)⟩

theorem of_hovers (hb : r.handlers = .standard) (h : r.Hovers c)
    (hw : (r.facing c).context.window.isArmed = true) : ∃ p, r.Does c (.beginDrag p) := by
  obtain ⟨s, hs, hhovers⟩ := h
  exact ⟨s.position, of_turn hb hs (Turn.route_of_hovers hhovers hw)⟩

theorem of_drops (h : c.Drops) : r.Does c .drop := by
  rcases h with rfl | ⟨s, hs, hcancel⟩
  · obtain ⟨hst, hse⟩ := r.reset_does
    exact ⟨hst, (r.sent_performTimed _).trans (congrArg _ hse), .inr ⟨rfl, .inl rfl⟩⟩
  · obtain ⟨hnext, hse⟩ := (r.facing c).handle_of_cancel hcancel
    obtain ⟨hnext', hsent⟩ := r.performTimed_of_sample hs
    refine ⟨by rw [hnext', hnext]; exact (r.facing c).reset_does.1, by rw [hsent, hse]; rfl, ?_⟩
    rw [Option.mem_def.1 hs]
    exact hcancel

end Does

end Recognizer

/-! ## Runs -/

namespace Recognizer

variable {σ γ : Type} {step : Recognizer σ → γ → Reply σ Answer}

theorem after_cons (r : Recognizer σ) (c : γ) (rest : List γ) :
    after step r (c :: rest) = after step (step r c).next rest := rfl

/-- The commands that a run sends. -/
def sentIn (step : Recognizer σ → γ → Reply σ Answer) (r : Recognizer σ) (calls : List γ) :
    List Command := Event.commands (emitted step r calls)

theorem sentIn_cons (r : Recognizer σ) (c : γ) (rest : List γ) :
    sentIn step r (c :: rest) = (step r c).sent ++ sentIn step (step r c).next rest := by
  simp [sentIn, emitted, replay, Reply.sent]

theorem sentIn_singleton (r : Recognizer σ) (c : γ) : sentIn step r [c] = (step r c).sent := by
  rw [sentIn_cons]
  exact List.append_nil _

theorem sentIn_append (r : Recognizer σ) (first second : List γ) :
    sentIn step r (first ++ second) =
      sentIn step r first ++ sentIn step (after step r first) second := by
  induction first generalizing r with
  | nil => rfl
  | cons c rest ih => simp [sentIn_cons, after_cons, ih]

/-- Whatever each call of a run keeps, the run keeps. -/
theorem after_keeps {P : Recognizer σ → Prop} {calls : List γ}
    (hstep : ∀ r : Recognizer σ, ∀ c ∈ calls, P r → P (step r c).next)
    {r : Recognizer σ} (h : P r) : P (after step r calls) := by
  induction calls generalizing r with
  | nil => exact h
  | cons c rest ih =>
    exact ih (fun r d hd => hstep r d (List.mem_cons_of_mem c hd))
      (hstep r c List.mem_cons_self h)

theorem handlers_after [Scheduler σ] (r : Recognizer σ) (calls : List Call) :
    (after perform r calls).handlers = r.handlers :=
  after_keeps (P := fun q => q.handlers = r.handlers)
    (fun q c _ h => (q.handlers_perform c).trans h) rfl

theorem handlers_afterTimed (r : Recognizer Queue) (calls : List TimedCall) :
    (after performTimed r calls).handlers = r.handlers :=
  after_keeps (P := fun q => q.handlers = r.handlers)
    (fun q c _ h => (q.handlers_performTimed c).trans h) rfl

/-- Whatever each call keeps of the commands so far and of the recognizer, the run keeps. -/
theorem sentIn_keeps {P : List Command → Recognizer σ → Prop} {calls : List γ}
    (hstep : ∀ past r, ∀ c ∈ calls, P past r → P (past ++ (step r c).sent) (step r c).next)
    {past : List Command} {r : Recognizer σ} (h : P past r) :
    P (past ++ sentIn step r calls) (after step r calls) := by
  induction calls generalizing past r with
  | nil => rwa [show past ++ sentIn step r [] = past from List.append_nil past]
  | cons c rest ih =>
    rw [sentIn_cons, ← List.append_assoc]
    exact ih (fun sent q d hd => hstep sent q d (List.mem_cons_of_mem c hd))
      (hstep past r c List.mem_cons_self h)

end Recognizer

end Trackpad
