import Trackpad.Proofs.Forward

/-!
# Host — calls of whatever kind

A recognizer is used by a host. One makes the calls that every scheduler allows (`Host.direct`),
another keeps a queue and makes calls that come with a time (`Host.queued`). To the recognizer the
calls of both come down to the same. Callbacks are delivered first, while the host does with its
scheduler what it likes (`Recognizer.Idles`); then the recognizer is asked for at most one thing
(`Request`), which it grants (`Recognizer.grant`). A `Host` is a kind of calls that come down to
this, and what is proved of every host holds of both.

While it idles, a recognizer keeps all of its context that is in no stance, it may leave a drag but
no other state, and it does not turn the wheel.
-/

namespace Trackpad

/-! ## Requests -/

/-- What a call asks for once its callbacks are delivered. -/
inductive Request where
  | nothing
  | sample (s : Sample)
  | reset
deriving DecidableEq

namespace Request

/-- The sample that is handed over. -/
def sample? : Request → Option Sample
  | sample s => some s
  | nothing | reset => none

/-- A sample is handed over, and it is one of these. -/
def Asks (P : Sample → Prop) : Request → Prop
  | sample s => P s
  | nothing | reset => False

/-- The gesture in flight is dropped, by a reset or by a cancel of the platform. -/
def Drops (q : Request) : Prop := q = reset ∨ q.Asks (·.action = .cancel)

/-- There is no reset, and a sample is one of these. -/
def Allows (P : Sample → Prop) : Request → Prop
  | nothing => True
  | sample s => P s
  | reset => False

instance decideAsks (P : Sample → Prop) [DecidablePred P] : DecidablePred (Asks P)
  | nothing | reset => isFalse id
  | sample s => inferInstanceAs (Decidable (P s))

instance : DecidablePred Drops := fun q =>
  inferInstanceAs (Decidable (q = reset ∨ q.Asks (·.action = .cancel)))

instance decideAllows (P : Sample → Prop) [DecidablePred P] : DecidablePred (Allows P)
  | nothing => isTrue trivial
  | sample s => inferInstanceAs (Decidable (P s))
  | reset => isFalse id

theorem asks_iff {P : Sample → Prop} {q : Request} : q.Asks P ↔ ∃ s, q = sample s ∧ P s := by
  cases q with
  | sample s => simp [Asks]
  | nothing | reset => simp [Asks]

theorem Allows.mono {P Q : Sample → Prop} {q : Request} (h : q.Allows P) (hPQ : ∀ s, P s → Q s) :
    q.Allows Q := by
  cases q with
  | nothing => trivial
  | sample s => exact hPQ s h
  | reset => exact h.elim

theorem Allows.of_sample {P : Sample → Prop} {q : Request} {s : Sample} (h : q.Allows P)
    (hq : q = sample s) : P s := by
  subst hq
  exact h

theorem drops_sample {s : Sample} : (sample s).Drops ↔ s.action = .cancel := by
  simp [Drops, Asks]

end Request

namespace Recognizer

variable {σ : Type} [Scheduler σ]

/-- Does what is asked for. -/
def grant (r : Recognizer σ) : Request → Reply σ Unit
  | .nothing => ⟨(), [], r⟩
  | .sample s => (r.handle s).map fun _ => ()
  | .reset => r.reset

theorem grant_sample {r : Recognizer σ} (hb : r.handlers = .standard) (s : Sample) :
    r.grant (.sample s) = (r.conclude (r.turn.route .standard s)).map fun _ => () := by
  rw [grant, handle_of_standard hb]

/-- From `r` to `q` callbacks are delivered, live ones or stale ones, and the host does what it
likes with its scheduler. Meanwhile `told` is let out. -/
inductive Idles (r : Recognizer σ) : List Event → Recognizer σ → Prop where
  | start : Idles r [] r
  | clock {told : List Event} {q : Recognizer σ} (timers : σ) :
      Idles r told q → Idles r told (q.withTimers timers)
  | callback {told : List Event} {q : Recognizer σ} (slot : Slot) (ticket : Ticket) :
      Idles r told q →
        Idles r (told ++ (q.onTimer slot ticket).events) (q.onTimer slot ticket).next

/-! ## Idling -/

namespace Idles

variable {r q : Recognizer σ} {told : List Event}

theorem handlers (h : r.Idles told q) : q.handlers = r.handlers := by
  induction h with
  | start => rfl
  | clock _ _ ih => exact ih
  | callback _ _ _ ih => exact ih

theorem config (h : r.Idles told q) : q.config = r.config := by
  induction h with
  | start => rfl
  | clock _ _ ih => exact ih
  | callback _ _ _ ih => exact ih

theorem inStance (h : r.Idles told q) (v : Stance σ) :
    q.context.inStance v = r.context.inStance v := by
  induction h with
  | start => rfl
  | clock _ _ ih => exact ih
  | callback slot ticket _ ih => rw [inStance_onTimer, ih]

theorem scroll (h : r.Idles told q) : q.context.scroll = r.context.scroll := by
  have hrest := congrArg Context.scroll (h.inStance r.stance)
  exact hrest

theorem pinch (h : r.Idles told q) : q.context.pinch = r.context.pinch := by
  have hrest := congrArg Context.pinch (h.inStance r.stance)
  exact hrest

end Idles

/-- A callback ends a drag or leaves the state alone. -/
theorem state_onTimer (r : Recognizer σ) (slot : Slot) (ticket : Ticket) :
    (r.onTimer slot ticket).next.state = r.state ∨
      (r.state = .dragActive ∧ (r.onTimer slot ticket).next.state = .hoverTracking) := by
  by_cases hdrag : r.state = .dragActive
  · by_cases hlive : r.context.slots.get? slot = some ticket
    · have hstate := congrArg Stance.state (onTimer_of_live hlive).1
      have hstate' : (r.onTimer slot ticket).next.state =
          ((r.stance.vacate slot).expire slot).state := hstate
      rw [hstate']
      cases slot with
      | dragTimeout =>
        have hvacated : (r.stance.vacate .dragTimeout).state = .dragActive := hdrag
        rw [Stance.expire_of_drag hvacated]
        exact .inr ⟨hdrag, rfl⟩
      | _ => exact .inl rfl
    · rw [(onTimer_of_stale hlive).1]
      exact .inl rfl
  · exact .inl (state_onTimer_of_not_drag hdrag slot ticket)

/-- All that a callback can send is the click of a tap and the release of a drag. -/
theorem sent_onTimer (r : Recognizer σ) (slot : Slot) (ticket : Ticket) :
    ∀ cmd ∈ (r.onTimer slot ticket).sent, cmd = .click .left ∨ cmd = .release .left := by
  intro cmd hcmd
  by_cases hlive : r.context.slots.get? slot = some ticket
  · rw [(onTimer_of_live hlive).2] at hcmd
    cases slot with
    | delayedClick =>
      simp only [Stance.expirySends] at hcmd
      split at hcmd
      · exact .inl (List.mem_singleton.1 hcmd)
      · cases hcmd
    | dragTimeout =>
      simp only [Stance.expirySends] at hcmd
      split at hcmd
      · exact .inr (List.mem_singleton.1 hcmd)
      · cases hcmd
    | doubleTapExpiry | twoFingerTapExpiry => cases hcmd
  · rw [(onTimer_of_stale hlive).2] at hcmd
    cases hcmd

namespace Idles

variable {r q : Recognizer σ} {told : List Event} {st : State}

/-- Apart from a drag that ends in hovering, the state is the one before. -/
theorem state_iff (h : r.Idles told q) (hdrag : st ≠ .dragActive) (hhover : st ≠ .hoverTracking) :
    q.state = st ↔ r.state = st := by
  induction h with
  | start => rfl
  | clock _ _ ih => exact ih
  | @callback _ p slot ticket _ ih =>
    rw [← ih]
    rcases p.state_onTimer slot ticket with hsame | ⟨hp, hnext⟩
    · rw [hsame]
    · rw [hp, hnext]
      exact ⟨fun heq => absurd heq.symm hhover, fun heq => absurd heq.symm hdrag⟩

theorem not_isWheel (h : r.Idles told q) : ∀ cmd ∈ Event.commands told, ¬cmd.IsWheel := by
  induction h with
  | start => exact List.forall_mem_nil _
  | clock _ _ ih => exact ih
  | @callback _ p slot ticket _ ih =>
    intro cmd hcmd
    rw [Event.commands_append, List.mem_append] at hcmd
    rcases hcmd with hbefore | hnow
    · exact ih cmd hbefore
    · rcases p.sent_onTimer slot ticket cmd hnow with rfl | rfl
      · exact id
      · exact id

theorem trans {p : Recognizer σ} {later : List Event} (h : r.Idles told q)
    (hlater : q.Idles later p) : r.Idles (told ++ later) p := by
  induction hlater with
  | start => rwa [List.append_nil]
  | clock timers _ ih => exact ih.clock timers
  | callback slot ticket _ ih =>
    rw [← List.append_assoc]
    exact ih.callback slot ticket

theorem deliverAll (r : Recognizer σ) (cs : List Callback) :
    r.Idles (r.deliverAll cs).events (r.deliverAll cs).next := by
  induction cs generalizing r with
  | nil => exact .start
  | cons c rest ih =>
    have hfirst : r.Idles (r.onTimer c.slot c.ticket).events (r.onTimer c.slot c.ticket).next :=
      start.callback c.slot c.ticket
    exact hfirst.trans (ih _)

theorem advanceTo (r : Recognizer Queue) (time : Time) :
    r.Idles (r.advanceTo time).events (r.advanceTo time).next := by
  rw [advanceTo_eq_deliverAll]
  have hmoved : r.Idles [] (r.withTimers (r.timers.advanceTo time).2) := start.clock _
  exact hmoved.trans (deliverAll _ _)

end Idles

end Recognizer

/-! ## Hosts -/

/-- A kind of calls that deliver callbacks first and ask for one thing then. -/
structure Host (σ γ : Type) [Scheduler σ] where
  /-- Performs a call. -/
  step : Recognizer σ → γ → Reply σ Answer
  /-- What a call asks for. -/
  request : γ → Request
  /-- The recognizer that grants it. -/
  facing : Recognizer σ → γ → Recognizer σ
  /-- What is let out before. -/
  lapse : Recognizer σ → γ → List Event
  idles (r : Recognizer σ) (c : γ) : r.Idles (lapse r c) (facing r c)
  events_step (r : Recognizer σ) (c : γ) :
    (step r c).events = lapse r c ++ ((facing r c).grant (request c)).events
  next_step (r : Recognizer σ) (c : γ) : (step r c).next = ((facing r c).grant (request c)).next

/-- What a call asks for: a callback that is delivered asks for nothing more. -/
def Call.request : Call → Request
  | handle s => .sample s
  | onTimer .. => .nothing
  | reset => .reset

def TimedCall.request : TimedCall → Request
  | plain c => c.request
  | handleAt s => .sample s
  | advanceTo _ => .nothing

namespace Host

open Recognizer

variable {σ γ : Type} [Scheduler σ]

/-- The host that delivers callbacks one by one, as its scheduler has them due. -/
def direct : Host σ Call where
  step := perform
  request := Call.request
  facing
    | r, .onTimer slot ticket => (r.onTimer slot ticket).next
    | r, .handle _ | r, .reset => r
  lapse
    | r, .onTimer slot ticket => (r.onTimer slot ticket).events
    | _, .handle _ | _, .reset => []
  idles
    | _, .onTimer slot ticket => Idles.start.callback slot ticket
    | _, .handle _ | _, .reset => .start
  events_step
    | _, .onTimer _ _ => (List.append_nil _).symm
    | _, .handle _ | _, .reset => rfl
  next_step
    | _, .onTimer _ _ | _, .handle _ | _, .reset => rfl

/-- The host that keeps a queue and leaves the delivery to the recognizer. -/
def queued : Host Queue TimedCall where
  step := performTimed
  request := TimedCall.request
  facing
    | r, .plain c => direct.facing r c
    | r, .handleAt s => (r.advanceTo s.time).next
    | r, .advanceTo time => (r.advanceTo time).next
  lapse
    | r, .plain c => direct.lapse r c
    | r, .handleAt s => (r.advanceTo s.time).events
    | r, .advanceTo time => (r.advanceTo time).events
  idles
    | r, .plain c => direct.idles r c
    | r, .handleAt s => Idles.advanceTo r s.time
    | r, .advanceTo time => Idles.advanceTo r time
  events_step
    | r, .plain c => direct.events_step r c
    | _, .handleAt _ => rfl
    | _, .advanceTo _ => (List.append_nil _).symm
  next_step
    | r, .plain c => direct.next_step r c
    | _, .handleAt _ | _, .advanceTo _ => rfl

variable {r : Recognizer σ} {c : γ}

theorem sent_step (h : Host σ γ) (r : Recognizer σ) (c : γ) :
    (h.step r c).sent =
      Event.commands (h.lapse r c) ++ ((h.facing r c).grant (h.request c)).sent := by
  rw [Reply.sent, h.events_step, Event.commands_append]
  rfl

theorem handlers_step (h : Host σ γ) (r : Recognizer σ) (c : γ) :
    (h.step r c).next.handlers = r.handlers := by
  rw [h.next_step, ← (h.idles r c).handlers]
  cases h.request c <;> rfl

theorem config_step (h : Host σ γ) (r : Recognizer σ) (c : γ) :
    (h.step r c).next.config = r.config := by
  rw [h.next_step, ← (h.idles r c).config]
  cases h.request c <;> rfl

theorem handlers_after (h : Host σ γ) (r : Recognizer σ) (calls : List γ) :
    (after h.step r calls).handlers = r.handlers :=
  after_keeps (P := fun q => q.handlers = r.handlers)
    (fun q c _ hq => (h.handlers_step q c).trans hq) rfl

theorem config_after (h : Host σ γ) (r : Recognizer σ) (calls : List γ) :
    (after h.step r calls).config = r.config :=
  after_keeps (P := fun q => q.config = r.config)
    (fun q c _ hq => (h.config_step q c).trans hq) rfl

/-- A contact that comes down at rest begins what its kind suggests. -/
theorem context_of_down (h : Host σ γ) (hb : r.handlers = .standard) (hs : r.state = .idle)
    {s : Sample} (hreq : h.request c = .sample s) (ha : s.action = .down) :
    (h.step r c).next.context =
      ((((h.facing r c).turn.classify s).noteSample "idle" s).beginContact s).context := by
  have hidles := h.idles r c
  have hrests : (h.facing r c).state = .idle ↔ r.state = .idle :=
    hidles.state_iff (by decide) (by decide)
  have hroute := Turn.snd_route_of_down (t := (h.facing r c).turn) (hrests.2 hs) ha
  rw [h.next_step, hreq, grant_sample (hidles.handlers.trans hb), ← hroute]
  rfl

/-! ## Runs -/

/-- Each call of a run, with the recognizer that it is made to. -/
def Along (h : Host σ γ) (P : Recognizer σ → γ → Prop) : Recognizer σ → List γ → Prop
  | _, [] => True
  | r, c :: rest => P r c ∧ h.Along P (h.step r c).next rest

theorem along_append {h : Host σ γ} {P : Recognizer σ → γ → Prop} {first second : List γ} :
    h.Along P r (first ++ second) ↔
      h.Along P r first ∧ h.Along P (after h.step r first) second := by
  induction first generalizing r with
  | nil => exact ⟨fun hP => ⟨trivial, hP⟩, And.right⟩
  | cons c rest ih => simp only [List.cons_append, Along, ih, after_cons, and_assoc]

theorem along_concat {h : Host σ γ} {P : Recognizer σ → γ → Prop} {calls : List γ} :
    h.Along P r (calls ++ [c]) ↔ h.Along P r calls ∧ P (after h.step r calls) c := by
  simp only [along_append, Along, and_true]

/-- Some call of a run was as `E` says, and all calls since were as `K` says. -/
def Since (h : Host σ γ) (K E : Recognizer σ → γ → Prop) (r : Recognizer σ) (calls : List γ) :
    Prop :=
  ∃ before c later, calls = before ++ c :: later ∧ E (after h.step r before) c ∧
    h.Along K (h.step (after h.step r before) c).next later

section

variable {h : Host σ γ} {K E : Recognizer σ → γ → Prop} {calls : List γ}

theorem not_since_nil : ¬h.Since K E r [] := by
  rintro ⟨before, c, later, hcalls, -⟩
  exact List.append_ne_nil_of_right_ne_nil before (List.cons_ne_nil c later) hcalls.symm

theorem since_concat :
    h.Since K E r (calls ++ [c]) ↔
      E (after h.step r calls) c ∨ (K (after h.step r calls) c ∧ h.Since K E r calls) := by
  constructor
  · rintro ⟨before, d, later, hcalls, hevent, halong⟩
    rcases List.eq_nil_or_concat later with rfl | ⟨later, e, rfl⟩
    · obtain ⟨rfl, hc⟩ := List.append_inj' hcalls rfl
      cases hc
      exact .inl hevent
    · rw [List.concat_eq_append] at hcalls halong
      rw [← List.cons_append, ← List.append_assoc] at hcalls
      obtain ⟨rfl, hc⟩ := List.append_inj' hcalls rfl
      cases hc
      rw [along_concat] at halong
      rw [after_append]
      exact .inr ⟨halong.2, before, d, later, rfl, hevent, halong.1⟩
  · rintro (hevent | ⟨hkept, before, d, later, rfl, hevent, halong⟩)
    · exact ⟨calls, c, [], rfl, hevent, trivial⟩
    · rw [after_append] at hkept
      exact ⟨before, d, later ++ [c], by rw [List.append_assoc]; rfl, hevent,
        along_concat.2 ⟨halong, hkept⟩⟩

/-- Some call of a run was as `E` says. -/
def Once (h : Host σ γ) (E : Recognizer σ → γ → Prop) : Recognizer σ → List γ → Prop :=
  h.Since (fun _ _ => True) E

theorem once_concat : h.Once E r (calls ++ [c]) ↔ E (after h.step r calls) c ∨ h.Once E r calls := by
  simp only [Once, since_concat, true_and]

end

/-- The samples that some calls hand over. -/
def samples (h : Host σ γ) (calls : List γ) : List Sample :=
  calls.filterMap fun c => (h.request c).sample?

theorem samples_concat {h : Host σ γ} {calls : List γ} :
    h.samples (calls ++ [c]) = h.samples calls ++ (h.request c).sample?.toList := by
  rw [samples, List.filterMap_append]
  cases hreq : (h.request c).sample? <;> simp [samples, hreq]

end Host

end Trackpad
