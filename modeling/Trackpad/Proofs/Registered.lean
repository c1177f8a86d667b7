import Mathlib.Data.List.Induction
import Trackpad.Proofs.Host

/-!
# Registered — which handler a sample meets

A host may register a handler for a state or remove it, again and again, and nothing that a handler
does changes the registry. So what a registry holds is told by its history (`Registry.Made`): the
handler of a state is the one that was registered for it last, unless it was removed since
(`Registry.Made.get?_eq_some_iff`).

A sample comes to the registry in one of two ways, forwarded as it is or classified first. Where the
state has no handler, nothing comes of it but what was done on the way. Where every state has one,
there is always a handler to meet, in whatever state a run has come to.
-/

namespace Trackpad

/-! ## The history of a registry -/

namespace Registry

variable {σ : Type}

/-- What a host does to a registry. -/
inductive Edit (σ : Type) where
  | register (state : State) (handler : Handler σ)
  | remove (state : State)

namespace Edit

/-- The state that an edit is about. -/
def state : Edit σ → State
  | register state _ | remove state => state

/-- The handler that the state has after the edit. -/
def handler? : Edit σ → Option (Handler σ)
  | register _ handler => some handler
  | remove _ => none

/-- The registrations that the standard registry is made by. -/
def standard [Scheduler σ] : List (Edit σ) :=
  [register .idle .idle, register .hoverTracking .hover, register .singleTapPending .tap,
    register .dragActive .drag, register .twoFingerTapPending .twoFinger,
    register .twoFingerScroll .scroll, register .pinchZoom .pinch, register .physicalClick .physical]

end Edit

/-- Edits a registry. -/
def edit (r : Registry σ) : Edit σ → Registry σ
  | .register state handler => r.register state handler
  | .remove state => r.remove state

/-- Edits a registry time and again. -/
def edited (r : Registry σ) (edits : List (Edit σ)) : Registry σ := edits.foldl edit r

/-- The registry comes from an empty or a standard one by registering and removing handlers. The
history lists all that was done since it was empty. -/
inductive Made [Scheduler σ] : Registry σ → List (Edit σ) → Prop where
  | empty : Made .empty []
  | standard : Made .standard Edit.standard
  | edit {r : Registry σ} {history : List (Edit σ)} (e : Edit σ) (h : Made r history) :
      Made (r.edit e) (history ++ [e])

/-- The handler was registered for the state, and no later edit is about that state. -/
def LastRegistered (history : List (Edit σ)) (state : State) (handler : Handler σ) : Prop :=
  ∃ before later, history = before ++ .register state handler :: later ∧
    ∀ e ∈ later, e.state ≠ state

variable {r : Registry σ} {history : List (Edit σ)} {state : State} {handler : Handler σ}

theorem get?_edit (r : Registry σ) (e : Edit σ) (state : State) :
    (r.edit e).get? state = if state = e.state then e.handler? else r.get? state := by
  cases e with
  | register other handler => rfl
  | remove other => rfl

theorem not_lastRegistered_nil : ¬LastRegistered [] state handler := by
  rintro ⟨before, later, hnil, -⟩
  exact List.append_ne_nil_of_right_ne_nil before (List.cons_ne_nil _ later) hnil.symm

/-- The last edit decides if it is about the state, and otherwise those before it do. -/
theorem lastRegistered_concat {e : Edit σ} :
    LastRegistered (history ++ [e]) state handler ↔
      e = .register state handler ∨ (e.state ≠ state ∧ LastRegistered history state handler) := by
  constructor
  · rintro ⟨before, later, heq, hlater⟩
    rcases List.eq_nil_or_concat later with rfl | ⟨later, f, rfl⟩
    · exact .inl (List.singleton_inj.1 (List.append_inj' heq rfl).2)
    · rw [List.concat_eq_append] at heq hlater
      rw [← List.cons_append, ← List.append_assoc] at heq
      obtain ⟨rfl, hef⟩ := List.append_inj' heq rfl
      cases hef
      exact .inr ⟨hlater e (by simp), before, later, rfl,
        fun f hf => hlater f (List.mem_append_left _ hf)⟩
  · rintro (rfl | ⟨hne, before, later, rfl, hlater⟩)
    · exact ⟨history, [], rfl, List.forall_mem_nil _⟩
    · refine ⟨before, later ++ [e], List.append_assoc .., fun f hf => ?_⟩
      rcases List.mem_append.1 hf with hf | hf
      · exact hlater f hf
      · exact List.mem_singleton.1 hf ▸ hne

/-- What was edited from nothing holds what was registered last. -/
theorem get?_edited_eq_some_iff :
    (empty.edited history).get? state = some handler ↔ LastRegistered history state handler := by
  induction history using List.reverseRecOn with
  | nil => exact ⟨nofun, fun h => absurd h not_lastRegistered_nil⟩
  | append_singleton history e ih =>
    have hlast : empty.edited (history ++ [e]) = (empty.edited history).edit e :=
      List.foldl_concat ..
    rw [hlast, get?_edit, lastRegistered_concat, ← ih]
    by_cases hstate : state = e.state
    · subst hstate
      rw [if_pos rfl]
      cases e <;> simp [Edit.handler?, Edit.state]
    · rw [if_neg hstate]
      constructor
      · exact fun hget => .inr ⟨Ne.symm hstate, hget⟩
      · rintro (rfl | ⟨-, hget⟩)
        · exact absurd rfl hstate
        · exact hget

variable [Scheduler σ]

theorem edited_standard : empty.edited Edit.standard = (standard : Registry σ) := by
  have hget : (empty.edited Edit.standard).get? = (standard : Registry σ).get? := by
    funext state
    cases state <;> rfl
  exact congrArg Registry.mk hget

theorem Made.edited_empty (h : r.Made history) : Registry.empty.edited history = r := by
  induction h with
  | empty => rfl
  | standard => exact edited_standard
  | edit e _ ih =>
    rw [Registry.edited, List.foldl_concat]
    exact congrArg (Registry.edit · e) ih

/-- A state has the handler that was registered for it last. -/
theorem Made.get?_eq_some_iff (h : r.Made history) :
    r.get? state = some handler ↔ LastRegistered history state handler := by
  rw [← h.edited_empty]
  exact get?_edited_eq_some_iff

end Registry

/-! ## The ways to the registry -/

/-- The sample is handed to the handler as it is: a contact is lifted in a pinch, or the pad is let
go. -/
def Sample.IsForwarded (s : Sample) (state : State) : Prop :=
  s.action = .pointerUp ∧ state = .pinchZoom ∨ s.action = .buttonRelease ∧ state = .physicalClick

section

variable {σ : Type} [Scheduler σ] {handlers : Registry σ} {s : Sample} {t : Turn σ}

theorem Turn.route_of_forwarded (h : s.IsForwarded t.state) :
    t.route handlers s = handlers.dispatch s t := by
  rcases h with ⟨ha, hs⟩ | ⟨ha, hs⟩
  · simp only [Turn.route, ha, if_pos hs]
  · simp only [Turn.route, ha, if_pos hs]

end

/-! ## Results -/

namespace Recognizer

variable {σ γ : Type} [Scheduler σ]

/-- **Which handler a sample meets.** Take a recognizer in whatever context, whose registry comes
from an empty or a standard one by registering and removing handlers. The handler of a state is the
one registered for it last. Where the state has none, a sample that comes to the registry is not
consumed, sends nothing and tells the log that it met no handler; it changes nothing if it was
forwarded, and only the kind and the position if it was classified. Where the registry is complete,
then whatever state a run comes to, such a sample is noted in the history and reacted to by the
handler that was registered last for this state. -/
theorem meets_last_registered (r : Recognizer σ) {history : List (Registry.Edit σ)}
    (made : r.handlers.Made history) :
    (∀ state handler, r.handlers.get? state = some handler ↔
      Registry.LastRegistered history state handler) ∧
    (r.handlers.get? r.state = none → ∀ s : Sample,
      (s.IsForwarded r.state →
        r.handle s = { value := false, events := [.record (.unhandled r.state)], next := r }) ∧
      (s.action.IsHandedOn →
        r.handle s =
          { value := false
            events :=
              [.record (.classified s.action s.kind r.state), .record (.unhandled r.state)]
            next :=
              { r with context := { r.context with kind := s.kind, position := s.position } } })) ∧
    (r.handlers.isComplete = true → ∀ (h : Host σ γ) (calls : List γ),
      let q := after h.step r calls
      ∃ handler, Registry.LastRegistered history q.state handler ∧ ∀ s : Sample,
        (s.IsForwarded q.state →
          q.handle s = q.conclude (handler.react s (q.turn.noteSample handler.label s))) ∧
        (s.action.IsHandedOn →
          q.handle s =
            q.conclude (handler.react s ((q.turn.classify s).noteSample handler.label s)))) := by
  refine ⟨fun state handler => made.get?_eq_some_iff, fun hmissing s => ⟨fun hs => ?_, fun hs => ?_⟩,
    fun hcomplete h calls => ?_⟩
  · have hroute : r.turn.route r.handlers s = (false, r.turn.log (.unhandled r.state)) :=
      (Turn.route_of_forwarded hs).trans (Registry.dispatch_of_missing hmissing s)
    rw [handle, hroute]
    rfl
  · have hroute : r.turn.route r.handlers s =
        (false, (r.turn.classify s).log (.unhandled r.state)) :=
      (Turn.route_of_handedOn hs).trans (Registry.dispatch_of_missing hmissing s)
    rw [handle, hroute]
    rfl
  · intro q
    have hhandlers : q.handlers = r.handlers := h.handlers_after r calls
    obtain ⟨handler, hget⟩ :=
      Option.isSome_iff_exists.1 (Registry.isComplete_iff.1 hcomplete q.state)
    refine ⟨handler, made.get?_eq_some_iff.1 hget, fun s => ⟨fun hs => ?_, fun hs => ?_⟩⟩
    · rw [handle, hhandlers, Turn.route_of_forwarded hs, Registry.dispatch_of_registered hget s]
    · rw [handle, hhandlers, Turn.route_of_handedOn hs, Registry.dispatch_of_registered hget s]

/-- The handler at rest is removed, and a contact that comes down meets none. Then the host registers
its own in its place, and the contact meets that one, also after other calls. -/
theorem meets_last_registered_after_removal :
    let bare := (new {} (Queue.startingAt 0)).remove .idle
    let counter : Handler Queue := { label := "counter", react := fun _ t => (true, t.note "one") }
    let mended := bare.register .idle counter
    let down := Sample.single .down ⟨10, 10⟩ 0
    let q := after Host.queued.step mended [.handleAt down, .advanceTo 100]
    (bare.handle down).value = false ∧ (bare.handle down).sent = [] ∧
      q.handle down =
        q.conclude (counter.react down ((q.turn.classify down).noteSample "counter" down)) := by
  intro bare counter mended down q
  have hbare : bare.handlers.Made (Registry.Edit.standard ++ [.remove .idle]) :=
    .edit (.remove .idle) .standard
  have hmended : mended.handlers.Made
      (Registry.Edit.standard ++ [.remove .idle] ++ [.register .idle counter]) :=
    .edit (.register .idle counter) hbare
  have hmissing := ((@meets_last_registered Queue TimedCall _ bare _ hbare).2.1 rfl down).2 trivial
  obtain ⟨hlast, -, hmeets⟩ := @meets_last_registered Queue TimedCall _ mended _ hmended
  obtain ⟨handler, hregistered, hhandle⟩ :=
    hmeets (by decide +kernel) Host.queued [.handleAt down, .advanceTo 100]
  have hrests : q.state = .idle := by decide +kernel
  have hget : mended.handlers.get? .idle = some counter := Registry.get?_register_self ..
  rw [← (hlast q.state handler), hrests, hget] at hregistered
  cases hregistered
  rw [hmissing]
  exact ⟨rfl, rfl, (hhandle down).2 trivial⟩

end Recognizer

end Trackpad
