import Trackpad.Proofs.Host

/-!
# Active — whether a contact is in flight

A context carries a flag that says whether a gesture with contact is in flight. Six of the eight
states settle it (`State.contact?`): at rest, while a finger hovers and during a drag there is no
contact, and while taps are pending and in a scroll there is one. The other two, a pinch and the
pressed pad, come over any state and leave the flag as it was.

The flag goes up when a contact comes down at rest, before the state is chosen that the contact
begins, and it only comes down with the state, at rest. So it is right only because a contact always
begins some state (`Host.leaves_rest`), and that is so because the sample is classified before the
handler reads its kind. `Context.TellsContact` is kept by every request, in every state.
-/

namespace Trackpad

/-- Whether a contact is in flight, in the states that settle it. -/
def State.contact? : State → Option Bool
  | idle | hoverTracking | dragActive => some false
  | singleTapPending | twoFingerTapPending | twoFingerScroll => some true
  | pinchZoom | physicalClick => none

namespace Context

/-- The flag is as the state has it, if the state settles it. -/
def TellsContact (c : Context) : Prop := ∀ b ∈ c.state.contact?, c.active = b

variable {c c' : Context} {target : State}

theorem TellsContact.of_same (h : c.TellsContact) (hstate : c'.state = c.state)
    (hactive : c'.active = c.active) : c'.TellsContact := by
  intro b hb
  rw [hstate] at hb
  rw [hactive]
  exact h b hb

/-- Coming to rest takes the flag back, and elsewhere the state before settles it alike. -/
theorem TellsContact.enter (h : c.TellsContact)
    (htarget : target = .idle ∨ ∀ b ∈ target.contact?, b ∈ c.state.contact?) :
    (c.enter target).TellsContact := by
  intro b hb
  by_cases hidle : target = .idle
  · subst hidle
    cases hb
    rfl
  · show (if target = .idle then false else c.active) = b
    rw [if_neg hidle]
    exact h b (htarget.resolve_left hidle b hb)

/-- A contact comes down and begins a state in which there may be one. -/
theorem tellsContact_touch (c : Context) (position : Point) (time : Time)
    (htarget : target.contact? ≠ some false) :
    ((c.touch position time).enter target).TellsContact := by
  intro b hb
  have hidle : target ≠ .idle := by
    rintro rfl
    exact htarget rfl
  have hactive : ((c.touch position time).enter target).active = true := if_neg hidle
  rw [hactive]
  cases b with
  | true => rfl
  | false => exact absurd hb htarget

end Context

/-! ## The handlers -/

section

variable {σ : Type} [Scheduler σ]

/-- A contact that comes down at rest, with its kind known. -/
theorem Turn.Begins.tellsContact {t u : Turn σ} {s : Sample} (h : t.Begins s u)
    (hkind : t.context.kind ≠ .unknown) :
    u.context.TellsContact ∧ u.state ≠ .idle ∧ u.context.active = true := by
  cases h with
  | tap _ | pinch _ | press _ =>
    exact ⟨t.context.tellsContact_touch s.position s.time (by decide), nofun, rfl⟩
  | two _ =>
    have htouched : ((t.context.touch s.position s.time).enter .twoFingerTapPending).TellsContact :=
      t.context.tellsContact_touch s.position s.time (by decide)
    exact ⟨htouched.of_same rfl rfl, nofun, rfl⟩
  | nothing hunknown => exact absurd hunknown hkind

/-- Whatever the handler of a state makes of a sample, it leaves the flag as the state after it has
it. -/
theorem Turn.Reacts.tellsContact {t : Turn σ} {s : Sample} {state : State}
    {outcome : Bool × Turn σ} (hreacts : t.Reacts s state outcome) (hs : t.context.state = state)
    (hkind : s.action = .down → t.context.kind ≠ .unknown) (h : t.context.TellsContact) :
    outcome.2.context.TellsContact := by
  -- A change between states that settle the flag alike, whatever else the reaction changes.
  have hmoves {target : State} {c : Context} (hc : c.state = state)
      (ha : c.active = t.context.active)
      (htarget : target = .idle ∨ ∀ b ∈ target.contact?, b ∈ state.contact?) :
      (c.enter target).TellsContact :=
    (h.of_same (hc.trans hs.symm) ha).enter (hc ▸ htarget)
  cases hreacts with
  | ignored _ | pointed _ _ | jittered _ _ | dragged _ | kept _ | thinned _ _ | held _ =>
    exact h.of_same rfl rfl
  | touched ha hbegins => exact (hbegins.tellsContact (hkind ha)).1
  | departed _ | tapped _ _ | slid _ _ | strayed _ _ | withdrawn _ | clicked _ _ | lifted _ _
  | finished _ | parted _ _ | ended _ | released _ =>
    exact hmoves hs rfl (.inl rfl)
  | approached _ | pressed _ | dropped _ | taken _ => exact hmoves hs rfl (.inr (by decide))
  | grabbed _ _ =>
    have hdrags : ({ t.context with window := .idle }.enter .dragActive).TellsContact :=
      hmoves hs rfl (.inr (by decide))
    exact hdrags.of_same rfl rfl
  | moved _ =>
    have hscrolls : (t.dropTwoFingerTap.context.enter .twoFingerScroll).TellsContact :=
      hmoves hs rfl (.inr (by decide))
    have hcontext := Turn.context_scrollTo
      (t.dropTwoFingerTap.transition .twoFingerScroll "two-finger move") s
    exact hscrolls.of_same (by rw [hcontext]; rfl) (by rw [hcontext]; rfl)
  | wheeled _ =>
    have hcontext := t.context_scrollTo s
    exact h.of_same (by rw [hcontext]) (by rw [hcontext])
  | pinched _ _ =>
    have hcontext := t.context_pinchTo s
    exact h.of_same (by rw [hcontext]) (by rw [hcontext])

theorem Turn.tellsContact_dispatch {t : Turn σ} {s : Sample}
    (hkind : s.action = .down → t.context.kind ≠ .unknown) (h : t.context.TellsContact) :
    (Registry.standard.dispatch s t).2.context.TellsContact := by
  obtain ⟨label, hreacts⟩ := t.reacts_dispatch s
  exact hreacts.tellsContact rfl hkind (h.of_same rfl rfl)

theorem Turn.tellsContact_reset (t : Turn σ) : t.reset.context.TellsContact := by
  intro b hb
  cases hb
  rfl

/-- Whatever a sample leads to. -/
theorem Turn.tellsContact_route {t : Turn σ} (h : t.context.TellsContact) (s : Sample) :
    (t.route .standard s).2.context.TellsContact := by
  have hroutes := t.routes s
  generalize (t.route .standard s).2 = u at hroutes ⊢
  cases hroutes with
  | ignored => exact h
  | pinched _ _ | pressed _ => exact nofun
  | dropped _ => exact t.tellsContact_reset
  | lifted hlifted =>
    refine Turn.tellsContact_dispatch (fun hdown => ?_) h
    rcases hlifted with ⟨hup, -⟩ | ⟨hup, -⟩ <;> cases hdown.symm.trans hup
  | handed _ =>
    -- The kind that the handler reads is that of the sample.
    exact Turn.tellsContact_dispatch (fun _ => s.kind_ne_unknown) (h.of_same rfl rfl)

end

/-! ## Calls and runs -/

namespace Recognizer.Idles

variable {σ : Type} [Scheduler σ] {r q : Recognizer σ} {told : List Event}

theorem active (h : r.Idles told q) : q.context.active = r.context.active := by
  have hrest := congrArg Context.active (h.inStance r.stance)
  exact hrest

/-- A callback may end a drag, but then a finger hovers, which is no contact either. -/
theorem contact? (h : r.Idles told q) : q.state.contact? = r.state.contact? := by
  induction h with
  | start => rfl
  | clock _ _ ih => exact ih
  | @callback _ p slot ticket _ ih =>
    rw [← ih]
    rcases p.state_onTimer slot ticket with hsame | ⟨hdrag, hhover⟩
    · rw [hsame]
    · rw [hdrag, hhover]
      rfl

theorem tellsContact (h : r.Idles told q) (hr : r.context.TellsContact) :
    q.context.TellsContact := by
  intro b hb
  rw [h.active]
  exact hr b (h.contact? ▸ hb)

end Recognizer.Idles

namespace Host

open Recognizer

variable {σ γ : Type} [Scheduler σ] {h : Host σ γ} {r : Recognizer σ} {c : γ}

theorem tellsContact_step (hb : r.handlers = .standard) (hr : r.context.TellsContact) (c : γ) :
    (h.step r c).next.context.TellsContact := by
  have hidles := h.idles r c
  have hf := hidles.tellsContact hr
  rw [h.next_step]
  cases hreq : h.request c with
  | nothing => exact hf
  | sample s =>
    rw [grant_sample (hidles.handlers.trans hb)]
    exact (h.facing r c).turn.tellsContact_route hf s
  | reset => exact (h.facing r c).turn.tellsContact_reset

theorem tellsContact_after (h : Host σ γ) (config : Config) (timers : σ) (calls : List γ) :
    (after h.step (new config timers) calls).context.TellsContact := by
  have hstart : (new config timers).context.TellsContact := by
    intro b hb
    cases hb
    rfl
  exact (after_keeps (P := fun q => q.handlers = .standard ∧ q.context.TellsContact)
    (fun q c _ hq => ⟨(h.handlers_step q c).trans hq.1, tellsContact_step hq.1 hq.2 c⟩)
    ⟨rfl, hstart⟩).2

/-- A contact that comes down at rest begins a gesture, whatever its kind: the kind is known. -/
theorem leaves_rest (hb : r.handlers = .standard) (hs : r.state = .idle)
    (hdown : (h.request c).Asks (·.action = .down)) :
    (h.step r c).next.state ≠ .idle ∧ (h.step r c).next.context.active = true := by
  obtain ⟨s, hreq, ha⟩ := Request.asks_iff.1 hdown
  have hbegins := Turn.begins (((h.facing r c).turn.classify s).noteSample "idle" s) s
  rw [Recognizer.state, h.context_of_down hb hs hreq ha]
  exact (hbegins.tellsContact s.kind_ne_unknown).2

end Host

/-! ## Result -/

namespace Recognizer

variable {σ γ : Type} [Scheduler σ]

/-- Whatever happened before, between two calls the flag is down at rest, while a finger hovers and
during a drag, and up while a tap or a two-finger tap is pending and in a scroll. A contact that
comes down at rest always begins a gesture: recognition does not stay at rest with the flag up. -/
theorem active_follows_state (h : Host σ γ) (config : Config) (timers : σ) (calls : List γ) :
    let q := after h.step (new config timers) calls
    (q.state = .idle ∨ q.state = .hoverTracking ∨ q.state = .dragActive →
      q.context.active = false) ∧
    (q.state = .singleTapPending ∨ q.state = .twoFingerTapPending ∨ q.state = .twoFingerScroll →
      q.context.active = true) ∧
    ∀ c, q.state = .idle → (h.request c).Asks (·.action = .down) →
      (h.step q c).next.state ≠ .idle ∧ (h.step q c).next.context.active = true := by
  intro q
  have htells : q.context.TellsContact := h.tellsContact_after config timers calls
  refine ⟨fun hs => ?_, fun hs => ?_, fun c hs hdown => ?_⟩
  · have hnone : q.state.contact? = some false := by
      rcases hs with hs | hs | hs <;> rw [hs] <;> rfl
    exact htells false hnone
  · have hsome : q.state.contact? = some true := by
      rcases hs with hs | hs | hs <;> rw [hs] <;> rfl
    exact htells true hsome
  · exact Host.leaves_rest (h.handlers_after _ calls) hs hdown

/-- The pad is pressed under a contact and let go, which ends the gesture. Two fingers then come
down and scroll. -/
theorem active_follows_state_after_press :
    let press := [TimedCall.handleAt (.single .down ⟨10, 10⟩ 0),
      .handleAt (.single .buttonPress ⟨10, 10⟩ 20), .handleAt (.single .buttonRelease ⟨10, 10⟩ 40)]
    let touch := TimedCall.handleAt ((Sample.single .down ⟨10, 10⟩ 60).withFlags .twoFinger)
    let move := TimedCall.handleAt (.single .move ⟨10, 30⟩ 80)
    let flag := fun calls =>
      (after Host.queued.step (new {} (Queue.startingAt 0)) calls).context.active
    flag (press.take 2) = true ∧ flag press = false ∧
      flag (press ++ [touch]) = true ∧ flag (press ++ [touch, move]) = true := by
  intro press touch move flag
  have hall := fun calls => active_follows_state Host.queued {} (Queue.startingAt 0) calls
  exact ⟨by decide +kernel, (hall press).1 (.inl (by decide +kernel)),
    ((hall press).2.2 touch (by decide +kernel) rfl).2,
    (hall (press ++ [touch, move])).2.1 (.inr (.inr (by decide +kernel)))⟩

end Recognizer

end Trackpad
