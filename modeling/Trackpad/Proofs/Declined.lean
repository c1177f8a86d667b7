import Trackpad.Proofs.Twins

/-!
# Declined — a sample that is not consumed leaves nothing behind

A sample that its handler declines has been classified and put into the history by then. Both
remain, but nothing reads them any more: the next sample is classified before its handler looks at
the kind, and no handler looks at the history or at the position in the context. So what follows is
as if the sample had never come (`pairs_of_declined`). Only in a drag a declined sample has an
effect: it ends the drag.
-/

namespace Trackpad

variable {σ : Type} [Scheduler σ]

/-- A sample that the handler does not consume, it leaves without effect. -/
def Handler.Spares (handler : Handler σ) : Prop :=
  ∀ s t, (handler.react s t).1 = false → (handler.react s t).2 = t

/-- All standard handlers do, but the one during a drag. -/
theorem Handler.spares_of_standard {state : State} {handler : Handler σ}
    (hget : Registry.standard.get? state = some handler) (hs : state ≠ .dragActive) :
    handler.Spares := by
  intro s t hdeclined
  have hreacts := Handler.reacts hget s t
  generalize handler.react s t = outcome at hreacts hdeclined
  cases hreacts with
  | ignored _ => rfl
  | dropped _ => exact absurd rfl hs
  -- Whatever else a handler makes of a sample, it consumes it.
  | _ => cases hdeclined

/-! ## The sample that is declined -/

namespace Turn

variable {t : Turn σ} {s : Sample}

/-- Only a sample that is handed on is declined. -/
theorem isHandedOn_of_declined (h : (t.route .standard s).1 = false) : s.action.IsHandedOn := by
  cases ha : s.action with
  | pointerDown | buttonPress | cancel =>
    simp only [route, ha] at h
    cases h
  | pointerUp =>
    simp only [route, ha] at h
    split at h
    · rename_i hpinch
      obtain ⟨label, hreacts⟩ := t.reacts_dispatch s
      rw [hpinch] at hreacts
      generalize Registry.standard.dispatch s t = outcome at hreacts h
      cases hreacts with
      -- A pinch takes the lifting of a contact, whichever contact it is.
      | ignored hignores => exact absurd ha hignores.2.1
      | _ => cases h
    · cases h
  | buttonRelease =>
    simp only [route, ha] at h
    split at h
    · rename_i hphysical
      obtain ⟨label, hreacts⟩ := t.reacts_dispatch s
      rw [hphysical] at hreacts
      generalize Registry.standard.dispatch s t = outcome at hreacts h
      cases hreacts with
      | ignored hignores => exact hignores.elim
      | _ => cases h
    · cases h
  | _ => trivial

/-- Outside a drag, all that is left of it is what was noted before its handler saw it. -/
theorem snd_route_of_declined (h : (t.route .standard s).1 = false) (hs : t.state ≠ .dragActive) :
    ∃ label, (t.route .standard s).2 = (t.classify s).noteSample label s := by
  have hcomplete : ((Registry.standard : Registry σ).get? t.state).isSome = true :=
    Registry.isComplete_iff.1 Registry.isComplete_standard t.state
  obtain ⟨handler, hget⟩ := Option.isSome_iff_exists.1 hcomplete
  have hroute := route_of_handled rfl hget (isHandedOn_of_declined h)
  rw [hroute] at h ⊢
  exact ⟨handler.label, Handler.spares_of_standard hget hs _ _ h⟩

/-- In a drag, it ends the drag. -/
theorem snd_route_of_declined_drag (h : (t.route .standard s).1 = false)
    (hs : t.state = .dragActive) :
    (t.route .standard s).2 = ((t.classify s).noteSample "drag" s).endDrag s.action.name := by
  have hhanded := isHandedOn_of_declined h
  by_cases hmove : s.action = .hoverMove
  · rw [route_of_reacts hs rfl hhanded (.dragged hmove)] at h
    cases h
  · rw [route_of_reacts hs rfl hhanded (.dropped hmove)]
    rfl

end Turn

/-! ## What it leaves -/

/-- The runs may differ in what the last sample has left, and in their histories. -/
def Difference.leftovers : Difference :=
  .ofSameSamples (fun _ _ => True) (fun _ _ => True) (fun _ => trivial) (fun _ _ => trivial)
    fun _ => trivial

/-- What a host sees of a reply. -/
def Reply.shown (reply : Reply σ Answer) : Answer × List Event × State × Slots × σ :=
  (reply.value, reply.events, reply.next.state, reply.next.context.slots, reply.next.timers)

/-- No run of such steps tells the two recognizers apart. -/
def Recognizer.Indistinct {γ : Type} (step : Recognizer σ → γ → Reply σ Answer)
    (r r' : Recognizer σ) : Prop :=
  ∀ calls, (replay step r' calls).map Reply.shown = (replay step r calls).map Reply.shown

theorem Difference.shown_eq {d : Difference} {reply reply' : Reply σ Answer}
    (h : (d.likeness σ).Replies reply reply') : reply'.shown = reply.shown := by
  have htimers : reply'.next.timers = reply.next.timers := h.next.turns.timers.symm
  have hstate : reply'.next.state = reply.next.state := h.next.turns.state
  have hslots : reply'.next.context.slots = reply.next.context.slots := h.next.turns.context.slots
  simp only [Reply.shown, h.value, h.events, hstate, hslots, htimers]

namespace Recognizer

variable {r : Recognizer σ} {s : Sample}

/-- Outside a drag, a declined sample changes what the last sample has left and the history. -/
theorem next_handle_of_declined (h : r.handlers = .standard) (hv : (r.handle s).value = false)
    (hs : r.state ≠ .dragActive) :
    (r.handle s).sent = [] ∧
      ∃ label, (r.handle s).next =
        { r with context := (r.context.classify s).noteSample label s } := by
  rw [handle_of_standard h] at hv ⊢
  obtain ⟨label, hroute⟩ := Turn.snd_route_of_declined (t := r.turn) hv hs
  refine ⟨?_, label, ?_⟩
  · show (r.turn.route .standard s).2.sent = []
    rw [hroute, Turn.sent_noteSample, Turn.sent_classify]
    rfl
  · simp only [conclude, hroute]
    rfl

/-- No later call tells it from the recognizer before. -/
theorem pairs_of_declined (h : r.handlers = .standard) (hv : (r.handle s).value = false)
    (hs : r.state ≠ .dragActive) :
    (Difference.leftovers.likeness σ).Pairs r (r.handle s).next := by
  obtain ⟨-, label, hnext⟩ := next_handle_of_declined h hv hs
  rw [hnext]
  exact ⟨h, h, rfl, rfl, rfl, rfl, rfl, rfl, .refl (fun _ => rfl) _, trivial, trivial⟩

theorem handle_of_declined_drag (h : r.handlers = .standard) (hv : (r.handle s).value = false)
    (hs : r.state = .dragActive) :
    (r.handle s).sent = [.release .left] ∧
      (r.handle s).next.context.slots.get? .dragTimeout = none ∧
      (r.handle s).next.context.window = .idle ∧ (r.handle s).next.state = .hoverTracking := by
  rw [handle_of_standard h] at hv ⊢
  have hroute := Turn.snd_route_of_declined_drag (t := r.turn) hv hs
  have hnext : (r.conclude (r.turn.route .standard s)).next.context =
      (((r.turn.classify s).noteSample "drag" s).endDrag s.action.name).context := by
    rw [← hroute]
    rfl
  rw [hnext]
  refine ⟨?_, ?_, rfl, ?_⟩
  · show (r.turn.route .standard s).2.sent = _
    rw [hroute]
    simp
    rfl
  · exact Slots.get?_disarm_self _ _ _
  · show (r.conclude (r.turn.route .standard s)).next.context.state = _
    rw [hnext]
    rfl

/-- **A declined sample leaves nothing behind.** Whatever context, configuration and scheduler a
recognizer with the standard handlers has: if it does not consume a sample, outside a drag, then
nothing is sent, and state, slots and scheduler stay as they are. And from there every run gives the
same values, events, states, slots and schedulers, call by call, as it would have without the
sample, whatever scheduler it is over, and over a queue with all the calls that a queue allows. In a
drag, the sample releases the left button, empties the slot of the timeout, closes the window, and
the finger hovers on. -/
theorem declined_sample_leaves_nothing :
    (∀ (σ : Type) [Scheduler σ] (r : Recognizer σ) (s : Sample),
      r.handlers = .standard → (r.handle s).value = false →
        let left := (r.handle s).next
        (r.state ≠ .dragActive →
          (r.handle s).sent = [] ∧ left.state = r.state ∧
            left.context.slots = r.context.slots ∧ left.timers = r.timers ∧
            Indistinct perform r left) ∧
        (r.state = .dragActive →
          (r.handle s).sent = [.release .left] ∧ left.context.slots.get? .dragTimeout = none ∧
            left.context.window = .idle ∧ left.state = .hoverTracking)) ∧
    ∀ (r : Recognizer Queue) (s : Sample),
      r.handlers = .standard → (r.handle s).value = false → r.state ≠ .dragActive →
        Indistinct performTimed r (r.handle s).next := by
  constructor
  · intro σ _ r s h hv left
    refine ⟨fun hs => ?_, handle_of_declined_drag h hv⟩
    obtain ⟨hsent, label, hnext⟩ := next_handle_of_declined h hv hs
    have hleft : left = { r with context := (r.context.classify s).noteSample label s } := hnext
    refine ⟨hsent, ?_, ?_, ?_, fun calls => ?_⟩
    · rw [hleft]
      rfl
    · rw [hleft]
      rfl
    · rw [hleft]
    · exact Difference.map_eq (fun _ _ => Difference.shown_eq)
        (Difference.replay_self (fun _ => rfl) (pairs_of_declined h hv hs) calls)
  · intro r s h hv hs calls
    exact Difference.map_eq (fun _ _ => Difference.shown_eq)
      (Difference.replayTimed_self (fun _ => rfl) (pairs_of_declined h hv hs) calls)

/-- A pinch declines the movement of one contact, and nothing comes of it; a drag declines the
leaving of the finger, and ends. -/
theorem declined_sample_leaves_nothing_in_pinch :
    let pinching := after performTimed (new {} (Queue.startingAt 0))
      [.handleAt ((Sample.single .pointerDown ⟨10, 10⟩ 5).withPointerCount 2)]
    let dragging := after performTimed (new {} (Queue.startingAt 0))
      (TimedCall.tapping ⟨10, 10⟩ 0 40 ++
        [.handleAt (.single .hoverEnter ⟨10, 10⟩ 50), .handleAt (.single .hoverMove ⟨12, 10⟩ 60)])
    let move := Sample.single .move ⟨30, 10⟩ 70
    let leave := Sample.single .hoverExit ⟨30, 10⟩ 70
    pinching.state = .pinchZoom ∧ (pinching.handle move).value = false ∧
      Indistinct performTimed pinching (pinching.handle move).next ∧
      dragging.state = .dragActive ∧ (dragging.handle leave).value = false ∧
      (dragging.handle leave).sent = [.release .left] := by
  intro pinching dragging move leave
  have hpinch : pinching.state = .pinchZoom ∧ (pinching.handle move).value = false := by
    decide +kernel
  have hdrag : dragging.state = .dragActive ∧ (dragging.handle leave).value = false := by
    decide +kernel
  have hpinching : pinching.handlers = .standard := handlers_performTimed _ _
  have hdragging : dragging.handlers = .standard := by
    simp only [dragging, after, TimedCall.tapping, List.cons_append, List.nil_append,
      List.foldl_cons, List.foldl_nil, handlers_performTimed]
    rfl
  have hleft := declined_sample_leaves_nothing.2 pinching move hpinching hpinch.2
    (by rw [hpinch.1]; decide)
  have hended :=
    (declined_sample_leaves_nothing.1 Queue dragging leave hdragging hdrag.2).2 hdrag.1
  exact ⟨hpinch.1, hpinch.2, hleft, hdrag.1, hdrag.2, hended.1⟩

end Recognizer

end Trackpad
