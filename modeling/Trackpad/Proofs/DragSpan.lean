import Trackpad.Proofs.Silence
import Trackpad.Proofs.TapWindow

/-!
# DragSpan — a drag lasts as long as movement keeps coming

Each movement of a drag arms the timeout anew, 140 milliseconds from then. So a drag that nothing
but movement follows ends at the first gap of 140 milliseconds, and it ends by the callback, when
the clock gets there (`drag_lasts`).

A drag has the timeout pending (`Dragging`), and no callback but the timeout says anything in it.
Once it is over, the window is closed and the finger hovers on (`Stance.Over`), and no callback says
anything then.
-/

namespace Trackpad

/-- The cursor moves to one sample after the other, with the button held or not. -/
def cursorMoves (drags : Bool) (samples : List Sample) : List Command :=
  samples.map fun s => .move s.position drags

theorem cursorMoves_append (drags : Bool) (first second : List Sample) :
    cursorMoves drags (first ++ second) = cursorMoves drags first ++ cursorMoves drags second :=
  List.map_append

/-- Only two fingers that are lifted click at once. -/
theorem Deed.state_of_click {d : Deed} {c : Context} {slop : Float} {s : Sample} {b : MouseButton}
    (hf : d.Fits c slop s) (h : Command.click b ∈ d.sends) : c.state = .twoFingerTapPending := by
  cases d with
  | liftTwo _ => exact hf
  | wheel cmd | scrollTwo cmd =>
    have hwheel := hf.2
    rw [sends, List.mem_singleton] at h
    rw [← h] at hwheel
    exact hwheel.elim
  | _ => simp [sends] at h

/-- The deeds of a drag arm the timeout, 140 milliseconds from now. -/
theorem Deed.timeout_apply (v : Stance Queue) {d : Deed} {p : Point}
    (hd : d = .beginDrag p ∨ d = .keepDrag p) :
    ∃ ticket, ⟨.dragTimeout, ticket, v.timers.now.plus 140⟩ ∈ (d.apply v).timers.pending := by
  have hdelay : Slot.dragTimeout.delayMillis = 140 := by decide
  rcases hd with rfl | rfl
  · let closed := v.slots.disarm .doubleTapExpiry v.timers
    let cleared := closed.1.disarm .delayedClick closed.2
    have hnow : cleared.2.now = v.timers.now :=
      (Slots.now_disarm _ _ _).trans (Slots.now_disarm _ _ _)
    have harmed := cleared.1.armed_mem_pending .dragTimeout cleared.2
    rw [hdelay, hnow] at harmed
    exact ⟨_, harmed⟩
  · have harmed := v.slots.armed_mem_pending .dragTimeout v.timers
    rw [hdelay] at harmed
    exact ⟨_, harmed⟩

/-! ## Callbacks in a drag and after it -/

/-- A drag is over: the finger hovers on, the window is closed and no timeout is live. -/
structure Stance.Over {σ : Type} (v : Stance σ) : Prop where
  state : v.state = .hoverTracking
  window : v.window = .idle
  timeout : v.slots.isArmed .dragTimeout = false

namespace Stance

variable {σ : Type} {v : Stance σ} {slot : Slot}

theorem Over.not_drag (h : v.Over) : v.state ≠ .dragActive := by
  rw [h.state]
  decide

theorem Over.expirySends (h : v.Over) (slot : Slot) : v.expirySends slot = [] := by
  cases slot with
  | delayedClick =>
    refine if_neg fun hclick => ?_
    rw [h.window] at hclick
    cases hclick.1
  | dragTimeout => exact if_neg h.not_drag
  | doubleTapExpiry | twoFingerTapExpiry => rfl

theorem Over.deliver (h : v.Over) (slot : Slot) : (v.deliver slot).Over where
  state := (state_deliver_of_not_drag h.not_drag slot).trans h.state
  window := by
    rcases v.window_deliver slot with hsame | hidle
    · exact hsame.trans h.window
    · exact hidle
  timeout := by rw [Stance.deliver, slots_expire, isArmed_vacate, h.timeout, Bool.and_false]

/-- In a drag a callback says nothing and changes nothing about it, or it is the timeout. -/
theorem deliver_of_drag (h : v.state = .dragActive) (slot : Slot) :
    (v.expirySends slot = [] ∧ (v.deliver slot).state = .dragActive) ∨
      (v.expirySends slot = [.release .left] ∧ (v.deliver slot).Over) := by
  by_cases hslot : slot = .dragTimeout
  · subst hslot
    have hvacated : (v.vacate .dragTimeout).state = .dragActive := h
    refine .inr ⟨if_pos h, ?_⟩
    rw [deliver, expire_of_drag hvacated]
    exact ⟨rfl, rfl, by simp⟩
  · refine .inl ⟨expirySends_of_drag h hslot, ?_⟩
    cases slot with
    | dragTimeout => exact absurd rfl hslot
    | _ => exact h

end Stance

namespace Recognizer

section Delivering

variable {σ : Type} [Scheduler σ] {r : Recognizer σ}

theorem onTimer_of_over (h : r.stance.Over) (slot : Slot) (ticket : Ticket) :
    (r.onTimer slot ticket).sent = [] ∧ (r.onTimer slot ticket).next.stance.Over := by
  by_cases hlive : r.context.slots.get? slot = some ticket
  · obtain ⟨hstance, hsent⟩ := onTimer_of_live hlive
    rw [hstance, hsent]
    exact ⟨h.expirySends slot, h.deliver slot⟩
  · obtain ⟨hnext, hsent⟩ := onTimer_of_stale hlive
    rw [hnext]
    exact ⟨hsent, h⟩

theorem onTimer_of_drag (h : r.state = .dragActive) (slot : Slot) (ticket : Ticket) :
    ((r.onTimer slot ticket).sent = [] ∧ (r.onTimer slot ticket).next.state = .dragActive) ∨
      ((r.onTimer slot ticket).sent = [.release .left] ∧
        (r.onTimer slot ticket).next.stance.Over) := by
  by_cases hlive : r.context.slots.get? slot = some ticket
  · obtain ⟨hstance, hsent⟩ := onTimer_of_live hlive
    rw [hstance, hsent]
    have hstate : (r.onTimer slot ticket).next.state = (r.stance.deliver slot).state :=
      congrArg Stance.state hstance
    rw [hstate]
    exact Stance.deliver_of_drag h slot
  · obtain ⟨hnext, hsent⟩ := onTimer_of_stale hlive
    rw [hnext]
    exact .inl ⟨hsent, h⟩

theorem deliverAll_of_over (h : r.stance.Over) (cs : List Callback) :
    (r.deliverAll cs).sent = [] ∧ (r.deliverAll cs).next.stance.Over := by
  induction cs generalizing r with
  | nil => exact ⟨rfl, h⟩
  | cons c rest ih =>
    obtain ⟨hsent, hover⟩ := onTimer_of_over h c.slot c.ticket
    obtain ⟨hothers, hend⟩ := ih hover
    rw [deliverAll, Reply.sent_followedBy, hsent, hothers]
    exact ⟨rfl, hend⟩

theorem deliverAll_of_drag (h : r.state = .dragActive) (cs : List Callback) :
    ((r.deliverAll cs).sent = [] ∧ (r.deliverAll cs).next.state = .dragActive) ∨
      ((r.deliverAll cs).sent = [.release .left] ∧ (r.deliverAll cs).next.stance.Over) := by
  induction cs generalizing r with
  | nil => exact .inl ⟨rfl, h⟩
  | cons c rest ih =>
    rw [deliverAll, Reply.sent_followedBy]
    rcases onTimer_of_drag h c.slot c.ticket with ⟨hsent, hdrag⟩ | ⟨hsent, hover⟩
    · rw [hsent]
      exact ih hdrag
    · obtain ⟨hothers, hend⟩ := deliverAll_of_over hover rest
      rw [hsent, hothers]
      exact .inr ⟨rfl, hend⟩

end Delivering

variable {r : Recognizer Queue} {c : TimedCall} {time due : Time} {s : Sample}

theorem facing_of_over (h : r.stance.Over) (c : TimedCall) :
    r.lapse c = [] ∧ (r.facing c).stance.Over := by
  cases ht : c.time? with
  | none =>
    simp only [lapse, delivered, facing, ht]
    exact ⟨rfl, h⟩
  | some time =>
    have hleft : (r.withTimers (r.timers.advanceTo time).2).stance.Over :=
      ⟨h.state, h.window, h.timeout⟩
    rw [lapse_of_time ht]
    simp only [facing, ht, advanceTo_eq_deliverAll]
    exact deliverAll_of_over hleft _

theorem facing_of_drag (h : r.state = .dragActive) (c : TimedCall) :
    (r.lapse c = [] ∧ (r.facing c).state = .dragActive) ∨
      (r.lapse c = [.release .left] ∧ (r.facing c).stance.Over) := by
  cases ht : c.time? with
  | none =>
    simp only [lapse, delivered, facing, ht]
    exact .inl ⟨rfl, h⟩
  | some time =>
    have hleft : (r.withTimers (r.timers.advanceTo time).2).state = .dragActive := h
    rw [lapse_of_time ht]
    simp only [facing, ht, advanceTo_eq_deliverAll]
    exact deliverAll_of_drag hleft _

/-- No call that finds a drag sends a click. -/
theorem click_not_mem_of_drag (hb : r.handlers = .standard) (h : r.state = .dragActive)
    (driven : c.IsDriven) (b : MouseButton) : Command.click b ∉ (r.performTimed c).sent := by
  obtain ⟨d, hd⟩ := performTimed_does hb driven
  have hstate : (r.facing c).state ≠ .twoFingerTapPending := by
    rcases facing_of_drag h c with ⟨-, hdrag⟩ | ⟨-, hover⟩
    · rw [hdrag]
      decide
    · rw [show (r.facing c).state = .hoverTracking from hover.state]
      decide
  rw [hd.sent, List.mem_append, not_or]
  constructor
  · rcases facing_of_drag h c with ⟨hnil, -⟩ | ⟨hrelease, -⟩
    · rw [hnil]
      exact List.not_mem_nil
    · rw [hrelease]
      simp
  · intro hmem
    have hfits := hd.fits
    split at hfits
    · exact hstate (Deed.state_of_click hfits hmem)
    · rcases hfits with rfl | ⟨rfl, -⟩ <;> cases hmem

/-! ## Calls -/

/-- A drag is on, and its timeout is due at `due`. -/
structure Dragging (r : Recognizer Queue) (due : Time) : Prop where
  state : r.state = .dragActive
  timeout : ∃ ticket, ⟨.dragTimeout, ticket, due⟩ ∈ r.timers.pending

namespace Dragging

theorem now_lt (h : r.Dragging due) (hr : r.Tracked) (hdue : due.toNat < 2 ^ 64 - 1) :
    r.timers.now < due := by
  obtain ⟨ticket, hmem⟩ := h.timeout
  rcases hr.ahead _ hmem with hlt | hmax
  · exact hlt
  · have hlast : due.toNat = 2 ^ 64 - 1 := hmax
    omega

/-- The timeout ends the drag when it is due, and nothing does before. -/
theorem facing (h : r.Dragging due) (hr : r.Tracked) (ht : c.time? = some time) :
    (time < due ∧ r.lapse c = [] ∧ (r.facing c).Dragging due) ∨
      (due ≤ time ∧ r.lapse c = [.release .left] ∧ (r.facing c).stance.Over) := by
  obtain ⟨ticket, hmem⟩ := h.timeout
  rcases hr.waits_or_lapsed hmem ht with ⟨hlt, hpending, harmed⟩ | ⟨hdue, hgone⟩
  · rcases facing_of_drag h.state c with ⟨hsent, hdrag⟩ | ⟨-, hover⟩
    · exact .inl ⟨hlt, hsent, hdrag, ticket, hpending⟩
    · cases harmed.symm.trans hover.timeout
  · rcases facing_of_drag h.state c with ⟨-, hdrag⟩ | ⟨hsent, hover⟩
    · cases (((hr.facing c).coherent.drag hdrag).1).symm.trans hgone
    · exact .inr ⟨hdue, hsent, hover⟩

end Dragging

theorem Does.dragging {d : Deed} {p : Point} (hdoes : r.Does c d)
    (hd : d = .beginDrag p ∨ d = .keepDrag p) (hstate : (r.performTimed c).next.state = .dragActive)
    (ht : time ∈ c.time?) (hle : r.timers.now ≤ time) :
    (r.performTimed c).next.Dragging (time.plus 140) := by
  have hnow : (r.facing c).stance.timers.now = time := now_facing ht hle
  have harmed := Deed.timeout_apply (r.facing c).stance hd
  rw [← hdoes.timers, hnow] at harmed
  exact ⟨hstate, harmed⟩

/-- A call that begins a drag presses the button and moves the cursor, after what its callbacks
send. -/
theorem dragging_of_begins (hb : r.handlers = .standard) (hc : c.IsTimed) (h : r.BeginsDrag c)
    (hle : ∀ time ∈ c.time?, r.timers.now ≤ time) :
    ∃ s, c = .handleAt s ∧ (r.performTimed c).next.Dragging (s.time.plus 140) ∧
      (r.performTimed c).sent = r.lapse c ++ [.press .left, .move s.position true] := by
  obtain ⟨d, hd⟩ := performTimed_does hb hc.isDriven
  obtain ⟨p, rfl⟩ := hd.eq_beginDrag h
  obtain ⟨s, hs, hhovers, hopen⟩ := hd.exists_sample nofun nofun
  have hdoes := Does.of_turn hb hs (Turn.route_of_hovers hhovers hopen)
  obtain rfl := hc.eq_handleAt hs
  exact ⟨s, rfl, hdoes.dragging (.inl rfl) h.2 rfl (hle s.time rfl), hdoes.sent⟩

/-- A hovering movement in a drag moves the cursor and arms the timeout anew. -/
theorem Dragging.hover (hb : r.handlers = .standard)
    (h : (r.facing (.handleAt s)).Dragging due) (ha : s.action = .hoverMove)
    (hle : r.timers.now ≤ s.time) :
    (r.performTimed (.handleAt s)).next.Dragging (s.time.plus 140) ∧
      (r.performTimed (.handleAt s)).sent =
        r.lapse (.handleAt s) ++ [.move s.position true] := by
  have hdoes := Does.of_turn hb (c := .handleAt s) rfl (Turn.route_of_drags ha h.state)
  have hstate : (r.performTimed (.handleAt s)).next.state = .dragActive :=
    (congrArg Stance.state hdoes.stance).trans h.state
  exact ⟨hdoes.dragging (.inr rfl) hstate rfl hle, hdoes.sent⟩

/-- What a hovering finger sends when no drag is on. -/
theorem sent_of_over (hb : r.handlers = .standard) (hc : c.IsTimed)
    (hover : (r.facing c).stance.Over) (hhover : ∀ s ∈ c.sample?, s.action = .hoverMove) :
    (r.performTimed c).next.stance.Over ∧ (r.performTimed c).sent =
      r.lapse c ++ cursorMoves false (TimedCall.samples [c]) := by
  cases c with
  | plain call => cases hc
  | handleAt s =>
    have hclosed : (r.facing (.handleAt s)).context.window.isArmed = false := by
      rw [show (r.facing (.handleAt s)).context.window = .idle from hover.window]
      rfl
    have hdoes := Does.of_turn hb (c := .handleAt s) rfl
      (Turn.route_of_hovers_closed ⟨hhover s rfl, hover.state⟩ hclosed)
    refine ⟨?_, hdoes.sent⟩
    rw [hdoes.stance]
    exact hover
  | advanceTo time => exact ⟨hover, (r.sent_performTimed _).trans rfl⟩

/-! ## Runs -/

variable {calls : List TimedCall} {m last : Sample} {kept later : List Sample}

/-- The calls only bring hovering movements, forward in time, and no deadline saturates. -/
structure Hovering (r : Recognizer Queue) (calls : List TimedCall) : Prop where
  ready : r.Ready calls
  timed : ∀ c ∈ calls, c.IsTimed
  forward : Forward r calls
  early : ∀ s ∈ TimedCall.samples calls, s.time.toNat + 160 < 2 ^ 64
  moves : ∀ s ∈ TimedCall.samples calls, s.action = .hoverMove

namespace Hovering

theorem standard (h : r.Hovering calls) : r.handlers = .standard := h.ready.tracked.standard

theorem next (h : r.Hovering (c :: calls)) : (r.performTimed c).next.Hovering calls := by
  have hsamples : ∀ s ∈ TimedCall.samples calls, s ∈ TimedCall.samples (c :: calls) :=
    fun s hs => TimedCall.mem_samples_cons.2 (.inr hs)
  exact ⟨h.ready.next, fun d hd => h.timed d (List.mem_cons_of_mem c hd), h.forward.2,
    fun s hs => h.early s (hsamples s hs), fun s hs => h.moves s (hsamples s hs)⟩

theorem moves_call (h : r.Hovering (c :: calls)) : ∀ s ∈ c.sample?, s.action = .hoverMove :=
  fun s hs => h.moves s (TimedCall.mem_samples_cons.2 (.inl hs))

/-- Once the drag is over, the cursor follows the finger. -/
theorem run_of_over (h : r.Hovering calls) (hover : r.stance.Over) :
    (after performTimed r calls).stance.Over ∧ sentIn performTimed r calls =
      cursorMoves false (TimedCall.samples calls) := by
  induction calls generalizing r with
  | nil => exact ⟨hover, rfl⟩
  | cons c rest ih =>
    obtain ⟨hsilent, hfacing⟩ := facing_of_over hover c
    obtain ⟨hnext, hsent⟩ :=
      sent_of_over h.standard (h.timed c List.mem_cons_self) hfacing h.moves_call
    obtain ⟨hend, hrest⟩ := ih h.next hnext
    refine ⟨hend, ?_⟩
    rw [TimedCall.samples_cons, cursorMoves_append, sentIn_cons, hsent, hsilent, hrest,
      List.nil_append]

theorem of_append {post : List TimedCall} (h : r.Hovering (calls ++ post)) : r.Hovering calls := by
  have hsamples : ∀ s ∈ TimedCall.samples calls, s ∈ TimedCall.samples (calls ++ post) := by
    intro s hs
    rw [TimedCall.samples_append]
    exact List.mem_append_left _ hs
  exact ⟨h.ready.of_append, fun c hc => h.timed c (List.mem_append_left _ hc),
    (forward_append.1 h.forward).1, fun s hs => h.early s (hsamples s hs),
    fun s hs => h.moves s (hsamples s hs)⟩

end Hovering

/-- A drag on its course. It moved last with `m`; the samples `kept` come next and each of them
comes in time, the last of all is `last`, and what comes `later` comes too late. -/
structure Course (r : Recognizer Queue) (calls : List TimedCall) (m : Sample)
    (kept later : List Sample) (last : Sample) : Prop extends r.Hovering calls where
  dragging : r.Dragging (m.time.plus 140)
  moved : m.time ≤ r.timers.now ∧ m.time.toNat + 160 < 2 ^ 64
  samples : TimedCall.samples calls = kept ++ later
  chain : (m :: kept).IsChain fun s t => t.time < s.time.plus 140
  final : (m :: kept).getLast? = some last
  gap : ∀ s ∈ later.head?, last.time.plus 140 ≤ s.time

namespace Course

/-- Before the timeout, the clock may move. -/
theorem advance (h : r.Course (.advanceTo time :: calls) m kept later last)
    (hlt : time < m.time.plus 140) :
    (r.performTimed (.advanceTo time)).sent = [] ∧
      (r.performTimed (.advanceTo time)).next.Course calls m kept later last := by
  obtain ⟨hle, -⟩ := h.forward
  rcases h.dragging.facing h.ready.tracked (c := .advanceTo time) rfl with
    ⟨-, hsilent, hfacing⟩ | ⟨hdue, -, -⟩
  · refine ⟨?_, h.next, hfacing, ⟨?_, h.moved.2⟩, h.samples, h.chain, h.final, h.gap⟩
    · rw [sent_performTimed, hsilent]
      rfl
    · rw [now_performTimed h.standard (c := .advanceTo time) rfl rfl (hle time rfl)]
      exact UInt64.le_trans h.moved.1 (hle time rfl)
  · exact absurd hlt (UInt64.not_lt.2 hdue)

/-- A movement before the timeout keeps the drag up. -/
theorem hover (h : r.Course (.handleAt s :: calls) m kept later last)
    (hlt : s.time < m.time.plus 140) :
    ∃ others, kept = s :: others ∧
      (r.performTimed (.handleAt s)).sent = [.move s.position true] ∧
      (r.performTimed (.handleAt s)).next.Course calls s others later last := by
  obtain ⟨hle, -⟩ := h.forward
  have hsamples : s :: TimedCall.samples calls = kept ++ later := h.samples
  have hlast := h.final
  have hchain := h.chain
  cases kept with
  | nil =>
    -- The sample would come too late.
    obtain rfl : m = last := Option.some.inj hlast
    have hgap := h.gap s (by rw [← List.nil_append later, ← hsamples]; rfl)
    exact absurd hlt (UInt64.not_lt.2 hgap)
  | cons t others =>
    obtain ⟨rfl, hothers⟩ := List.cons.inj hsamples
    rw [List.getLast?_cons_cons] at hlast
    rw [List.isChain_cons_cons] at hchain
    rcases h.dragging.facing h.ready.tracked (c := .handleAt s) rfl with
      ⟨-, hsilent, hfacing⟩ | ⟨hdue, -, -⟩
    · obtain ⟨hnext, hsent⟩ := hfacing.hover h.standard (h.moves_call s rfl) (hle s.time rfl)
      rw [hsilent] at hsent
      refine ⟨others, rfl, hsent, h.next, hnext, ⟨?_, ?_⟩, hothers, hchain.2, hlast, h.gap⟩
      · rw [now_performTimed h.standard (c := .handleAt s) rfl rfl (hle s.time rfl)]
        exact UInt64.le_refl _
      · exact h.early s List.mem_cons_self
    · exact absurd hlt (UInt64.not_lt.2 hdue)

/-- The first call that comes to the timeout ends the drag. -/
theorem lapse (h : r.Course (c :: calls) m kept later last) (ht : c.time? = some time)
    (hdue : m.time.plus 140 ≤ time) :
    kept = [] ∧ (r.performTimed c).sent = .release .left ::
        cursorMoves false (TimedCall.samples [c]) ∧
      (r.performTimed c).next.stance.Over := by
  obtain ⟨hle, hforward⟩ := h.forward
  have hc := h.timed c List.mem_cons_self
  rcases h.dragging.facing h.ready.tracked ht with ⟨hlt, -, -⟩ | ⟨-, hrelease, hfacing⟩
  · exact absurd hlt (UInt64.not_lt.2 hdue)
  obtain ⟨hnext, hsent⟩ := sent_of_over h.standard hc hfacing h.moves_call
  refine ⟨?_, by rw [hsent, hrelease]; rfl, hnext⟩
  have hchain := h.chain
  have hsamples := h.samples
  cases kept with
  | nil => rfl
  | cons s others =>
    -- No sample comes before the call does.
    have hmem : s ∈ TimedCall.samples (c :: calls) := by
      rw [hsamples]
      exact List.mem_cons_self
    have hlate := h.forward.time_le_sample h.standard h.timed ht s hmem
    rw [List.isChain_cons_cons] at hchain
    exact absurd hchain.1 (UInt64.not_lt.2 (UInt64.le_trans hdue hlate))

/-- The last movement of the drag is no earlier than the one before the samples to come. -/
theorem time_le_last (h : r.Course calls m kept later last) : m.time ≤ last.time := by
  rcases List.mem_cons.1 (List.mem_of_getLast? h.final) with rfl | hmem
  · exact UInt64.le_refl _
  · have hsample : last ∈ TimedCall.samples calls := by
      rw [h.samples]
      exact List.mem_append_left _ hmem
    exact UInt64.le_trans h.moved.1
      (h.forward.now_le_sample h.standard h.timed last hsample)

theorem now_lt (h : r.Course calls m kept later last) : r.timers.now < last.time.plus 140 := by
  have hearly := h.moved.2
  have hdue : (m.time.plus 140).toNat = m.time.toNat + 140 := by
    rw [Time.toNat_plus]
    show min (m.time.toNat + 140) _ = _
    omega
  have hnow := h.dragging.now_lt h.ready.tracked (by omega)
  have hle := h.time_le_last
  rw [UInt64.lt_iff_toNat_lt] at hnow ⊢
  rw [UInt64.le_iff_toNat_le] at hle
  rw [hdue] at hnow
  have hlast := last.time.toNat_lt
  rw [Time.toNat_plus]
  show _ < min (last.time.toNat + 140) _
  omega

/-- Up to the end of the drag each movement drags the cursor, and from there on the cursor follows
the finger; the button is let go in between. -/
theorem run {pre post : List TimedCall} (h : r.Course (pre ++ post) m kept later last) :
    let q := after performTimed r pre
    (q.timers.now < last.time.plus 140 → q.state = .dragActive ∧
      sentIn performTimed r pre = cursorMoves true (TimedCall.samples pre)) ∧
    (last.time.plus 140 ≤ q.timers.now → q.state = .hoverTracking ∧
      sentIn performTimed r pre = cursorMoves true kept ++ .release .left ::
        cursorMoves false ((TimedCall.samples pre).drop kept.length)) := by
  induction pre generalizing r m kept with
  | nil =>
    refine ⟨fun _ => ⟨h.dragging.state, rfl⟩, fun hpast => ?_⟩
    exact absurd h.now_lt (UInt64.not_lt.2 hpast)
  | cons c rest ih =>
    intro q
    obtain ⟨time, htime⟩ := Option.isSome_iff_exists.1 (h.timed c List.mem_cons_self)
    have hle := h.forward.1 time htime
    have hnow := now_performTimed h.standard (h.timed c List.mem_cons_self) htime hle
    by_cases hlt : time < m.time.plus 140
    · cases c with
      | plain call => cases htime
      | advanceTo t =>
        obtain rfl := Option.some.inj htime
        obtain ⟨hsent, hnext⟩ := h.advance hlt
        rw [sentIn_cons, hsent]
        exact ih hnext
      | handleAt s =>
        obtain rfl := Option.some.inj htime
        obtain ⟨others, rfl, hsent, hnext⟩ := h.hover hlt
        obtain ⟨hdrags, hfollows⟩ := ih hnext
        rw [sentIn_cons, hsent, TimedCall.samples_cons]
        refine ⟨fun hbefore => ?_, fun hpast => ?_⟩
        · obtain ⟨hstate, hrest⟩ := hdrags hbefore
          exact ⟨hstate, by rw [hrest]; rfl⟩
        · obtain ⟨hstate, hrest⟩ := hfollows hpast
          exact ⟨hstate, by rw [hrest]; rfl⟩
    · have hdue := UInt64.not_lt.1 hlt
      obtain ⟨rfl, hsent, hover⟩ := h.lapse htime hdue
      obtain rfl : m = last := Option.some.inj h.final
      have hrest := h.next.of_append
      obtain ⟨hend, hfollows⟩ := hrest.run_of_over hover
      have hlater := hrest.forward.now_le_after hrest.standard hrest.timed
      rw [hnow] at hlater
      refine ⟨fun hbefore => ?_, fun _ => ⟨hend.state, ?_⟩⟩
      · exact absurd hbefore (UInt64.not_lt.2 (UInt64.le_trans hdue hlater))
      · rw [sentIn_cons, hsent, hfollows, List.length_nil, List.drop_zero,
          TimedCall.samples_cons c rest, cursorMoves_append]
        rfl

end Course

/-- Whatever samples follow a movement, some of them keep it up and then comes a gap, or none. -/
theorem exists_kept (m : Sample) (samples : List Sample) :
    ∃ kept later last, samples = kept ++ later ∧
      ((m :: kept).IsChain fun s t => t.time < s.time.plus 140) ∧
      (m :: kept).getLast? = some last ∧ ∀ s ∈ later.head?, last.time.plus 140 ≤ s.time := by
  induction samples generalizing m with
  | nil => exact ⟨[], [], m, rfl, .singleton m, rfl, nofun⟩
  | cons s rest ih =>
    by_cases hlt : s.time < m.time.plus 140
    · obtain ⟨kept, later, last, hsplit, hchain, hlast, hgap⟩ := ih s
      refine ⟨s :: kept, later, last, by rw [hsplit]; rfl, ?_, ?_, hgap⟩
      · exact List.isChain_cons_cons.2 ⟨hlt, hchain⟩
      · rwa [List.getLast?_cons_cons]
    · refine ⟨[], s :: rest, m, rfl, .singleton m, rfl, ?_⟩
      rintro t ⟨⟩
      exact UInt64.not_lt.1 hlt

/-- After the movement that begins a drag, the drag is on its course. -/
theorem course_of_begins (hr : r.Ready (.handleAt m :: calls))
    (timed : ∀ c ∈ TimedCall.handleAt m :: calls, c.IsTimed)
    (forward : Forward r (.handleAt m :: calls))
    (early : ∀ c ∈ TimedCall.handleAt m :: calls, ∀ time ∈ c.time?, time.toNat + 160 < 2 ^ 64)
    (moves : ∀ s ∈ TimedCall.samples calls, s.action = .hoverMove)
    (hdragging : (r.performTimed (.handleAt m)).next.Dragging (m.time.plus 140))
    (hsplit : TimedCall.samples calls = kept ++ later)
    (hchain : (m :: kept).IsChain fun s t => t.time < s.time.plus 140)
    (hlast : (m :: kept).getLast? = some last)
    (hgap : ∀ s ∈ later.head?, last.time.plus 140 ≤ s.time) :
    (r.performTimed (.handleAt m)).next.Course calls m kept later last := by
  have timed' : ∀ c ∈ calls, c.IsTimed := fun c hc => timed c (List.mem_cons_of_mem _ hc)
  have hearly : ∀ s ∈ TimedCall.samples calls, s.time.toNat + 160 < 2 ^ 64 := by
    intro s hs
    obtain ⟨c, hc, hsample⟩ := List.mem_filterMap.1 hs
    exact early c (List.mem_cons_of_mem _ hc) s.time ((timed' c hc).time_of_sample hsample)
  have hnow : (r.performTimed (.handleAt m)).next.timers.now = m.time :=
    now_performTimed hr.tracked.standard (timed _ List.mem_cons_self) rfl (forward.1 m.time rfl)
  refine ⟨⟨hr.next, timed', forward.2, hearly, moves⟩, hdragging, ⟨?_, ?_⟩, hsplit, hchain, hlast,
    hgap⟩
  · rw [hnow]
    exact UInt64.le_refl _
  · exact early _ List.mem_cons_self _ rfl

/-- **A drag lasts as long as movement keeps coming.** Whatever calls come before, let a call begin
a drag, and let only hovering movements and jumps of the clock follow, none before the clock and
none so late that a deadline saturates. Up to the first gap of 140 milliseconds between two movements, or
to the last movement, the movements are `dragged` and `last`. Then at every moment of the run: as
long as the clock is less than 140 milliseconds past `last` the drag is on, and what was sent since
it began is the left press and a dragging movement for each sample so far. From then on the finger
hovers, and what was sent is the press, the dragging movements up to `last`, one left release, and a
plain movement for each sample after `last`. What the callbacks of the first call send, before its
sample begins the drag, comes before all that. And no call that finds a drag, in whatever run, sends
a click. -/
theorem drag_lasts (config : Config) (start : Time) (before : List TimedCall)
    (driven : ∀ c ∈ before, c.IsDriven) :
    let r := after performTimed (new config (Queue.startingAt start)) before
    (∀ begin calls, (∀ c ∈ begin :: calls, c.IsTimed) → Forward r (begin :: calls) →
      (∀ c ∈ begin :: calls, ∀ time ∈ c.time?, time.toNat + 160 < 2 ^ 64) →
      (∀ s ∈ TimedCall.samples calls, s.action = .hoverMove) →
      schedulings (new config (Queue.startingAt start)) (before ++ begin :: calls) < 2 ^ 64 →
      r.BeginsDrag begin →
      ∃ dragged last later,
        TimedCall.samples (begin :: calls) = dragged ++ last :: later ∧
        ((dragged ++ [last]).IsChain fun s t => t.time < s.time.plus 140) ∧
        (∀ s ∈ later.head?, last.time.plus 140 ≤ s.time) ∧
        ∀ pre post, calls = pre ++ post →
          let q := after performTimed r (begin :: pre)
          let samples := TimedCall.samples (begin :: pre)
          (q.timers.now < last.time.plus 140 → q.state = .dragActive ∧
            sentIn performTimed r (begin :: pre) =
              r.lapse begin ++ .press .left :: cursorMoves true samples) ∧
          (last.time.plus 140 ≤ q.timers.now → q.state = .hoverTracking ∧
            sentIn performTimed r (begin :: pre) =
              r.lapse begin ++ .press .left :: cursorMoves true (dragged ++ [last]) ++
                .release .left :: cursorMoves false (samples.drop (dragged.length + 1)))) ∧
    (r.state = .dragActive → ∀ c, c.IsDriven → ∀ b, .click b ∉ (r.performTimed c).sent) := by
  intro r
  have hb : r.handlers = .standard :=
    after_keeps (P := fun q => q.handlers = .standard)
      (fun q c _ h => (q.handlers_performTimed c).trans h) rfl
  refine ⟨?_, fun hdrag c hc b => click_not_mem_of_drag hb hdrag hc b⟩
  intro begin calls timed forward early hover room hbegins
  have hready : r.Ready (begin :: calls) := by
    refine (Ready.start (fun c hc => ?_) room).run
    rcases List.mem_append.1 hc with hc | hc
    · exact driven c hc
    · exact (timed c hc).isDriven
  obtain ⟨m, rfl, hdragging, hsent⟩ :=
    dragging_of_begins hb (timed begin List.mem_cons_self) hbegins forward.1
  obtain ⟨kept, later, last, hsplit, hchain, hlast, hgap⟩ :=
    exists_kept m (TimedCall.samples calls)
  have hcourse :=
    course_of_begins hready timed forward early hover hdragging hsplit hchain hlast hgap
  obtain ⟨dragged, hdragged⟩ := List.getLast?_eq_some_iff.1 hlast
  have hlength : dragged.length = kept.length := by
    have hlengths := congrArg List.length hdragged
    simp only [List.length_cons, List.length_append, List.length_nil] at hlengths
    omega
  have hsamples (rest : List TimedCall) :
      TimedCall.samples (.handleAt m :: rest) = m :: TimedCall.samples rest := rfl
  refine ⟨dragged, last, later, ?_, hdragged ▸ hchain, hgap, ?_⟩
  · rw [hsamples, hsplit, List.append_cons, ← hdragged]
    rfl
  · rintro pre post rfl
    intro q samples
    obtain ⟨hdrags, hfollows⟩ := hcourse.run
    refine ⟨fun hbefore => ?_, fun hpast => ?_⟩
    · obtain ⟨hstate, hrest⟩ := hdrags hbefore
      refine ⟨hstate, ?_⟩
      rw [sentIn_cons, hsent, hrest, List.append_assoc]
      rfl
    · obtain ⟨hstate, hrest⟩ := hfollows hpast
      refine ⟨hstate, ?_⟩
      rw [sentIn_cons, hsent, hrest, ← hdragged, hlength, List.append_assoc, List.append_assoc]
      rfl

/-- A movement at 250 pushes the end of a drag back from 320 to 390. -/
theorem drag_lasts_pushed_back :
    let before := TimedCall.tapping ⟨10, 10⟩ 100 140 ++
      [.handleAt (.single .hoverEnter ⟨10, 10⟩ 160)]
    let r := after performTimed (new {} (Queue.startingAt 0)) before
    let begin := TimedCall.handleAt (.single .hoverMove ⟨12, 10⟩ 180)
    let more := TimedCall.handleAt (.single .hoverMove ⟨14, 10⟩ 250)
    (after performTimed r [begin, more, .advanceTo 389]).state = .dragActive ∧
      (after performTimed r [begin, more, .advanceTo 389, .advanceTo 390]).state =
        .hoverTracking ∧
      sentIn performTimed r [begin, more, .advanceTo 389, .advanceTo 390] =
        [.press .left, .move ⟨12, 10⟩ true, .move ⟨14, 10⟩ true, .release .left] := by
  intro before r begin more
  have hfits : ∀ c ∈ [begin, more, .advanceTo 389, .advanceTo 390],
      ∀ time ∈ c.time?, time.toNat + 160 < 2 ^ 64 := by
    simp [begin, more, TimedCall.time?, Sample.single]
  obtain ⟨dragged, last, later, hsamples, -, hgap, hrun⟩ :=
    (drag_lasts {} 0 before (by decide)).1 begin [more, .advanceTo 389, .advanceTo 390] (by decide)
      (by decide +kernel) hfits (by decide) (by decide +kernel) (by decide +kernel)
  have hlapse : r.lapse begin = [] := by decide +kernel
  -- The second movement is in time, so it is the last one of the drag.
  obtain ⟨rfl, rfl⟩ : dragged = [.single .hoverMove ⟨12, 10⟩ 180] ∧
      last = .single .hoverMove ⟨14, 10⟩ 250 := by
    cases dragged with
    | nil =>
      obtain ⟨rfl, rfl⟩ := List.cons.inj hsamples
      exact absurd (hgap _ rfl) (by decide)
    | cons first others =>
      obtain ⟨rfl, hrest⟩ := List.cons.inj hsamples
      cases others with
      | nil => exact ⟨rfl, (List.cons.inj hrest).1.symm⟩
      | cons second others =>
        have hnil : [] = others ++ last :: later := (List.cons.inj hrest).2
        exact absurd hnil.symm (by simp)
  obtain ⟨hdrags, -⟩ := hrun [more, .advanceTo 389] [.advanceTo 390] rfl
  obtain ⟨-, hover⟩ := hrun [more, .advanceTo 389, .advanceTo 390] [] rfl
  obtain ⟨hstate, hsent⟩ := hover (by decide +kernel)
  refine ⟨(hdrags (by decide +kernel)).1, hstate, ?_⟩
  rw [hsent, hlapse]
  rfl

end Recognizer

end Trackpad
