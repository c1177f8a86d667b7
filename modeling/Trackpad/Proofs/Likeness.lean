import Trackpad.Proofs.Batch

/-!
# Likeness — two runs that recognition cannot tell apart

Recognition reads little of what it is given: of a sample not the time, and of the flags only one
bit; of its context neither the times, nor the history, nor what the last sample looked like, once
that sample has been handled. A `Likeness` says in what two runs may differ there: a relation for
the schedulers, for the samples, for the times in the context, for what the last sample left, and
for the histories, each kept by the few things that are done to it. Then all that recognition does
keeps the two runs alike: one lemma for each thing that a turn can do, one for each handler
(`Likeness.Outcomes`), and from these one for a sample (`route`) and one for a callback (`deliver`).
-/

namespace Trackpad

/-- Samples with all that recognition reads of a sample in common. -/
structure Sample.Resembles (s s' : Sample) : Prop where
  action : s'.action = s.action
  position : s'.position = s.position
  pointerCount : s'.pointerCount = s.pointerCount
  pointers : s'.pointers = s.pointers
  buttons : s'.buttons = s.buttons
  isTwoFinger : s'.isTwoFinger = s.isTwoFinger

namespace Sample.Resembles

variable {s s' : Sample}

theorem kind (h : s.Resembles s') : s'.kind = s.kind := by
  unfold Sample.kind isPhysicalPress
  rw [h.buttons, h.pointerCount, h.isTwoFinger]

theorem contactDistance (h : s.Resembles s') : s'.contactDistance = s.contactDistance := by
  simp only [Sample.contactDistance, h.pointerCount, h.pointers]

end Sample.Resembles

/-- What is put into the history for a sample, under a label. -/
def Sample.entry (s : Sample) (label : String) : String :=
  label ++ ": action=" ++ s.action.name ++
    ", flags=0x" ++ Text.hexCapital s.flags.bits.toNat ++
    ", buttons=0x" ++ Text.hexCapital s.buttons.bits.toNat ++
    ", pointers=" ++ toString s.pointerCount

theorem Context.noteSample_eq (c : Context) (label : String) (s : Sample) :
    c.noteSample label s = c.note (s.entry label) := rfl

/-- Windows that are both idle, or both armed with related deadlines. -/
inductive Window.Rel (stamp : Time → Time → Prop) : Window → Window → Prop
  | idle : Window.Rel stamp .idle .idle
  | armed {d d' : Time} (h : stamp d d') : Window.Rel stamp (.armed d) (.armed d')

theorem Window.Rel.refl {stamp : Time → Time → Prop} (h : ∀ d, stamp d d) (w : Window) :
    Window.Rel stamp w w := by
  cases w with
  | idle => exact .idle
  | armed d => exact .armed (h d)

theorem Window.Rel.isArmed {stamp : Time → Time → Prop} {w w' : Window}
    (h : Window.Rel stamp w w') : w'.isArmed = w.isArmed := by
  cases h <;> rfl

/-- In what two runs may differ, so that recognition does not notice. -/
structure Likeness (σ τ : Type) [Scheduler σ] [Scheduler τ] where
  timers : σ → τ → Prop
  sample : Sample → Sample → Prop
  /-- The times in the context. -/
  stamp : Time → Time → Prop
  /-- The kind and the position that the last classified sample has left in the context. -/
  last : Kind × Point → Kind × Point → Prop
  history : History → History → Prop
  schedule {q : σ} {p : τ} (h : timers q p) (slot : Slot) :
    (Scheduler.schedule p slot.delay slot).1 = (Scheduler.schedule q slot.delay slot).1 ∧
      timers (Scheduler.schedule q slot.delay slot).2 (Scheduler.schedule p slot.delay slot).2
  cancel {q : σ} {p : τ} (h : timers q p) (ticket : Ticket) :
    timers (Scheduler.cancel q ticket) (Scheduler.cancel p ticket)
  resembles {s s' : Sample} (h : sample s s') : s.Resembles s'
  stamp_zero : stamp 0 0
  stamp_time {s s' : Sample} (h : sample s s') : stamp s.time s'.time
  stamp_expiry {s s' : Sample} (h : sample s s') :
    stamp (s.time.plus Slot.doubleTapExpiry.delayMillis)
      (s'.time.plus Slot.doubleTapExpiry.delayMillis)
  last_refl (l : Kind × Point) : last l l
  push {h h' : History} (hh : history h h') (entry : String) :
    history (h.push entry) (h'.push entry)
  push_entry {h h' : History} (hh : history h h') {s s' : Sample} (hs : sample s s')
    (state : State) (label : String) :
    history (h.push ("[" ++ state.name ++ "] " ++ s.entry label))
      (h'.push ("[" ++ state.name ++ "] " ++ s'.entry label))
  fresh {h h' : History} (hh : history h h') :
    history (.ofCapacity h.capacity) (.ofCapacity h'.capacity)

/-- The context without all that may differ between runs that are alike. -/
def Context.bare (c : Context) : Context :=
  { c with
    kind := .unknown
    position := .origin
    startTime := 0
    lastTapTime := 0
    window := .idle
    history := {} }

/-- The context `b`, but for what may differ, which is as in `c`. -/
def Context.dress (c b : Context) : Context :=
  { b with
    kind := c.kind
    position := c.position
    startTime := c.startTime
    lastTapTime := c.lastTapTime
    window := c.window
    history := c.history }

namespace Likeness

variable {σ τ : Type} [Scheduler σ] [Scheduler τ] (L : Likeness σ τ)

/-! ## Contexts and turns -/

/-- Contexts that are alike. -/
structure Contexts (c c' : Context) : Prop where
  bare : c'.bare = c.bare
  startTime : L.stamp c.startTime c'.startTime
  lastTapTime : L.stamp c.lastTapTime c'.lastTapTime
  window : Window.Rel L.stamp c.window c'.window
  last : L.last (c.kind, c.position) (c'.kind, c'.position)
  history : L.history c.history c'.history

/-- Turns that are alike, with the same events so far. -/
structure Turns (t : Turn σ) (t' : Turn τ) : Prop where
  slop : t'.slop = t.slop
  trace : t'.trace = t.trace
  timers : L.timers t.timers t'.timers
  context : L.Contexts t.context t'.context

/-- The same answer, and turns that are alike. -/
structure Outcomes {α : Type} (o : α × Turn σ) (o' : α × Turn τ) : Prop where
  value : o'.1 = o.1
  turns : L.Turns o.2 o'.2

variable {L}

namespace Contexts

variable {c c' : Context}

theorem state (h : L.Contexts c c') : c'.state = c.state := (congrArg Context.state h.bare :)

theorem startPosition (h : L.Contexts c c') : c'.startPosition = c.startPosition :=
  (congrArg Context.startPosition h.bare :)

theorem scroll (h : L.Contexts c c') : c'.scroll = c.scroll := (congrArg Context.scroll h.bare :)

theorem pinch (h : L.Contexts c c') : c'.pinch = c.pinch := (congrArg Context.pinch h.bare :)

theorem twoFingerTap (h : L.Contexts c c') : c'.twoFingerTap = c.twoFingerTap :=
  (congrArg Context.twoFingerTap h.bare :)

theorem slots (h : L.Contexts c c') : c'.slots = c.slots := (congrArg Context.slots h.bare :)

/-- What a change neither reads nor changes makes no difference to it. -/
theorem change (h : L.Contexts c c') {f : Context → Context}
    (hf : ∀ c, f c = c.dress (f c.bare)) : L.Contexts (f c) (f c') := by
  rw [hf c, hf c', h.bare]
  exact { h with bare := rfl }

theorem note (h : L.Contexts c c') (text : String) : L.Contexts (c.note text) (c'.note text) :=
  { h with
    bare := h.bare
    history := by
      simp only [Context.note, h.state]
      exact L.push h.history _ }

theorem noteSample (h : L.Contexts c c') (label : String) {s s' : Sample} (hs : L.sample s s') :
    L.Contexts (c.noteSample label s) (c'.noteSample label s') :=
  { h with
    bare := h.bare
    history := by
      simp only [Context.noteSample_eq, Context.note, h.state]
      exact L.push_entry h.history hs c.state label }

theorem classify (h : L.Contexts c c') {s s' : Sample} (hs : L.sample s s') :
    L.Contexts (c.classify s) (c'.classify s') :=
  { h with
    bare := h.bare
    last := by
      simp only [Context.classify, (L.resembles hs).kind, (L.resembles hs).position]
      exact L.last_refl _ }

theorem fresh (h : L.Contexts c c') :
    L.Contexts (.fresh c.history.capacity) (.fresh c'.history.capacity) where
  bare := rfl
  startTime := L.stamp_zero
  lastTapTime := L.stamp_zero
  window := .idle
  last := L.last_refl _
  history := L.fresh h.history

end Contexts

namespace Turns

variable {t : Turn σ} {t' : Turn τ} {s s' : Sample}

theorem state (h : L.Turns t t') : t'.state = t.state := h.context.state

theorem tell (h : L.Turns t t') (e : Event) : L.Turns (t.tell e) (t'.tell e) :=
  { h with trace := congrArg (· ++ [e]) h.trace }

theorem emit (h : L.Turns t t') (c : Command) : L.Turns (t.emit c) (t'.emit c) := h.tell _

theorem log (h : L.Turns t t') (r : Log.Record) : L.Turns (t.log r) (t'.log r) := h.tell _

theorem update (h : L.Turns t t') {f f' : Context → Context}
    (hf : L.Contexts (f t.context) (f' t'.context)) : L.Turns (t.update f) (t'.update f') :=
  { h with context := hf }

theorem note (h : L.Turns t t') (text : String) : L.Turns (t.note text) (t'.note text) :=
  h.update (h.context.note text)

theorem noteSample (h : L.Turns t t') (label : String) (hs : L.sample s s') :
    L.Turns (t.noteSample label s) (t'.noteSample label s') :=
  h.update (h.context.noteSample label hs)

theorem change (h : L.Turns t t') {f : Context → Context} (hf : ∀ c, f c = c.dress (f c.bare)) :
    L.Turns (t.update f) (t'.update f) :=
  h.update (h.context.change hf)

theorem close (h : L.Turns t t') :
    L.Turns (t.update fun c => { c with window := .idle })
      (t'.update fun c => { c with window := .idle }) :=
  h.update { h.context with bare := h.context.bare, window := .idle }

theorem transition (h : L.Turns t t') (state : State) (reason : String) :
    L.Turns (t.transition state reason) (t'.transition state reason) := by
  unfold Turn.transition
  rw [h.state]
  exact (h.log _).change fun _ => rfl

theorem classify (h : L.Turns t t') (hs : L.sample s s') :
    L.Turns (t.classify s) (t'.classify s') := by
  unfold Turn.classify
  rw [(L.resembles hs).action, (L.resembles hs).kind, h.state]
  exact (h.update (h.context.classify hs)).log _

theorem disarm (h : L.Turns t t') (slot : Slot) : L.Turns (t.disarm slot) (t'.disarm slot) := by
  have hslots := h.context.slots
  cases hlive : t.context.slots.get? slot with
  | none =>
    rw [Turn.disarm_of_none hlive, Turn.disarm_of_none (hslots ▸ hlive)]
    exact h
  | some ticket =>
    simp only [Turn.disarm, Slots.disarm, hslots, hlive]
    exact { h with
      timers := L.cancel h.timers ticket
      context := h.context.change (f := fun c => { c with slots := _ }) fun _ => rfl }

theorem arm (h : L.Turns t t') (slot : Slot) : L.Turns (t.arm slot) (t'.arm slot) := by
  have hdisarm := h.disarm slot
  obtain ⟨hticket, htimers⟩ := L.schedule hdisarm.timers slot
  have harm {ρ : Type} [Scheduler ρ] (u : Turn ρ) : (u.arm slot).context =
      { (u.disarm slot).context with
        slots := (u.disarm slot).context.slots.set slot
          (some (Scheduler.schedule (u.disarm slot).timers slot.delay slot).1) } := rfl
  refine { hdisarm with timers := htimers, context := ?_ }
  -- Both schedulers hand out the same ticket, so the slots stay the same.
  rw [harm, harm, hticket, hdisarm.context.slots]
  exact hdisarm.context.change (f := fun c => { c with slots := _ }) fun _ => rfl

theorem disarmAll (h : L.Turns t t') : L.Turns t.disarmAll t'.disarmAll := by
  have htaps := (h.disarm .delayedClick).disarm .doubleTapExpiry
  exact (htaps.disarm .twoFingerTapExpiry).disarm .dragTimeout

theorem reset (h : L.Turns t t') : L.Turns t.reset t'.reset := by
  simp only [Turn.reset, h.state]
  split
  · exact h.disarmAll.update h.disarmAll.context.fresh
  · exact (h.disarmAll.log _).update h.disarmAll.context.fresh

/-! ### Reactions -/

theorem pressPad (h : L.Turns t t') (reason : String) :
    L.Turns (t.pressPad reason) (t'.pressPad reason) :=
  (h.transition .physicalClick reason).emit _

theorem touch (h : L.Turns t t') (hs : L.sample s s') (hk : t'.context.kind = t.context.kind)
    (p : Point) : L.Turns (t.update (·.touch p s.time)) (t'.update (·.touch p s'.time)) := by
  refine h.update { h.context with bare := ?_, startTime := L.stamp_time hs, last := ?_ }
  · exact congrArg (fun c : Context => { c with startPosition := p, active := true }) h.context.bare
  · show L.last (t.context.kind, p) (t'.context.kind, p)
    rw [hk]
    exact L.last_refl _

theorem beginContact (h : L.Turns t t') (hs : L.sample s s')
    (hk : t'.context.kind = t.context.kind) : L.Turns (t.beginContact s) (t'.beginContact s') := by
  have htouched := h.touch hs hk s.position
  unfold Turn.beginContact
  simp only [hk, (L.resembles hs).position]
  split
  · exact htouched.transition _ _
  · exact ((htouched.transition _ _).change (f := fun c =>
      { c with twoFingerTap := true, scroll := { c.scroll with anchor := s.position } })
        fun _ => rfl).arm _
  · exact htouched.transition _ _
  · exact htouched.pressPad _
  · exact htouched

theorem acceptTap (h : L.Turns t t') (hs : L.sample s s') :
    L.Turns (t.acceptTap s) (t'.acceptTap s') := by
  have hwaiting : L.Turns
      (t.update fun c =>
        { c with
          lastTapTime := s.time
          window := .armed (s.time.plus Slot.doubleTapExpiry.delayMillis) })
      (t'.update fun c =>
        { c with
          lastTapTime := s'.time
          window := .armed (s'.time.plus Slot.doubleTapExpiry.delayMillis) }) :=
    h.update { h.context with
      bare := h.context.bare
      lastTapTime := L.stamp_time hs
      window := .armed (L.stamp_expiry hs) }
  exact ((hwaiting.arm .delayedClick).arm .doubleTapExpiry).transition _ _

theorem beginDrag (h : L.Turns t t') (hs : L.sample s s') :
    L.Turns (t.beginDrag s) (t'.beginDrag s') := by
  have hcleared := (h.close.disarm .doubleTapExpiry).disarm .delayedClick
  have hpressed := (hcleared.transition .dragActive "tap then move").emit (.press .left)
  unfold Turn.beginDrag
  rw [(L.resembles hs).position]
  exact (hpressed.emit _).arm .dragTimeout

theorem endDrag (h : L.Turns t t') (reason : String) :
    L.Turns (t.endDrag reason) (t'.endDrag reason) :=
  (((h.disarm .dragTimeout).emit (.release .left)).close).transition .hoverTracking reason

theorem scrollTo (h : L.Turns t t') (hs : L.sample s s') :
    L.Turns (t.scrollTo s) (t'.scrollTo s') := by
  unfold Turn.scrollTo
  simp only [(L.resembles hs).position, h.context.scroll]
  split
  · exact (h.emit _).change fun _ => rfl
  · exact (h.emit _).change fun _ => rfl

theorem noTwoFingerTap (h : L.Turns t t') :
    L.Turns (t.update fun c => { c with twoFingerTap := false })
      (t'.update fun c => { c with twoFingerTap := false }) :=
  h.change fun _ => rfl

theorem dropTwoFingerTap (h : L.Turns t t') : L.Turns t.dropTwoFingerTap t'.dropTwoFingerTap :=
  h.noTwoFingerTap.disarm .twoFingerTapExpiry

theorem liftTwoFingers (h : L.Turns t t') (hs : L.sample s s') :
    L.Turns (t.liftTwoFingers s) (t'.liftTwoFingers s') := by
  unfold Turn.liftTwoFingers
  simp only [(L.resembles hs).position, h.context.scroll, h.context.twoFingerTap, h.slop]
  split
  · exact (h.emit _).dropTwoFingerTap.transition _ _
  · exact h.dropTwoFingerTap.transition _ _

theorem pinchTo (h : L.Turns t t') (hs : L.sample s s') :
    L.Turns (t.pinchTo s) (t'.pinchTo s') := by
  unfold Turn.pinchTo
  simp only [(L.resembles hs).contactDistance, h.context.pinch, h.slop]
  split
  · exact h.change fun _ => rfl
  · split
    · exact (h.emit _).change fun _ => rfl
    · exact h.change fun _ => rfl

theorem beginPinch (h : L.Turns t t') (hs : L.sample s s') :
    L.Turns (t.beginPinch s) (t'.beginPinch s') := by
  unfold Turn.beginPinch
  rw [(L.resembles hs).contactDistance]
  exact ((h.transition _ _).change fun _ => rfl).note _

theorem endPinch (h : L.Turns t t') (reason : String) :
    L.Turns (t.endPinch reason) (t'.endPinch reason) :=
  (h.change (f := (·.clearPinch)) fun _ => rfl).transition _ _

end Turns

/-! ## Handlers -/

namespace Outcomes

variable {t : Turn σ} {t' : Turn τ} {s s' : Sample}

theorem pure {α : Type} (a : α) (h : L.Turns t t') : L.Outcomes (a, t) (a, t') := ⟨rfl, h⟩

theorem idle (h : L.Turns t t') (hs : L.sample s s') (hk : t'.context.kind = t.context.kind) :
    L.Outcomes (Handler.idle.react s t) (Handler.idle.react s' t') := by
  simp only [Handler.idle, (L.resembles hs).action]
  split
  · exact .pure true (h.transition _ _)
  · exact .pure true (h.beginContact hs hk)
  · exact .pure true (h.pressPad _)
  · exact .pure false h

theorem hover (h : L.Turns t t') (hs : L.sample s s') :
    L.Outcomes (Handler.hover.react s t) (Handler.hover.react s' t') := by
  have hr := L.resembles hs
  simp only [Handler.hover, hr.action]
  split
  · rw [h.context.window.isArmed, hr.position]
    split
    · exact .pure true (h.beginDrag hs)
    · exact .pure true (h.emit _)
  · rw [hr.position]
    exact .pure true (Turns.transition (h.change fun _ => rfl) _ _)
  · exact .pure false h

theorem tap (h : L.Turns t t') (hs : L.sample s s') :
    L.Outcomes (Handler.tap.react s t) (Handler.tap.react s' t') := by
  have hr := L.resembles hs
  simp only [Handler.tap, hr.action]
  split
  · rw [hr.position, h.context.startPosition, h.slop]
    split
    · exact .pure true (h.acceptTap hs)
    · exact .pure true (h.transition _ _)
  · rw [hr.position, h.context.startPosition, h.slop]
    split
    · exact .pure true (h.transition _ _)
    · exact .pure true h
  · exact .pure true (h.transition _ _)
  · exact .pure false h

theorem drag (h : L.Turns t t') (hs : L.sample s s') :
    L.Outcomes (Handler.drag.react s t) (Handler.drag.react s' t') := by
  have hr := L.resembles hs
  simp only [Handler.drag, hr.action, hr.position]
  split
  · exact .pure true ((h.emit _).arm _)
  · exact .pure false (h.endDrag _)

theorem twoFinger (h : L.Turns t t') (hs : L.sample s s') :
    L.Outcomes (Handler.twoFinger.react s t) (Handler.twoFinger.react s' t') := by
  simp only [Handler.twoFinger, (L.resembles hs).action]
  split
  · exact .pure true (h.liftTwoFingers hs)
  · exact .pure true ((h.dropTwoFingerTap.transition _ _).scrollTo hs)
  · exact .pure true (Turns.transition (h.change fun _ => rfl) _ _)
  · exact .pure false h

theorem scroll (h : L.Turns t t') (hs : L.sample s s') :
    L.Outcomes (Handler.scroll.react s t) (Handler.scroll.react s' t') := by
  simp only [Handler.scroll, (L.resembles hs).action]
  split
  · exact .pure true (h.scrollTo hs)
  · exact .pure true (h.transition _ _)
  · exact .pure true h
  · exact .pure false h

theorem pinch (h : L.Turns t t') (hs : L.sample s s') :
    L.Outcomes (Handler.pinch.react s t) (Handler.pinch.react s' t') := by
  have hr := L.resembles hs
  simp only [Handler.pinch, hr.action, hr.pointerCount]
  split
  · split
    · exact .pure false h
    · exact .pure true (h.pinchTo hs)
  · split
    · exact .pure true (h.endPinch _)
    · exact .pure true h
  · exact .pure true (h.endPinch _)
  · exact .pure true (h.endPinch _)
  · exact .pure false h

theorem physical (h : L.Turns t t') (hs : L.sample s s') :
    L.Outcomes (Handler.physical.react s t) (Handler.physical.react s' t') := by
  have hr := L.resembles hs
  simp only [Handler.physical, hr.buttons, hr.position]
  split
  · exact .pure true ((h.emit _).transition _ _)
  · exact .pure true (h.emit _)

/-- The handler at rest is the only one that looks at the kind of the sample. -/
theorem dispatch (h : L.Turns t t') (hs : L.sample s s')
    (hk : t.state = .idle → t'.context.kind = t.context.kind) :
    L.Outcomes (Registry.standard.dispatch s t) (Registry.standard.dispatch s' t') := by
  have hnoted (label : String) := h.noteSample label hs
  unfold Registry.dispatch
  rw [h.state]
  cases hstate : t.state with
  | idle => exact idle (hnoted _) hs (hk hstate)
  | hoverTracking => exact hover (hnoted _) hs
  | singleTapPending => exact tap (hnoted _) hs
  | dragActive => exact drag (hnoted _) hs
  | twoFingerTapPending => exact twoFinger (hnoted _) hs
  | twoFingerScroll => exact scroll (hnoted _) hs
  | pinchZoom => exact pinch (hnoted _) hs
  | physicalClick => exact physical (hnoted _) hs

theorem route (h : L.Turns t t') (hs : L.sample s s') :
    L.Outcomes (t.route .standard s) (t'.route .standard s') := by
  have hr := L.resembles hs
  unfold Turn.route
  simp only [hr.action, hr.pointerCount, h.state]
  split
  · refine ⟨rfl, ?_⟩
    split
    · exact h.beginPinch hs
    · exact h
  · split
    · rename_i hstate
      exact dispatch h hs fun hidle => absurd (hidle.symm.trans hstate) nofun
    · exact .pure true h
  · exact .pure true ((h.pressPad _).note _)
  · split
    · rename_i hstate
      exact dispatch h hs fun hidle => absurd (hidle.symm.trans hstate) nofun
    · exact .pure true h
  · exact .pure true h.reset
  · -- Whatever the last sample has left, this one has just been classified.
    exact dispatch (h.classify hs) hs fun _ => hr.kind

theorem expire (h : L.Turns t t') (slot : Slot) : L.Outcomes (t.expire slot) (t'.expire slot) := by
  cases slot with
  | delayedClick =>
    simp only [Turn.expire, Turn.onDelayedClick, h.context.window.isArmed, h.state]
    split
    · exact .pure false h
    · exact .pure true (h.emit _)
  | doubleTapExpiry =>
    simp only [Turn.expire, Turn.onDoubleTapExpiry, h.context.window.isArmed]
    split
    · exact .pure true h.close
    · exact .pure false h
  | twoFingerTapExpiry => exact ⟨h.context.twoFingerTap, h.noTwoFingerTap⟩
  | dragTimeout =>
    simp only [Turn.expire, Turn.onDragTimeout, h.state]
    split
    · exact .pure true (h.endDrag _)
    · exact .pure false h

theorem deliver (h : L.Turns t t') (slot : Slot) (ticket : Ticket) :
    L.Outcomes (t.deliver slot ticket) (t'.deliver slot ticket) := by
  unfold Turn.deliver
  rw [h.context.slots]
  split
  · exact .pure false (h.log _)
  · refine expire (Turns.note ?_ _) slot
    exact h.change fun _ => rfl

end Outcomes

end Likeness

end Trackpad
