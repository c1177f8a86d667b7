import Trackpad.Proofs.Contact
import Trackpad.Proofs.TwoFingers

/-!
# Travel — a scroll follows the fingers movement by movement

Two fingers that come down and move scroll by the way from each position to the next one
(`Command.travel`), beginning with where they came down. The first movement is taken by one state and
all others by another, but both measure from the same anchor (`Follows.anchor`), which nothing else
touches as long as the contact lasts: neither samples that are not movements, nor callbacks. So what
is scrolled can be read off the positions alone (`travels`).
-/

namespace Trackpad

/-- What is scrolled, among some commands. -/
def scrolled (cs : List Command) : List Command := cs.filter Command.isScroll

theorem scrolled_append (cs ds : List Command) : scrolled (cs ++ ds) = scrolled cs ++ scrolled ds :=
  List.filter_append ..

theorem scrolled_of_twos {cs : List Command} (h : twos cs = []) : scrolled cs = [] := by
  refine List.filter_eq_nil_iff.2 fun c hc hscroll => List.filter_eq_nil_iff.1 h c hc ?_
  cases c with
  | scroll _ _ | scrollWithShift _ _ => rfl
  | _ => cases hscroll

/-- The positions that some samples move to. -/
def movements (samples : List Sample) : List Point :=
  (samples.filter fun s => s.action = .move).map Sample.position

/-- What is scrolled on the way from `p` through some positions, one command for each of them. -/
def travels : Point → List Point → List Command
  | _, [] => []
  | p, q :: rest => Command.travel p q :: travels q rest

theorem length_travels (p : Point) (ps : List Point) : (travels p ps).length = ps.length := by
  induction ps generalizing p with
  | nil => rfl
  | cons q rest ih => rw [travels, List.length_cons, List.length_cons, ih]

theorem travels_append (p : Point) (ps qs : List Point) :
    travels p (ps ++ qs) = travels p ps ++ travels (ps.getLastD p) qs := by
  induction ps generalizing p with
  | nil => rfl
  | cons q rest ih =>
    rw [List.cons_append, travels, ih, travels, List.getLastD_cons, List.cons_append]

theorem movements_append_move {samples : List Sample} {s : Sample} (ha : s.action = .move) :
    movements (samples ++ [s]) = movements samples ++ [s.position] := by
  simp [movements, ha]

theorem movements_append_other {samples : List Sample} {s : Sample} (ha : s.action ≠ .move) :
    movements (samples ++ [s]) = movements samples := by
  simp [movements, ha]

theorem Sample.settles_iff {s : Sample} : s.Settles ↔ s.action = .move ∨ s.EndsContact :=
  Iff.rfl

/-! ## Samples -/

namespace Turn

variable {σ : Type} [Scheduler σ] {t : Turn σ} {s : Sample}

/-- Each movement scrolls by the way from the last one, the first like the others. -/
theorem route_of_movement (hs : t.state.IsOfTwo) (ha : s.action = .move) :
    (t.route .standard s).2.state.IsOfTwo ∧
      (t.route .standard s).2.context.scroll.anchor = s.position ∧
      (t.route .standard s).2.sent =
        t.sent ++ [.travel t.context.scroll.anchor s.position] := by
  rcases State.isOfTwo_iff.1 hs with hwaits | hscroll
  · obtain ⟨hdoes, hanchor⟩ := route_of_slide hwaits ha
    have hstate : (t.route .standard s).2.state = .twoFingerScroll :=
      congrArg Stance.state hdoes.stance
    exact ⟨State.isOfTwo_iff.2 (.inr hstate), hanchor, hdoes.sent⟩
  · obtain ⟨hdoes, hanchor⟩ := route_of_scrolling hscroll ha
    have hstate : (t.route .standard s).2.state = t.state := congrArg Stance.state hdoes.stance
    exact ⟨hstate ▸ hs, hanchor, hdoes.sent⟩

/-- Fingers that are lifted come to rest, and what they send is at most a click. -/
theorem route_of_release (hs : t.state.IsOfTwo) (ha : s.action = .up) :
    (t.route .standard s).2.state = .idle ∧
      scrolled (t.route .standard s).2.sent = scrolled t.sent := by
  rcases State.isOfTwo_iff.1 hs with hwaits | hscroll
  · have hdoes := route_of_lift hwaits ha
    have hsends (clicks : Bool) : scrolled (Deed.liftTwo clicks).sends = [] := by
      cases clicks <;> rfl
    refine ⟨congrArg Stance.state hdoes.stance, ?_⟩
    rw [hdoes.sent, scrolled_append, hsends, List.append_nil]
  · rw [route_of_reacts hscroll rfl (ha ▸ trivial) (.finished ha)]
    exact ⟨rfl, by simp⟩

end Turn

/-! ## The stretch of a contact -/

namespace Recognizer

section

variable {σ : Type} [Scheduler σ] {r : Recognizer σ} {s : Sample} {p : Point}
  {past : List Sample} {sent : List Command}

/-- Two fingers came down at `p`, and so far what was scrolled follows the samples `past`. -/
structure Follows (p : Point) (past : List Sample) (sent : List Command) (r : Recognizer σ) :
    Prop where
  state : r.state.IsOfTwo
  anchor : r.context.scroll.anchor = (movements past).getLastD p
  sent : scrolled sent = travels p (movements past)

namespace Follows

theorem onTimer (h : r.Follows p past sent) (slot : Slot) (ticket : Ticket) :
    (r.onTimer slot ticket).next.Follows p past (sent ++ (r.onTimer slot ticket).sent) where
  state := by
    have hdrag : r.state ≠ .dragActive := by
      intro hdrag
      have hof := h.state
      rw [hdrag] at hof
      exact hof
    rw [state_onTimer_of_not_drag hdrag]
    exact h.state
  anchor := by
    have hrest := congrArg Context.scroll (r.inStance_onTimer slot ticket r.stance)
    have hscroll : (r.onTimer slot ticket).next.context.scroll = r.context.scroll := hrest
    rw [hscroll]
    exact h.anchor
  sent := by
    rw [scrolled_append, scrolled_of_twos (r.twos_onTimer slot ticket), List.append_nil]
    exact h.sent

theorem handle (h : r.Follows p past sent) (hb : r.handlers = .standard)
    (hends : ¬s.EndsContact) :
    (r.handle s).next.Follows p (past ++ [s]) (sent ++ (r.handle s).sent) := by
  rw [handle_of_standard hb]
  by_cases ha : s.action = .move
  · obtain ⟨hstate, hanchor, hsent⟩ := Turn.route_of_movement (t := r.turn) h.state ha
    refine ⟨hstate, ?_, ?_⟩
    · rw [movements_append_move ha, List.getLastD_concat]
      exact hanchor
    · show scrolled (sent ++ (r.turn.route .standard s).2.sent) = _
      have htravel : r.turn.context.scroll.anchor = (movements past).getLastD p := h.anchor
      rw [hsent, htravel, movements_append_move ha, travels_append, ← h.sent]
      show scrolled (sent ++ [Command.travel _ s.position]) = scrolled sent ++ [Command.travel _ _]
      rw [scrolled_append]
      exact congrArg _ (List.filter_cons_of_pos (Command.isScroll_travel _ _))
  · have hunsettled : ¬s.Settles := by
      rw [Sample.settles_iff, not_or]
      exact ⟨ha, hends⟩
    obtain ⟨hdoes, hscroll⟩ := Turn.route_of_unsettled (t := r.turn) h.state hunsettled
    have hquiet : (r.turn.route .standard s).2.sent = [] := hdoes.sent
    have hstate : (r.turn.route .standard s).2.state.IsOfTwo := by
      have hsame : (r.turn.route .standard s).2.state = r.state :=
        congrArg Stance.state hdoes.stance
      rw [hsame]
      exact h.state
    refine ⟨hstate, ?_, ?_⟩
    · rw [movements_append_other ha]
      exact (congrArg ScrollProgress.anchor hscroll).trans h.anchor
    · show scrolled (sent ++ (r.turn.route .standard s).2.sent) = _
      rw [hquiet, List.append_nil, movements_append_other ha]
      exact h.sent

end Follows

/-- A scroll follows the fingers from the first sample of the contact to the last. -/
theorem carried_follows (p : Point) :
    Carried (σ := σ) (fun s => ¬s.EndsContact) fun past sent r => r.Follows p past sent where
  callback slot ticket h := h.onTimer slot ticket
  sample hb hends h := h.handle hb hends
  clock _ h := ⟨h.state, h.anchor, h.sent⟩

theorem follows_of_touch (hb : r.handlers = .standard) (hs : r.state = .idle)
    (ha : s.action = .down) (hk : s.kind = .twoFinger) :
    (r.handle s).next.Follows s.position [] [] ∧ (r.handle s).sent = [] := by
  obtain ⟨hdoes, hanchor⟩ := Turn.route_of_touch (t := r.turn) hs ha hk
  rw [handle_of_standard hb]
  have hstate : (r.turn.route .standard s).2.state = .twoFingerTapPending :=
    congrArg Stance.state hdoes.stance
  exact ⟨⟨State.isOfTwo_iff.2 (.inl hstate), hanchor, rfl⟩, hdoes.sent⟩

theorem handle_of_release (hb : r.handlers = .standard) (hs : r.state.IsOfTwo)
    (ha : s.action = .up) :
    (r.handle s).next.state = .idle ∧ scrolled (r.handle s).sent = [] := by
  rw [handle_of_standard hb]
  exact Turn.route_of_release (t := r.turn) hs ha

end

section

variable {r : Recognizer Queue} {c : TimedCall} {s : Sample}

/-- Before the sample of a call, its callbacks scroll nothing. -/
theorem scrolled_of_sample (hc : s ∈ c.sample?) :
    scrolled (r.performTimed c).sent = scrolled ((r.facing c).handle s).sent := by
  rw [(r.performTimed_of_sample hc).2, scrolled_append, scrolled_of_twos (r.twos_lapse c),
    List.nil_append]

theorem follows_performTimed (hb : r.handlers = .standard) (hs : r.state = .idle)
    (hc : s ∈ c.sample?) (ha : s.action = .down) (hk : s.kind = .twoFinger) :
    (r.performTimed c).next.Follows s.position [] [] ∧ scrolled (r.performTimed c).sent = [] := by
  have hfacing : (r.facing c).state = .idle := by
    rw [state_facing_of_not_drag (hs.trans_ne nofun), hs]
  obtain ⟨hbegun, hsent⟩ := follows_of_touch ((r.handlers_facing c).trans hb) hfacing ha hk
  rw [scrolled_of_sample hc, (r.performTimed_of_sample hc).1, hsent]
  exact ⟨hbegun, rfl⟩

theorem performTimed_of_release (hb : r.handlers = .standard) (hs : (r.facing c).state.IsOfTwo)
    (hc : s ∈ c.sample?) (ha : s.action = .up) :
    (r.performTimed c).next.state = .idle ∧ scrolled (r.performTimed c).sent = [] := by
  rw [scrolled_of_sample hc, (r.performTimed_of_sample hc).1]
  exact handle_of_release ((r.handlers_facing c).trans hb) hs ha

end

/-- **A scroll follows the fingers movement by movement.** Let a recognizer with the standard
handlers be at rest, and let two fingers come down and be lifted again. In between come any samples
that do not end the contact, and any callbacks, over whatever scheduler. Then there is one scroll for
each movement, and they are computed from the positions alone: each from the way between the position
before, which at first is where the fingers came down, and the position moved to, scaled by 0.6. If
the way is strictly longer sideways, the scroll goes sideways and has no other part, otherwise it
goes up and down, also where the two cannot be compared. When the fingers are lifted recognition is
at rest. Over a queue the same holds of calls that come with times, with the callbacks that are due
delivered before each sample. -/
theorem scroll_follows_movements :
    (∀ {σ : Type} [Scheduler σ] (r : Recognizer σ) (down lift : Sample) (between : List Call),
      r.handlers = .standard → r.state = .idle → .reset ∉ between →
      IsContact .twoFinger (fun s => ¬s.EndsContact) down (Call.samples between) lift →
        let calls := .handle down :: (between ++ [.handle lift])
        let ps := movements (Call.samples between)
        (scrolled (sentIn perform r calls)).length = ps.length ∧
          scrolled (sentIn perform r calls) = travels down.position ps ∧
          (after perform r calls).state = .idle) ∧
    ∀ (r : Recognizer Queue) (touch release : TimedCall) (down lift : Sample)
      (between : List TimedCall), r.handlers = .standard → r.state = .idle →
      down ∈ touch.sample? → lift ∈ release.sample? → .plain .reset ∉ between →
      IsContact .twoFinger (fun s => ¬s.EndsContact) down (TimedCall.samples between) lift →
        let calls := touch :: (between ++ [release])
        let ps := movements (TimedCall.samples between)
        (scrolled (sentIn performTimed r calls)).length = ps.length ∧
          scrolled (sentIn performTimed r calls) = travels down.position ps ∧
          (after performTimed r calls).state = .idle := by
  refine ⟨?_, ?_⟩
  · intro σ _ r down lift between hb hs hreset hcontact calls ps
    obtain ⟨hbegun, htouch⟩ := follows_of_touch hb hs hcontact.comesDown hcontact.isOfKind
    have hb' : (r.handle down).next.handlers = .standard := hb
    have hfollows := (carried_follows down.position).run hb' hreset hcontact.allowed hbegun
    let during := after perform (r.handle down).next between
    have hlifted : during.handlers = .standard := (handlers_after _ between).trans hb'
    obtain ⟨hidle, hrelease⟩ := handle_of_release hlifted hfollows.state hcontact.goesUp
    have hsent : scrolled (sentIn perform r calls) = travels down.position ps := by
      rw [sentIn_cons, sentIn_append, sentIn_singleton]
      show scrolled ((r.handle down).sent ++
        (sentIn perform (r.handle down).next between ++ (during.handle lift).sent)) = _
      rw [htouch, List.nil_append, scrolled_append, hfollows.sent, hrelease, List.append_nil]
    refine ⟨by rw [hsent, length_travels], hsent, ?_⟩
    rw [after_cons, after_append]
    exact hidle
  · intro r touch release down lift between hb hs hdown hlift hreset hcontact calls ps
    obtain ⟨hbegun, htouch⟩ :=
      follows_performTimed hb hs hdown hcontact.comesDown hcontact.isOfKind
    have hb' : (r.performTimed touch).next.handlers = .standard :=
      (r.handlers_performTimed touch).trans hb
    have hcarried := carried_follows (σ := Queue) down.position
    have hfollows := hcarried.runTimed hb' hreset hcontact.allowed hbegun
    let during := after performTimed (r.performTimed touch).next between
    have hduring : during.handlers = .standard := (handlers_afterTimed _ between).trans hb'
    obtain ⟨hidle, hrelease⟩ := performTimed_of_release (c := release) hduring
      (hcarried.facing _ release hfollows).state hlift hcontact.goesUp
    have hsent : scrolled (sentIn performTimed r calls) = travels down.position ps := by
      rw [sentIn_cons, sentIn_append, sentIn_singleton, scrolled_append, scrolled_append, htouch,
        hfollows.sent, hrelease, List.nil_append, List.append_nil]
    refine ⟨by rw [hsent, length_travels], hsent, ?_⟩
    rw [after_cons, after_append]
    exact hidle

/-- Two fingers come down while an earlier tap waits, hover in between, outlast both their own time
and the tap, and move the same way to both sides at last. -/
theorem scroll_follows_movements_across_expiry :
    let r := after performTimed (new {} (Queue.startingAt 0)) (TimedCall.tapping ⟨10, 10⟩ 0 20)
    let touch := (Sample.single .down ⟨10, 10⟩ 60).withFlags .twoFinger
    let between := [TimedCall.handleAt (.single .move ⟨20, 10⟩ 70),
      .handleAt (.single .hoverMove ⟨90, 90⟩ 80), .advanceTo 300,
      .handleAt (.single .move ⟨20, 30⟩ 310), .plain (.onTimer .delayedClick ⟨0⟩),
      .handleAt (.single .move ⟨30, 40⟩ 320)]
    scrolled (sentIn performTimed r
        (.handleAt touch :: (between ++ [.handleAt (.single .up ⟨30, 40⟩ 330)]))) =
      [.scrollWithShift (-6) 0, .scroll 0 (-12), .scroll 0 (-6)] := by
  intro r touch between
  have hcontact : IsContact .twoFinger (fun s => ¬s.EndsContact) touch (TimedCall.samples between)
      (.single .up ⟨30, 40⟩ 330) := ⟨rfl, by decide, by decide, rfl⟩
  have hfollows := scroll_follows_movements.2 r (.handleAt touch)
    (.handleAt (.single .up ⟨30, 40⟩ 330)) touch (.single .up ⟨30, 40⟩ 330) between rfl
    (by decide +kernel) rfl rfl (by decide) hcontact
  exact hfollows.2.1.trans (by decide +kernel)

end Recognizer

end Trackpad
