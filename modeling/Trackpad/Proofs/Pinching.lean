import Trackpad.Proofs.Host

/-!
# Pinching — what a request does to a pinch

How far a pinch has come is in no stance, so the table of `Trackpad.Proofs.Stance` does not speak of
it. `PinchStep` is the table for it: whichever request is granted in whichever state, the pinch is
left alone, broken off, begun, measured anew, ended or dropped, and only a new measurement zooms. A
press of the pad breaks it off: it leaves the state of a pinch, as the end does, but the pinch is
not forgotten.

The standard handlers follow the table (`Turn.pinches_route`), and so does every call of every host
(`Host.pinchStep`), since nothing happens to a pinch while the recognizer idles.
-/

namespace Trackpad

/-! ## Commands -/

/-- The commands that zoom. -/
def Command.isZoom : Command → Bool
  | scrollWithCtrl .. => true
  | _ => false

/-- What is zoomed, among some commands. -/
def zoomed (cs : List Command) : List Command := cs.filter Command.isZoom

@[simp] theorem zoomed_append (cs ds : List Command) : zoomed (cs ++ ds) = zoomed cs ++ zoomed ds :=
  List.filter_append ..

theorem zoomed_of_not_isWheel {cs : List Command} (h : ∀ c ∈ cs, ¬c.IsWheel) : zoomed cs = [] := by
  refine List.filter_eq_nil_iff.2 fun c hc hzoom => h c hc ?_
  cases c with
  | scrollWithCtrl _ _ => trivial
  | _ => cases hzoom

/-- A movement that scrolls does not zoom. -/
theorem zoomed_travel (p q : Point) : zoomed [.travel p q] = [] := by
  simp only [Command.travel]
  split <;> rfl

/-- One step of the zoom: in if the contacts are further apart than the baseline, and else out. -/
def Command.zoomStep (baseline distance : Float) : Command :=
  scrollWithCtrl 0 (if 0 < distance - baseline then -1 else 1)

/-! ## Samples -/

namespace Sample

/-- The second contact of a pinch comes down. -/
def BeginsPinch (s : Sample) : Prop := s.action = .pointerDown ∧ s.pointerCount = 2

/-- Two contacts move, or more. -/
def MovesTwo (s : Sample) : Prop := s.action = .move ∧ ¬s.pointerCount < 2

/-- A pinch ends: at most one contact is left. -/
def EndsPinch (s : Sample) : Prop := s.action = .up ∨ (s.action = .pointerUp ∧ s.pointerCount ≤ 1)

/-- The sample means nothing to a pinch. -/
def SparesPinch (s : Sample) : Prop :=
  ¬s.BeginsPinch ∧ ¬s.MovesTwo ∧ ¬s.EndsPinch ∧ s.action ≠ .buttonPress ∧ s.action ≠ .cancel

instance : DecidablePred BeginsPinch := fun s =>
  inferInstanceAs (Decidable (s.action = .pointerDown ∧ s.pointerCount = 2))

instance : DecidablePred MovesTwo := fun s =>
  inferInstanceAs (Decidable (s.action = .move ∧ ¬s.pointerCount < 2))

instance : DecidablePred EndsPinch := fun s =>
  inferInstanceAs (Decidable (s.action = .up ∨ (s.action = .pointerUp ∧ s.pointerCount ≤ 1)))

instance : DecidablePred SparesPinch := fun s =>
  inferInstanceAs (Decidable (¬s.BeginsPinch ∧ ¬s.MovesTwo ∧ ¬s.EndsPinch ∧ _ ∧ _))

/-- What means nothing to a pinch: a count of contacts that is not for it, the button going up, and
a single contact that comes down or hovers. -/
theorem sparesPinch_iff {s : Sample} :
    s.SparesPinch ↔
      match s.action with
      | .pointerDown => s.pointerCount ≠ 2
      | .pointerUp => ¬s.pointerCount ≤ 1
      | .move => s.pointerCount < 2
      | .down | .buttonRelease | .hoverEnter | .hoverMove | .hoverExit => True
      | .up | .buttonPress | .cancel => False := by
  cases ha : s.action <;> simp [SparesPinch, BeginsPinch, MovesTwo, EndsPinch, ha]

/-- A pinch goes on after a sample that means nothing to it, and after a movement. -/
theorem lasting_of {s : Sample} (h : s.SparesPinch ∨ s.MovesTwo) :
    ¬s.BeginsPinch ∧ ¬s.EndsPinch ∧ s.action ≠ .buttonPress ∧ s.action ≠ .cancel := by
  rcases h with ⟨hbegins, -, hends, hpress, hcancel⟩ | ⟨ha, -⟩
  · exact ⟨hbegins, hends, hpress, hcancel⟩
  · simp [BeginsPinch, EndsPinch, ha]

end Sample

/-! ## The table -/

namespace PinchProgress

/-- There is a baseline, and the distance differs from it by more than the slop. -/
def Exceeds (p : PinchProgress) (slop distance : Float) : Prop :=
  ¬(p.baseline == 0) = true ∧ slop < (distance - p.baseline).abs

instance (p : PinchProgress) (slop distance : Float) : Decidable (p.Exceeds slop distance) :=
  inferInstanceAs (Decidable (_ ∧ _))

/-- The pinch after a distance was measured. -/
def measure (p : PinchProgress) (slop distance : Float) : PinchProgress :=
  if p.baseline == 0 then ⟨distance, distance, true⟩
  else if p.Exceeds slop distance then { p with baseline := distance, last := distance }
  else { p with last := distance }

/-- What is zoomed when a distance is measured. -/
def zooms (p : PinchProgress) (slop distance : Float) : List Command :=
  if p.Exceeds slop distance then [.zoomStep p.baseline distance] else []

theorem zoomed_zooms (p : PinchProgress) (slop distance : Float) :
    zoomed (p.zooms slop distance) = p.zooms slop distance := by
  unfold zooms
  split <;> rfl

/-- The first distance becomes the baseline and does not zoom. -/
theorem measure_of_none {p : PinchProgress} (h : (p.baseline == 0) = true) (slop distance : Float) :
    p.measure slop distance = ⟨distance, distance, true⟩ :=
  if_pos h

theorem zooms_of_none {p : PinchProgress} (h : (p.baseline == 0) = true) (slop distance : Float) :
    p.zooms slop distance = [] :=
  if_neg fun hbeyond => hbeyond.1 h

end PinchProgress

/-- What a request can do to a pinch: the state and the pinch before it, what is zoomed, and the
state and the pinch after it. -/
inductive PinchStep (slop : Float) (req : Request) (source : State) (p : PinchProgress) :
    List Command → State → PinchProgress → Prop where
  /-- Without a pinch there is nothing to do to one, whichever state comes next. -/
  | elsewhere {target : State} (hsource : source ≠ .pinchZoom)
      (hbegins : ¬req.Asks Sample.BeginsPinch) (hdrops : ¬req.Drops) :
      PinchStep slop req source p [] target p
  | spares (hsource : source = .pinchZoom) (hreq : req.Allows Sample.SparesPinch) :
      PinchStep slop req source p [] .pinchZoom p
  /-- The state is left, but the pinch is not forgotten. -/
  | breaksOff (hsource : source = .pinchZoom) (hreq : req.Asks (·.action = .buttonPress)) :
      PinchStep slop req source p [] .physicalClick p
  /-- In every state, also during another pinch. -/
  | begins {s : Sample} (hreq : req = .sample s) (hs : s.BeginsPinch) :
      PinchStep slop req source p [] .pinchZoom { p with baseline := s.contactDistance }
  | measures {s : Sample} (hsource : source = .pinchZoom) (hreq : req = .sample s)
      (hs : s.MovesTwo) :
      PinchStep slop req source p (p.zooms slop s.contactDistance) .pinchZoom
        (p.measure slop s.contactDistance)
  | ends (hsource : source = .pinchZoom) (hreq : req.Asks Sample.EndsPinch) :
      PinchStep slop req source p [] .idle {}
  | drops (hreq : req.Drops) : PinchStep slop req source p [] .idle {}

/-- Of the state before, all that matters is whether it is that of a pinch. -/
theorem PinchStep.of_source {slop : Float} {req : Request} {source other target : State}
    {p p' : PinchProgress} {now : List Command} (h : PinchStep slop req source p now target p')
    (hother : source = .pinchZoom ↔ other = .pinchZoom) :
    PinchStep slop req other p now target p' := by
  cases h with
  | elsewhere hsource hbegins hdrops =>
    exact .elsewhere (fun heq => hsource (hother.2 heq)) hbegins hdrops
  | spares hsource hreq => exact .spares (hother.1 hsource) hreq
  | breaksOff hsource hreq => exact .breaksOff (hother.1 hsource) hreq
  | begins hreq hs => exact .begins hreq hs
  | measures hsource hreq hs => exact .measures (hother.1 hsource) hreq hs
  | ends hsource hreq => exact .ends (hother.1 hsource) hreq
  | drops hreq => exact .drops hreq

/-- A movement of two contacts measures anew, and another sample that means nothing to the pinch
does nothing. Either way the pinch goes on. -/
theorem PinchStep.of_lasting {slop : Float} {req : Request} {source target : State}
    {p p' : PinchProgress} {now : List Command} (h : PinchStep slop req source p now target p')
    (hsource : source = .pinchZoom) (hreq : req.Allows fun s => s.SparesPinch ∨ s.MovesTwo) :
    target = .pinchZoom ∧
      ((∃ s, req = .sample s ∧ s.MovesTwo ∧ now = p.zooms slop s.contactDistance ∧
          p' = p.measure slop s.contactDistance) ∨
        (req.Allows Sample.SparesPinch ∧ now = [] ∧ p' = p)) := by
  have hasks {P : Sample → Prop} (hP : req.Asks P) : ∃ s, P s ∧ (s.SparesPinch ∨ s.MovesTwo) := by
    obtain ⟨s, rfl, hs⟩ := Request.asks_iff.1 hP
    exact ⟨s, hs, hreq⟩
  cases h with
  | elsewhere hother _ _ => exact absurd hsource hother
  | spares _ hspares => exact ⟨rfl, .inr ⟨hspares, rfl, rfl⟩⟩
  | measures _ heq hs => exact ⟨rfl, .inl ⟨_, heq, hs, rfl, rfl⟩⟩
  -- All else takes a sample after which the pinch does not go on as it was.
  | breaksOff _ hpress =>
    obtain ⟨s, ha, hlasts⟩ := hasks hpress
    exact absurd ha (Sample.lasting_of hlasts).2.2.1
  | begins heq hs =>
    exact absurd hs (Sample.lasting_of (hreq.of_sample heq)).1
  | ends _ hends =>
    obtain ⟨s, hs, hlasts⟩ := hasks hends
    exact absurd hs (Sample.lasting_of hlasts).2.1
  | drops hdrops =>
    rcases hdrops with rfl | hcancel
    · exact hreq.elim
    · obtain ⟨s, ha, hlasts⟩ := hasks hcancel
      exact absurd ha (Sample.lasting_of hlasts).2.2.2

/-! ## The handlers -/

/-- From the turn `t` to the turn `u` the sample does to the pinch what the table says. -/
def Turn.Pinches {σ : Type} (t : Turn σ) (s : Sample) (u : Turn σ) : Prop :=
  ∃ now, zoomed u.sent = zoomed t.sent ++ now ∧
    PinchStep t.slop (.sample s) t.state t.context.pinch now u.state u.context.pinch

section

variable {σ : Type} {s : Sample}

theorem Turn.Pinches.of_classify {t u : Turn σ} (h : (t.classify s).Pinches s u) :
    t.Pinches s u := by
  obtain ⟨now, hnow, hstep⟩ := h
  rw [Turn.sent_classify] at hnow
  exact ⟨now, hnow, hstep⟩

/-- A sample that means nothing to a pinch, in it or elsewhere, and does nothing. -/
theorem Turn.pinches_of_spares (t : Turn σ) (h : s.SparesPinch) : t.Pinches s t := by
  refine ⟨[], (List.append_nil _).symm, ?_⟩
  by_cases hs : t.state = .pinchZoom
  · have hspares : PinchStep t.slop (.sample s) .pinchZoom t.context.pinch [] .pinchZoom
        t.context.pinch := .spares rfl h
    rwa [← hs] at hspares
  · exact .elsewhere hs h.1 (mt Request.drops_sample.1 h.2.2.2.2)

theorem Turn.pinchTo_measures (t : Turn σ) (s : Sample) :
    (t.pinchTo s).state = t.state ∧
      (t.pinchTo s).context.pinch = t.context.pinch.measure t.slop s.contactDistance ∧
      (t.pinchTo s).sent = t.sent ++ t.context.pinch.zooms t.slop s.contactDistance := by
  by_cases hnone : (t.context.pinch.baseline == 0) = true
  · simp only [Turn.pinchTo, PinchProgress.measure, PinchProgress.zooms, PinchProgress.Exceeds,
      hnone]
    exact ⟨rfl, rfl, by simp⟩
  · by_cases hbeyond : t.slop < (s.contactDistance - t.context.pinch.baseline).abs
    · simp only [Turn.pinchTo, PinchProgress.measure, PinchProgress.zooms, PinchProgress.Exceeds,
        hnone, hbeyond]
      exact ⟨rfl, rfl, by simp [Command.zoomStep]⟩
    · simp only [Turn.pinchTo, PinchProgress.measure, PinchProgress.zooms, PinchProgress.Exceeds,
        hnone, hbeyond]
      exact ⟨rfl, rfl, by simp⟩

variable [Scheduler σ]

/-- Whatever a handler makes of a sample follows the table, with all samples that reach one. -/
theorem Turn.Reacts.pinches {t : Turn σ} {state : State} {outcome : Bool × Turn σ}
    (h : t.Reacts s state outcome) (hs : t.state = state) (hdown : s.action ≠ .pointerDown)
    (hpress : s.action ≠ .buttonPress) (hcancel : s.action ≠ .cancel) :
    t.Pinches s outcome.2 := by
  have hbegins : ¬s.BeginsPinch := fun hbegins => hdown hbegins.1
  -- Outside a pinch, a reaction that does not zoom leaves the pinch alone.
  have helsewhere {u : Turn σ} (hne : state ≠ .pinchZoom)
      (hsent : zoomed u.sent = zoomed t.sent) (hpinch : u.context.pinch = t.context.pinch) :
      t.Pinches s u := by
    refine ⟨[], hsent.trans (List.append_nil _).symm, ?_⟩
    rw [hpinch]
    exact .elsewhere (hs ▸ hne) hbegins (mt Request.drops_sample.1 hcancel)
  cases h with
  | ignored hignores =>
    by_cases hpinch : state = .pinchZoom
    · subst hpinch
      obtain ⟨hmove, hpart, hup, -⟩ := hignores
      exact t.pinches_of_spares ⟨hbegins, fun hmoves => hmoves.2 (hmove hmoves.1),
        by simp [Sample.EndsPinch, hup, hpart], hpress, hcancel⟩
    · exact helsewhere hpinch rfl rfl
  | touched _ hcontact =>
    cases hcontact with
    | tap _ | two _ | pinch _ | nothing _ => exact helsewhere (by decide) (by simp) rfl
    | press _ => exact helsewhere (by decide) (by simp [zoomed, Command.isZoom]) rfl
  | jittered _ _ | kept _ => exact helsewhere (by decide) rfl rfl
  | approached _ | departed _ | tapped _ _ | slid _ _ | strayed _ _ | withdrawn _ | lifted _ _
  | taken _ | finished _ => exact helsewhere (by decide) (by simp) rfl
  | pressed _ | grabbed _ _ | pointed _ _ | dragged _ | dropped _ | clicked _ _ | released _
  | held _ => exact helsewhere (by decide) (by simp [zoomed, Command.isZoom]) rfl
  | moved _ =>
    exact helsewhere (by decide) (by simp [zoomed_travel]) (by rw [Turn.context_scrollTo]; rfl)
  | wheeled _ =>
    exact helsewhere (by decide) (by simp [zoomed_travel]) (by rw [Turn.context_scrollTo])
  | pinched ha hcount =>
    obtain ⟨hstate, hpinch, hsent⟩ := t.pinchTo_measures s
    refine ⟨t.context.pinch.zooms t.slop s.contactDistance, ?_, ?_⟩
    · rw [hsent, zoomed_append, PinchProgress.zoomed_zooms]
    · rw [hstate, hpinch, hs]
      exact .measures rfl rfl ⟨ha, hcount⟩
  | thinned ha hcount => exact t.pinches_of_spares (Sample.sparesPinch_iff.2 (by rwa [ha]))
  | parted ha hcount => exact ⟨[], by simp, .ends hs (.inr ⟨ha, hcount⟩)⟩
  | ended ha =>
    exact ⟨[], by simp, .ends hs (.inl (ha.resolve_right hcancel))⟩

theorem Turn.pinches_dispatch (t : Turn σ) (hdown : s.action ≠ .pointerDown)
    (hpress : s.action ≠ .buttonPress) (hcancel : s.action ≠ .cancel) :
    t.Pinches s (Registry.standard.dispatch s t).2 := by
  obtain ⟨label, hreacts⟩ := t.reacts_dispatch s
  exact hreacts.pinches rfl hdown hpress hcancel

/-- Whatever a sample leads to follows the table. -/
theorem Turn.pinches_route (t : Turn σ) (s : Sample) :
    t.Pinches s (t.route .standard s).2 := by
  cases ha : s.action with
  | pointerDown =>
    by_cases htwo : s.pointerCount = 2
    · simp only [Turn.route, ha, if_pos htwo]
      exact ⟨[], by simp, .begins rfl ⟨ha, htwo⟩⟩
    · simp only [Turn.route, ha, if_neg htwo]
      exact t.pinches_of_spares (Sample.sparesPinch_iff.2 (by rwa [ha]))
  | pointerUp =>
    by_cases hs : t.state = .pinchZoom
    · simp only [Turn.route, ha, if_pos hs]
      exact t.pinches_dispatch (by simp [ha]) (by simp [ha]) (by simp [ha])
    · simp only [Turn.route, ha, if_neg hs]
      exact ⟨[], (List.append_nil _).symm, .elsewhere hs
        (by simp [Request.Asks, Sample.BeginsPinch, ha]) (by simp [Request.drops_sample, ha])⟩
  | buttonPress =>
    simp only [Turn.route, ha]
    refine ⟨[], by simp [zoomed, Command.isZoom], ?_⟩
    by_cases hs : t.state = .pinchZoom
    · exact .breaksOff hs ha
    · exact .elsewhere hs (by simp [Request.Asks, Sample.BeginsPinch, ha])
        (by simp [Request.drops_sample, ha])
  | buttonRelease =>
    by_cases hs : t.state = .physicalClick
    · simp only [Turn.route, ha, if_pos hs]
      exact t.pinches_dispatch (by simp [ha]) (by simp [ha]) (by simp [ha])
    · simp only [Turn.route, ha, if_neg hs]
      exact t.pinches_of_spares (Sample.sparesPinch_iff.2 (by rw [ha]; trivial))
  | cancel =>
    have hstate : t.reset.state = .idle := congrArg Stance.state t.stance_reset
    simp only [Turn.route, ha]
    refine ⟨[], by simp, ?_⟩
    rw [hstate]
    exact .drops (Request.drops_sample.2 ha)
  | _ =>
    simp only [Turn.route, ha]
    exact ((t.classify s).pinches_dispatch (by simp [ha]) (by simp [ha]) (by simp [ha])).of_classify

/-- What is asked for is granted as the table says. -/
theorem Recognizer.pinchStep_grant {r : Recognizer σ} (hb : r.handlers = .standard) (q : Request) :
    PinchStep r.config.touchSlop q r.state r.context.pinch (zoomed (r.grant q).sent)
      (r.grant q).next.state (r.grant q).next.context.pinch := by
  cases q with
  | nothing =>
    show PinchStep _ _ r.state r.context.pinch [] r.state r.context.pinch
    by_cases hs : r.state = .pinchZoom
    · rw [hs]
      exact .spares rfl trivial
    · exact .elsewhere hs id (by simp [Request.Drops, Request.Asks])
  | sample s =>
    obtain ⟨now, hnow, hstep⟩ := r.turn.pinches_route s
    have hsent : zoomed (r.turn.route .standard s).2.sent = now := hnow
    rw [grant_sample hb]
    show PinchStep _ _ _ _ (zoomed (r.turn.route .standard s).2.sent) _ _
    rw [hsent]
    exact hstep
  | reset =>
    have hstate : r.turn.reset.state = .idle := congrArg Stance.state r.turn.stance_reset
    have hsent : r.turn.reset.sent = [] := r.turn.sent_reset
    show PinchStep _ _ _ _ (zoomed r.turn.reset.sent) r.turn.reset.state {}
    rw [hstate, hsent]
    exact .drops (.inl rfl)

end

/-! ## Hosts -/

/-- Every call does to the pinch what the table says of its request: nothing happens to the pinch
while the recognizer idles. -/
theorem Host.pinchStep {σ γ : Type} [Scheduler σ] (h : Host σ γ) {r : Recognizer σ}
    (hb : r.handlers = .standard) (c : γ) :
    PinchStep r.config.touchSlop (h.request c) r.state r.context.pinch
      (zoomed (h.step r c).sent) (h.step r c).next.state (h.step r c).next.context.pinch := by
  have hidles := h.idles r c
  have hsource : (h.facing r c).state = .pinchZoom ↔ r.state = .pinchZoom :=
    hidles.state_iff (by decide) (by decide)
  rw [h.sent_step, h.next_step, zoomed_append, zoomed_of_not_isWheel hidles.not_isWheel,
    List.nil_append, ← hidles.config, ← hidles.pinch]
  exact (Recognizer.pinchStep_grant (hidles.handlers.trans hb) (h.request c)).of_source hsource

end Trackpad
