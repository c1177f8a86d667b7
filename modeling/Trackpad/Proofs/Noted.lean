import Trackpad.Proofs.Baseline
import Trackpad.Proofs.Zoom

/-!
# Noted — what a pinch has noted of its distances

Next to its baseline a pinch notes the distance that was measured last, and whether a movement set
the baseline. Both are left to movements. A second contact that comes down sets the baseline and
notes neither, so the notes may lag behind the baseline.

How far they lag can be told for every run. A pinch lasts since the call that entered it
(`inPinch_iff`), which found the notes as the last pinch left them, and since then they have followed
the movements, one by one (`notes_along`). They keep up with the baseline as long as no second
contact comes down, unless the last pinch was broken off by a press (`keepsUp_along`).
-/

namespace Trackpad

/-! ## Steps -/

namespace PinchProgress

theorem started_measure {p : PinchProgress} {slop distance : Float} :
    (p.measure slop distance).started = true ↔
      p.started = true ∨ (p.baseline == 0) = true := by
  by_cases hnone : (p.baseline == 0) = true
  · rw [measure_of_none hnone]
    exact ⟨fun _ => .inr hnone, fun _ => rfl⟩
  · have hkept : (p.measure slop distance).started = p.started := by
      simp only [measure, if_neg hnone]
      split <;> rfl
    rw [hkept, or_iff_left hnone]

/-- There is no baseline and nothing is noted, or it is noted that a baseline was found, and which
distance was measured last. -/
def KeepsUp (p : PinchProgress) (measured : List Float) : Prop :=
  p = {} ∨ (p.started = true ∧ measured.getLast? = some p.last)

/-- The first distance finds no baseline, and any other finds that there is one. -/
theorem KeepsUp.measure {p : PinchProgress} {measured : List Float} (h : p.KeepsUp measured)
    (slop distance : Float) : (p.measure slop distance).KeepsUp (measured ++ [distance]) := by
  refine .inr ⟨started_measure.2 ?_, ?_⟩
  · rcases h with rfl | ⟨hstarted, -⟩
    · exact .inr Sample.zero_beq
    · exact .inl hstarted
  · rw [List.getLast?_concat, last_measure]

end PinchProgress

/-- Where a pinch is entered or goes on, a movement measures, a second contact sets the baseline, or
nothing happens to it. -/
theorem PinchStep.of_target {slop : Float} {req : Request} {source : State} {p p' : PinchProgress}
    {now : List Command} (h : PinchStep slop req source p now .pinchZoom p') :
    (source = .pinchZoom ∧
        ∃ s, req = .sample s ∧ s.MovesTwo ∧ p' = p.measure slop s.contactDistance) ∨
      (∃ s, req = .sample s ∧ s.BeginsPinch ∧ p' = { p with baseline := s.contactDistance }) ∨
      ((source = .pinchZoom → ¬req.Asks Sample.MovesTwo) ∧ p' = p) := by
  cases h with
  | elsewhere hsource _ _ => exact .inr (.inr ⟨fun hpinch => absurd hpinch hsource, rfl⟩)
  | spares _ hspares =>
    refine .inr (.inr ⟨fun _ hmoves => ?_, rfl⟩)
    obtain ⟨s, hreq, hs⟩ := Request.asks_iff.1 hmoves
    exact (hspares.of_sample hreq).2.1 hs
  | begins hreq hs => exact .inr (.inl ⟨_, hreq, hs, rfl⟩)
  | measures hsource hreq hs => exact .inl ⟨hsource, _, hreq, hs, rfl⟩

theorem Sample.BeginsPinch.not_movesTwo {s : Sample} (h : s.BeginsPinch) : ¬s.MovesTwo :=
  fun hmoves => nomatch h.1.symm.trans hmoves.1

/-! ## Runs -/

namespace Host

open Recognizer

variable {σ γ : Type} [Scheduler σ] {h : Host σ γ} {r : Recognizer σ} {c : γ} {calls : List γ}

/-- The call leads to the state of a pinch. -/
def LeadsToPinch (h : Host σ γ) (r : Recognizer σ) (c : γ) : Prop :=
  (h.step r c).next.state = .pinchZoom

instance (h : Host σ γ) (r : Recognizer σ) (c : γ) : Decidable (h.LeadsToPinch r c) :=
  inferInstanceAs (Decidable (_ = _))

/-- The call leads to the state of a pinch from another. -/
def EntersPinch (h : Host σ γ) (r : Recognizer σ) (c : γ) : Prop :=
  r.state ≠ .pinchZoom ∧ h.LeadsToPinch r c

/-- A movement of two contacts finds no baseline, and so takes its distance for one. -/
def FindsNoBaseline (h : Host σ γ) (r : Recognizer σ) (c : γ) : Prop :=
  (r.context.pinch.baseline == 0) = true ∧ (h.request c).Asks Sample.MovesTwo

/-- The state is that of a pinch if one was entered and has gone on since. -/
theorem inPinch_iff (hr : r.state ≠ .pinchZoom) :
    (after h.step r calls).state = .pinchZoom ↔ h.Since h.LeadsToPinch h.EntersPinch r calls := by
  induction calls using List.reverseRecOn with
  | nil => exact ⟨fun hs => absurd hs hr, fun hsince => absurd hsince not_since_nil⟩
  | append_singleton calls c ih =>
    rw [after_append, since_concat, ← ih]
    by_cases hs : (after h.step r calls).state = .pinchZoom
    · exact ⟨fun hleads => .inr ⟨hleads, hs⟩, fun hin => hin.elim And.right And.left⟩
    · exact ⟨fun hleads => .inl ⟨hs, hleads⟩, fun hin => hin.elim And.right And.left⟩

theorem state_of_leads (hs : r.state = .pinchZoom) (hleads : h.Along h.LeadsToPinch r calls) :
    (after h.step r calls).state = .pinchZoom := by
  induction calls generalizing r with
  | nil => exact hs
  | cons c rest ih => exact ih hleads.1 hleads.2

theorem pinchStep_of_leads (hb : r.handlers = .standard) (hleads : h.LeadsToPinch r c) :
    PinchStep r.config.touchSlop (h.request c) r.state r.context.pinch (zoomed (h.step r c).sent)
      .pinchZoom (h.step r c).next.context.pinch := by
  have hstep := h.pinchStep hb c
  rwa [hleads] at hstep

/-- A pinch begins as it is found, but for the baseline that a second contact sets. -/
theorem pinch_of_enters (hb : r.handlers = .standard) (henters : h.EntersPinch r c) :
    (∃ s, h.request c = .sample s ∧ s.BeginsPinch ∧
        (h.step r c).next.context.pinch =
          { r.context.pinch with baseline := s.contactDistance }) ∨
      (h.step r c).next.context.pinch = r.context.pinch := by
  rcases (pinchStep_of_leads hb henters.2).of_target with ⟨hs, -⟩ | hbegins | ⟨-, hpinch⟩
  · exact absurd hs henters.1
  · exact .inl hbegins
  · exact .inr hpinch

/-- One call of a pinch that goes on. -/
theorem notes_of_leads (hb : r.handlers = .standard) (hs : r.state = .pinchZoom)
    (hleads : h.LeadsToPinch r c) {past : List Sample} {first : Float}
    (hlast : r.context.pinch.last = (distances past).getLastD first) :
    (h.step r c).next.context.pinch.last =
        (distances (past ++ (h.request c).sample?.toList)).getLastD first ∧
      ((h.step r c).next.context.pinch.started = true ↔
        h.FindsNoBaseline r c ∨ r.context.pinch.started = true) := by
  rcases (pinchStep_of_leads hb hleads).of_target with
    ⟨-, s, hreq, hmoves, hpinch⟩ | ⟨s, hreq, hbegins, hpinch⟩ | ⟨hspares, hpinch⟩
  · have hfinds : h.FindsNoBaseline r c ↔ (r.context.pinch.baseline == 0) = true := by
      rw [FindsNoBaseline, hreq]
      exact and_iff_left hmoves
    rw [hpinch, hfinds, PinchProgress.last_measure, PinchProgress.started_measure, hreq,
      Request.sample?, Option.toList_some, distances_concat_of_movesTwo hmoves,
      List.getLastD_concat]
    exact ⟨rfl, or_comm⟩
  · have hstill : ¬(h.request c).Asks Sample.MovesTwo := by
      rw [hreq]
      exact hbegins.not_movesTwo
    rw [hpinch, distances_append_of_not_asks hstill]
    exact ⟨hlast, (or_iff_right fun hfinds => hstill hfinds.2).symm⟩
  · have hstill := hspares hs
    rw [hpinch, distances_append_of_not_asks hstill]
    exact ⟨hlast, (or_iff_right fun hfinds => hstill hfinds.2).symm⟩

/-- As long as a pinch goes on, the distance noted is that of the last movement, and a baseline is
noted if a movement found none. -/
theorem notes_along (hb : r.handlers = .standard) (hs : r.state = .pinchZoom)
    (hleads : h.Along h.LeadsToPinch r calls) :
    (after h.step r calls).context.pinch.last =
        (distances (h.samples calls)).getLastD r.context.pinch.last ∧
      ((after h.step r calls).context.pinch.started = true ↔
        r.context.pinch.started = true ∨ h.Once h.FindsNoBaseline r calls) := by
  induction calls using List.reverseRecOn with
  | nil => exact ⟨rfl, (or_iff_left not_since_nil).symm⟩
  | append_singleton calls c ih =>
    obtain ⟨hbefore, hnow⟩ := along_concat.1 hleads
    obtain ⟨hlast, hstarted⟩ := ih hbefore
    rw [after_append, samples_concat, once_concat, or_left_comm, ← hstarted]
    exact notes_of_leads ((h.handlers_after r calls).trans hb) (state_of_leads hs hbefore) hnow
      hlast

/-- As long as a pinch goes on without a second contact, its notes keep up with the movements. -/
theorem keepsUp_along (hb : r.handlers = .standard) (hs : r.state = .pinchZoom)
    (hnone : r.context.pinch = {}) (hleads : h.Along h.LeadsToPinch r calls)
    (hbegins : ∀ c ∈ calls, ¬(h.request c).Asks Sample.BeginsPinch) :
    (after h.step r calls).context.pinch.KeepsUp (distances (h.samples calls)) := by
  induction calls using List.reverseRecOn with
  | nil => exact .inl hnone
  | append_singleton calls c ih =>
    obtain ⟨hbefore, hnow⟩ := along_concat.1 hleads
    have hkeeps := ih hbefore fun d hd => hbegins d (List.mem_append_left _ hd)
    have hlast : after h.step r (calls ++ [c]) = (h.step (after h.step r calls) c).next :=
      after_append ..
    rw [hlast, samples_concat]
    rcases (pinchStep_of_leads ((h.handlers_after r calls).trans hb) hnow).of_target with
      ⟨-, s, hreq, hmoves, hpinch⟩ | ⟨s, hreq, hsecond, -⟩ | ⟨hstill, hpinch⟩
    · rw [hpinch, hreq, Request.sample?, Option.toList_some,
        distances_concat_of_movesTwo hmoves]
      exact hkeeps.measure _ _
    · exact absurd (Request.asks_iff.2 ⟨s, hreq, hsecond⟩) (hbegins c (by simp))
    · rw [hpinch, distances_append_of_not_asks (hstill (state_of_leads hs hbefore))]
      exact hkeeps

end Host

/-! ## Results -/

namespace Recognizer

variable {σ γ : Type} [Scheduler σ]

/-- What a pinch has noted, in every run. The pinch lasts since a call that entered it from another
state. What is left of an earlier pinch then is left of one that a press broke off. Since then, the
distance noted last is that of the last movement, and where there was none the one that was found;
and a baseline is noted if it was noted before or some movement found none. So where nothing was left
and no second contact came down, a baseline is never without its notes: it is noted, and so is the
distance of the last movement, of which there is one. -/
theorem notes_follow_movements (h : Host σ γ) (config : Config) (timers : σ) :
    let start := new config timers
    (∀ calls, (after h.step start calls).state = .pinchZoom ↔
      h.Since h.LeadsToPinch h.EntersPinch start calls) ∧
    ∀ (earlier : List γ) (entry : γ) (during : List γ),
      let r := after h.step start earlier
      let e := (h.step r entry).next
      let q := after h.step start (earlier ++ entry :: during)
      h.EntersPinch r entry → h.Along h.LeadsToPinch e during →
        q.context.pinch.last = (distances (h.samples during)).getLastD r.context.pinch.last ∧
        (q.context.pinch.started = true ↔
          r.context.pinch.started = true ∨ h.Once h.FindsNoBaseline e during) ∧
        (r.context.pinch = {} ∨
          h.Since h.StaysOut (h.BreaksOff r.context.pinch) start earlier) ∧
        (r.context.pinch = {} →
          (∀ c ∈ entry :: during, ¬(h.request c).Asks Sample.BeginsPinch) →
          ¬(q.context.pinch.baseline == 0) = true →
            q.context.pinch.started = true ∧
              (distances (h.samples during)).getLast? = some q.context.pinch.last) := by
  intro start
  refine ⟨fun calls => Host.inPinch_iff nofun, ?_⟩
  intro earlier entry during r e q henters hleads
  have hb : r.handlers = .standard := h.handlers_after start earlier
  have he : e.handlers = .standard := (h.handlers_step r entry).trans hb
  have hq : q = after h.step e during := after_append ..
  obtain ⟨hlast, hstarted⟩ := Host.notes_along he henters.2 hleads
  have hfound : e.context.pinch.last = r.context.pinch.last ∧
      e.context.pinch.started = r.context.pinch.started := by
    rcases Host.pinch_of_enters hb henters with ⟨s, -, -, hpinch⟩ | hpinch
    · rw [hpinch]
      exact ⟨rfl, rfl⟩
    · rw [hpinch]
      exact ⟨rfl, rfl⟩
  rw [hfound.1] at hlast
  rw [hfound.2] at hstarted
  rw [hq]
  refine ⟨hlast, hstarted, ?_, fun hnone hbegins hbase => ?_⟩
  · by_cases hnone : r.context.pinch = {}
    · exact .inl hnone
    · exact .inr ((Host.outlives_iff_brokenOff rfl rfl hnone).1 ⟨henters.1, rfl⟩)
  · have hfresh : e.context.pinch = {} := by
      rcases Host.pinch_of_enters hb henters with ⟨s, hreq, hs, -⟩ | hpinch
      · exact absurd (Request.asks_iff.2 ⟨s, hreq, hs⟩) (hbegins entry List.mem_cons_self)
      · exact hpinch.trans hnone
    have hkeeps := Host.keepsUp_along he henters.2 hfresh hleads
      fun c hc => hbegins c (List.mem_cons_of_mem _ hc)
    refine hkeeps.resolve_left fun hzero => hbase ?_
    rw [hzero]
    exact Sample.zero_beq

/-- Several contacts come down at once. Their first movement sets the baseline, and another one,
within the slop, is noted. -/
theorem notes_follow_movements_of_down :
    let pair := fun (action : Action) (x : Float) (time : Time) =>
      TimedCall.handleAt ((Sample.single action ⟨0, 0⟩ time).withPointers [⟨0, 0⟩, ⟨x, 0⟩])
    let q := after Host.queued.step (new {} (Queue.startingAt 0))
      [pair .down 90 0, pair .move 100 10, pair .move 107 20]
    q.context.pinch.baseline = 100 ∧ q.context.pinch.started = true ∧
      q.context.pinch.last = 107 := by
  intro pair q
  have henters : Host.queued.EntersPinch (new {} (Queue.startingAt 0)) (pair .down 90 0) :=
    ⟨by decide, by decide +kernel⟩
  have hleads : Host.queued.Along Host.queued.LeadsToPinch
      (Host.queued.step (new {} (Queue.startingAt 0)) (pair .down 90 0)).next
      [pair .move 100 10, pair .move 107 20] :=
    ⟨by decide +kernel, by decide +kernel, trivial⟩
  obtain ⟨hlast, -, -, hfresh⟩ :=
    (notes_follow_movements Host.queued {} (Queue.startingAt 0)).2 [] (pair .down 90 0)
      [pair .move 100 10, pair .move 107 20] henters hleads
  have hnotes := hfresh rfl (by decide +kernel) (by decide +kernel)
  exact ⟨by decide +kernel, hnotes.1, hlast.trans (by decide +kernel)⟩

/-- A second contact comes down at a distance of 100 and sets the baseline. No baseline is noted, and
no distance. -/
theorem second_contact_goes_unnoted :
    let down := (Sample.single .pointerDown ⟨0, 0⟩ 0).withPointers [⟨0, 0⟩, ⟨100, 0⟩]
    let q := after performTimed (new {} (Queue.startingAt 0)) [.handleAt down]
    q.state = .pinchZoom ∧ down.contactDistance = 100 ∧ q.context.pinch = ⟨100, 0, false⟩ := by
  decide +kernel

end Recognizer

end Trackpad
