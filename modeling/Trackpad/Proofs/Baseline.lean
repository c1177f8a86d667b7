import Mathlib.Data.List.Induction
import Trackpad.Proofs.Pinching

/-!
# Baseline — what a pinch compares with

A pinch compares each distance with its baseline, so what zooms depends on where the baseline comes
from. Two questions are answered here, for every run.

Does a new pinch begin without one? It does if the last pinch ended or was dropped. A press of the
pad breaks a pinch off without forgetting how far it had come, and this is the only way for a
baseline to outlive its pinch (`outlives_iff_brokenOff`).

Which samples zoom? Movements of a pinch, against the sample that set the baseline last, and that
one came with the positions of two contacts (`zooms_iff_leaves_baseline`). The movement itself need
not: two contacts that are reported without positions are at a distance of zero from each other,
which stands for "not measured", but is compared with the baseline as any other.
-/

namespace Trackpad

/-! ## Positions -/

namespace Sample

/-- Two contacts are reported, or more, and the positions of the first two are `p` and `q`. -/
def Reports (s : Sample) (p q : Point) : Prop :=
  ¬s.pointerCount < 2 ∧ ∃ rest, s.pointers = p :: q :: rest

variable {s : Sample} {p q : Point}

theorem contactDistance_of_reports (h : s.Reports p q) : s.contactDistance = p.distance q := by
  obtain ⟨hcount, rest, hpointers⟩ := h
  simp only [contactDistance, if_neg hcount, hpointers]

theorem contactDistance_of_missing (h : s.pointers.length < 2) : s.contactDistance = 0 := by
  unfold contactDistance
  split
  · rfl
  · split
    · rename_i hpointers
      rw [hpointers] at h
      exact absurd h (Nat.not_lt.2 (Nat.le_add_left 2 _))
    · rfl

theorem reports_or_missing (hcount : ¬s.pointerCount < 2) :
    (∃ p q, s.Reports p q) ∨ s.pointers.length < 2 := by
  match hpointers : s.pointers with
  | [] | [_] => exact .inr (by simp)
  | p :: q :: rest => exact .inl ⟨p, q, hcount, rest, hpointers⟩

theorem zero_beq : ((0 : Float) == 0) = true := by decide +kernel

/-- A distance other than zero was measured. -/
theorem reports_of_ne_zero (h : ¬(s.contactDistance == 0) = true) : ∃ p q, s.Reports p q := by
  have hcount : ¬s.pointerCount < 2 := by
    intro hcount
    rw [contactDistance, if_pos hcount] at h
    exact h zero_beq
  refine (reports_or_missing hcount).resolve_right fun hmissing => ?_
  rw [contactDistance_of_missing hmissing] at h
  exact h zero_beq

end Sample

/-! ## Setting and forgetting -/

/-- A request with the sample `s` sets the baseline: a second contact that comes down, or a
movement, if there is no baseline yet or if it zooms. -/
def PinchProgress.SetBy (p : PinchProgress) (slop : Float) (source : State) (req : Request)
    (s : Sample) : Prop :=
  req = .sample s ∧ (s.BeginsPinch ∨ (s.MovesTwo ∧ source = .pinchZoom ∧
    ((p.baseline == 0) = true ∨ p.Exceeds slop s.contactDistance)))

/-- A request forgets the pinch. -/
def Request.Forgets (source : State) (req : Request) : Prop :=
  req.Drops ∨ (source = .pinchZoom ∧ req.Asks Sample.EndsPinch)

section

variable {p : PinchProgress} {slop : Float} {source : State} {req : Request} {s t : Sample}

theorem PinchProgress.SetBy.action (h : p.SetBy slop source (.sample s) t) :
    s.action = .pointerDown ∨ s.action = .move := by
  obtain ⟨heq, hs⟩ := h
  cases heq
  exact hs.imp And.left fun hs => hs.1.1

theorem Request.Forgets.action (h : (Request.sample s).Forgets source) :
    s.action = .cancel ∨ s.action = .up ∨ s.action = .pointerUp := by
  rcases h with hdrops | ⟨-, hup | ⟨hup, -⟩⟩
  · exact .inl (drops_sample.1 hdrops)
  · exact .inr (.inl hup)
  · exact .inr (.inr hup)

/-- As long as the pinch goes on, it is not forgotten. -/
theorem Request.not_forgets_of_lasting (h : req.Allows fun s => s.SparesPinch ∨ s.MovesTwo) :
    ¬req.Forgets source := by
  rintro ((rfl | hcancel) | ⟨-, hends⟩)
  · exact h
  · obtain ⟨s, heq, ha⟩ := asks_iff.1 hcancel
    exact (Sample.lasting_of (h.of_sample heq)).2.2.2 ha
  · obtain ⟨s, heq, hs⟩ := asks_iff.1 hends
    exact (Sample.lasting_of (h.of_sample heq)).2.1 hs

theorem Request.Forgets.not_setBy (h : req.Forgets source) : ¬p.SetBy slop source req s := by
  intro hset
  obtain rfl := hset.1
  rcases hset.action with ha | ha <;> simpa [ha] using h.action

end

namespace PinchStep

variable {slop : Float} {req : Request} {source target : State} {p p' : PinchProgress}
  {now : List Command}

/-- The baseline is set, forgotten or kept. -/
theorem baseline (h : PinchStep slop req source p now target p') :
    (∃ s, p.SetBy slop source req s ∧ p'.baseline = s.contactDistance) ∨
      (req.Forgets source ∧ p'.baseline = 0) ∨
      ((∀ s, ¬p.SetBy slop source req s) ∧ ¬req.Forgets source ∧ p'.baseline = p.baseline) := by
  cases h with
  | elsewhere hsource hbegins hdrops =>
    refine .inr (.inr ⟨?_, ?_, rfl⟩)
    · rintro s ⟨hreq, hs | ⟨-, hpinch, -⟩⟩
      · exact hbegins (Request.asks_iff.2 ⟨s, hreq, hs⟩)
      · exact hsource hpinch
    · rintro (hdropped | ⟨hpinch, -⟩)
      · exact hdrops hdropped
      · exact hsource hpinch
  | spares hsource hreq =>
    refine .inr (.inr ⟨?_, Request.not_forgets_of_lasting (hreq.mono fun _ => .inl), rfl⟩)
    rintro s ⟨heq, hs | ⟨hs, -⟩⟩
    · exact (hreq.of_sample heq).1 hs
    · exact (hreq.of_sample heq).2.1 hs
  | breaksOff hsource hreq =>
    obtain ⟨s, rfl, ha⟩ := Request.asks_iff.1 hreq
    refine .inr (.inr ⟨fun t hset => ?_, fun hforgets => ?_, rfl⟩)
    · simpa [ha] using hset.action
    · simpa [ha] using hforgets.action
  | begins hreq hs => exact .inl ⟨_, ⟨hreq, .inl hs⟩, rfl⟩
  | @measures s hsource hreq hs =>
    subst hreq
    by_cases hnone : (p.baseline == 0) = true
    · refine .inl ⟨s, ⟨rfl, .inr ⟨hs, hsource, .inl hnone⟩⟩, ?_⟩
      rw [PinchProgress.measure_of_none hnone]
    · by_cases hbeyond : p.Exceeds slop s.contactDistance
      · refine .inl ⟨s, ⟨rfl, .inr ⟨hs, hsource, .inr hbeyond⟩⟩, ?_⟩
        simp only [PinchProgress.measure, if_neg hnone, if_pos hbeyond]
      · -- Within the slop the distance is noted, but not as the baseline.
        have hforgets : ¬(Request.sample s).Forgets source :=
          Request.not_forgets_of_lasting (.inr hs : s.SparesPinch ∨ s.MovesTwo)
        refine .inr (.inr ⟨?_, hforgets, ?_⟩)
        · rintro t ⟨heq, hbegins | ⟨-, -, hset⟩⟩
          · cases heq
            cases hbegins.1.symm.trans hs.1
          · cases heq
            exact hset.elim hnone hbeyond
        · simp only [PinchProgress.measure, if_neg hnone, if_neg hbeyond]
  | ends hsource hreq => exact .inr (.inl ⟨.inr ⟨hsource, hreq⟩, rfl⟩)
  | drops hreq => exact .inr (.inl ⟨.inl hreq, rfl⟩)

/-- A baseline is there if it was just set, or if it was there and was left alone. -/
theorem baseline_iff (h : PinchStep slop req source p now target p') {b : Float}
    (hne : ¬(b == 0) = true) :
    p'.baseline = b ↔
      (∃ s, p.SetBy slop source req s ∧ s.contactDistance = b) ∨
        ((∀ s, ¬p.SetBy slop source req s) ∧ ¬req.Forgets source) ∧ p.baseline = b := by
  rcases h.baseline with ⟨s, hset, hbase⟩ | ⟨hforgets, hbase⟩ | ⟨hset, hforgets, hbase⟩
  · rw [hbase]
    constructor
    · exact fun heq => .inl ⟨s, hset, heq⟩
    · rintro (⟨t, ht, heq⟩ | ⟨⟨hnot, -⟩, -⟩)
      · rwa [Request.sample.inj (hset.1.symm.trans ht.1)]
      · exact absurd hset (hnot s)
  · rw [hbase]
    constructor
    · exact fun hzero => absurd Sample.zero_beq (hzero ▸ hne)
    · rintro (⟨t, ht, -⟩ | ⟨⟨-, hnot⟩, -⟩)
      · exact absurd ht hforgets.not_setBy
      · exact absurd hforgets hnot
  · rw [hbase]
    constructor
    · exact fun heq => .inr ⟨⟨hset, hforgets⟩, heq⟩
    · rintro (⟨t, ht, -⟩ | ⟨-, heq⟩)
      · exact absurd ht (hset t)
      · exact heq

/-- Outside a pinch nothing happens to it as long as no second contact comes down. -/
theorem of_elsewhere (h : PinchStep slop req source p now target p') (hsource : source ≠ .pinchZoom)
    (hbegins : ¬req.Asks Sample.BeginsPinch) (hdrops : ¬req.Drops) : now = [] ∧ p' = p := by
  cases h with
  | elsewhere _ _ _ => exact ⟨rfl, rfl⟩
  | spares hpinch _ | breaksOff hpinch _ | measures hpinch _ _ | ends hpinch _ =>
    exact absurd hpinch hsource
  | begins hreq hs => exact absurd (Request.asks_iff.2 ⟨_, hreq, hs⟩) hbegins
  | drops hdropped => exact absurd hdropped hdrops

/-- Something is left outside of a pinch if a press breaks it off, or if it was left before and is
not dropped. -/
theorem outside_iff (h : PinchStep slop req source p now target p') {left : PinchProgress}
    (hne : left ≠ {}) :
    target ≠ .pinchZoom ∧ p' = left ↔
      (source = .pinchZoom ∧ p = left ∧ req.Asks (·.action = .buttonPress)) ∨
        ((target ≠ .pinchZoom ∧ ¬req.Drops) ∧ source ≠ .pinchZoom ∧ p = left) := by
  by_cases hpress : req.Asks (·.action = .buttonPress)
  · obtain ⟨s, rfl, ha⟩ := Request.asks_iff.1 hpress
    cases h with
    | elsewhere hsource _ hdrops => simp [hsource, hdrops]
    | spares _ hspares => exact absurd ha hspares.2.2.2.1
    | breaksOff hsource _ => simp [hsource, hpress]
    | begins heq hs =>
      cases heq
      cases ha.symm.trans hs.1
    | measures _ heq hs =>
      cases heq
      cases ha.symm.trans hs.1
    | ends _ hends => rcases hends with hup | ⟨hup, -⟩ <;> cases ha.symm.trans hup
    | drops hdrops => cases ha.symm.trans (Request.drops_sample.1 hdrops)
  · cases h with
    | elsewhere hsource _ hdrops => simp [hsource, hdrops]
    | spares hsource _ | measures hsource _ _ => simp [hsource, hpress]
    | breaksOff _ hreq => exact absurd hreq hpress
    | begins _ _ => simp [hpress]
    | ends hsource _ => simp [hsource, hpress, hne.symm]
    | drops hdrops => simp [hpress, hdrops, hne.symm]

/-- Only a movement in the state of a pinch zooms, and only past the slop. -/
theorem mem_now_iff (h : PinchStep slop req source p now target p') {cmd : Command} :
    cmd ∈ now ↔ ∃ s, req = .sample s ∧ s.MovesTwo ∧ source = .pinchZoom ∧
      p.Exceeds slop s.contactDistance ∧ cmd = .zoomStep p.baseline s.contactDistance := by
  constructor
  · intro hcmd
    cases h with
    | @measures s hsource hreq hs =>
      unfold PinchProgress.zooms at hcmd
      split at hcmd
      · rename_i hbeyond
        exact ⟨s, hreq, hs, hsource, hbeyond, List.mem_singleton.1 hcmd⟩
      · cases hcmd
    | _ => cases hcmd
  · rintro ⟨s, rfl, hs, hsource, hbeyond, rfl⟩
    obtain ⟨-, ⟨t, heq, -, hnow, -⟩ | ⟨hspares, -⟩⟩ :=
      h.of_lasting hsource (.inr hs : s.SparesPinch ∨ s.MovesTwo)
    · cases heq
      rw [hnow, PinchProgress.zooms, if_pos hbeyond]
      exact List.mem_singleton_self _
    · exact absurd hs hspares.2.1

end PinchStep

/-! ## Runs -/

namespace Host

open Recognizer

variable {σ γ : Type} [Scheduler σ] {h : Host σ γ} {r : Recognizer σ} {c : γ} {calls : List γ}

/-- The sample `s` that the call hands over sets the baseline. -/
def Sets (h : Host σ γ) (s : Sample) (r : Recognizer σ) (c : γ) : Prop :=
  r.context.pinch.SetBy r.config.touchSlop r.state (h.request c) s

/-- The call leaves the baseline alone. -/
def KeepsBaseline (h : Host σ γ) (r : Recognizer σ) (c : γ) : Prop :=
  (∀ s, ¬h.Sets s r c) ∧ ¬(h.request c).Forgets r.state

/-- There is a baseline exactly if a sample set one that is not forgotten, and it is the distance
that the last such sample measured. -/
theorem baseline_iff_set (hb : r.handlers = .standard) (hr : r.context.pinch.baseline = 0)
    {b : Float} (hne : ¬(b == 0) = true) :
    (after h.step r calls).context.pinch.baseline = b ↔
      ∃ s, h.Since h.KeepsBaseline (h.Sets s) r calls ∧ s.contactDistance = b := by
  induction calls using List.reverseRecOn with
  | nil =>
    refine ⟨fun hzero => ?_, fun ⟨s, hsince, _⟩ => absurd hsince not_since_nil⟩
    have hb0 : (0 : Float) = b := hr.symm.trans hzero
    exact absurd Sample.zero_beq (hb0 ▸ hne)
  | append_singleton calls c ih =>
    have hhandlers := (h.handlers_after r calls).trans hb
    have hstep := (h.pinchStep hhandlers c).baseline_iff hne
    rw [after_append]
    refine hstep.trans ?_
    simp only [ih, since_concat, KeepsBaseline, Sets, or_and_right, exists_or, and_assoc,
      exists_and_left]

/-- A press of the pad breaks off a pinch that has come as far as `p`. -/
def BreaksOff (h : Host σ γ) (p : PinchProgress) (r : Recognizer σ) (c : γ) : Prop :=
  r.state = .pinchZoom ∧ r.context.pinch = p ∧ (h.request c).Asks (·.action = .buttonPress)

/-- The call leads to no pinch and drops nothing. -/
def StaysOut (h : Host σ γ) (r : Recognizer σ) (c : γ) : Prop :=
  (h.step r c).next.state ≠ .pinchZoom ∧ ¬(h.request c).Drops

/-- What is left of a pinch outside of one is left of one that was broken off. -/
theorem outlives_iff_brokenOff (hb : r.handlers = .standard) (hr : r.context.pinch = {})
    {p : PinchProgress} (hne : p ≠ {}) :
    (after h.step r calls).state ≠ .pinchZoom ∧ (after h.step r calls).context.pinch = p ↔
      h.Since h.StaysOut (h.BreaksOff p) r calls := by
  induction calls using List.reverseRecOn with
  | nil =>
    exact ⟨fun hp => absurd (hp.2.symm.trans hr) hne, fun hsince => absurd hsince not_since_nil⟩
  | append_singleton calls c ih =>
    have hhandlers := (h.handlers_after r calls).trans hb
    rw [after_append, since_concat, ← ih]
    exact (h.pinchStep hhandlers c).outside_iff hne

/-! ## Pinches that begin at once -/

/-- Several contacts that come down together at rest begin a pinch, with what was left of one. -/
theorem begins_of_down (hb : r.handlers = .standard) (hs : r.state = .idle)
    (hdown : (h.request c).Asks fun s => s.action = .down ∧ s.kind = .pinchZoom) :
    (h.step r c).next.state = .pinchZoom ∧ (h.step r c).next.context.pinch = r.context.pinch ∧
      zoomed (h.step r c).sent = [] := by
  obtain ⟨s, hreq, ha, hk⟩ := Request.asks_iff.1 hdown
  have hstate : (h.step r c).next.state = .pinchZoom := by
    have hkind : (((h.facing r c).turn.classify s).noteSample "idle" s).context.kind = .pinchZoom :=
      hk
    rw [Recognizer.state, h.context_of_down hb hs hreq ha]
    simp only [Turn.beginContact, hkind]
    rfl
  have helsewhere := (h.pinchStep hb c).of_elsewhere (by simp [hs])
    (by simp [hreq, Request.Asks, Sample.BeginsPinch, ha])
    (by simp [hreq, Request.drops_sample, ha])
  exact ⟨hstate, helsewhere.2, helsewhere.1⟩

/-- As long as a pinch without baseline measures nothing, it zooms nothing and stays without. -/
theorem unbased_of_missing (hb : r.handlers = .standard) (hs : r.state = .pinchZoom)
    (hnone : (r.context.pinch.baseline == 0) = true)
    (hmissing : ∀ c ∈ calls, (h.request c).Allows fun s =>
      s.SparesPinch ∨ (s.MovesTwo ∧ s.pointers.length < 2)) :
    (after h.step r calls).state = .pinchZoom ∧
      ((after h.step r calls).context.pinch.baseline == 0) = true ∧
      zoomed (sentIn h.step r calls) = [] := by
  have hstart : zoomed [] = [] := rfl
  refine (sentIn_keeps (P := fun sent q => q.handlers = .standard ∧ q.state = .pinchZoom ∧
    (q.context.pinch.baseline == 0) = true ∧ zoomed sent = []) (fun past q c hc hq => ?_)
    ⟨hb, hs, hnone, hstart⟩).2
  obtain ⟨hhandlers, hstate, hnone, hzoomed⟩ := hq
  have hmiss := hmissing c hc
  refine ⟨(h.handlers_step q c).trans hhandlers, ?_⟩
  obtain ⟨hnext, ⟨s, hreq, hmoves, hnow, hpinch⟩ | ⟨-, hnow, hpinch⟩⟩ :=
    (h.pinchStep hhandlers c).of_lasting hstate (hmiss.mono fun _ hs => hs.imp_right And.left)
  · have hzero : s.contactDistance = 0 := by
      rcases hmiss.of_sample hreq with hspares | ⟨-, hfew⟩
      · exact absurd hmoves hspares.2.1
      · exact Sample.contactDistance_of_missing hfew
    rw [zoomed_append, hzoomed, hnow, hpinch, hzero, PinchProgress.zooms_of_none hnone,
      PinchProgress.measure_of_none hnone]
    exact ⟨hnext, Sample.zero_beq, rfl⟩
  · rw [zoomed_append, hzoomed, hnow, hpinch]
    exact ⟨hnext, hnone, rfl⟩

/-- The first distance of a pinch without baseline becomes the baseline and does not zoom. -/
theorem measures_first (hb : r.handlers = .standard) (hs : r.state = .pinchZoom)
    (hnone : (r.context.pinch.baseline == 0) = true) {s : Sample} {p q : Point}
    (hreq : h.request c = .sample s) (ha : s.action = .move) (hreports : s.Reports p q) :
    (h.step r c).next.state = .pinchZoom ∧
      (h.step r c).next.context.pinch = ⟨p.distance q, p.distance q, true⟩ ∧
      zoomed (h.step r c).sent = [] := by
  have hmoves : s.MovesTwo := ⟨ha, hreports.1⟩
  have hlasting : (h.request c).Allows fun s => s.SparesPinch ∨ s.MovesTwo := by
    rw [hreq]
    exact .inr hmoves
  obtain ⟨hstate, ⟨t, heq, -, hnow, hpinch⟩ | ⟨hspares, -⟩⟩ :=
    (h.pinchStep hb c).of_lasting hs hlasting
  · obtain rfl := Request.sample.inj (hreq.symm.trans heq)
    rw [PinchProgress.zooms_of_none hnone] at hnow
    rw [PinchProgress.measure_of_none hnone, Sample.contactDistance_of_reports hreports] at hpinch
    exact ⟨hstate, hpinch, hnow⟩
  · exact absurd hmoves (hspares.of_sample hreq).2.1

end Host

/-! ## Results -/

namespace Recognizer

variable {σ γ : Type} [Scheduler σ]

/-- Outside of a pinch nothing is left of one, unless a press of the pad broke it off: then all of
it is left, until something is dropped or the state is that of a pinch again. Where nothing is left,
several contacts that come down at once begin a pinch whose first distance becomes the baseline and
does not zoom. -/
theorem pinch_forgotten_unless_brokenOff (h : Host σ γ) (config : Config) (timers : σ)
    (calls : List γ) :
    let start := new config timers
    let q := after h.step start calls
    (∀ p, p ≠ {} → (q.state ≠ .pinchZoom ∧ q.context.pinch = p ↔
      h.Since h.StaysOut (h.BreaksOff p) start calls)) ∧
    ∀ (down move : γ) (between : List γ) (s : Sample) (p₁ p₂ : Point),
      q.state = .idle → q.context.pinch = {} →
      (h.request down).Asks (fun s => s.action = .down ∧ s.kind = .pinchZoom) →
      (∀ c ∈ between, (h.request c).Allows fun s =>
        s.SparesPinch ∨ (s.MovesTwo ∧ s.pointers.length < 2)) →
      h.request move = .sample s → s.action = .move → s.Reports p₁ p₂ →
      let e := after h.step q (down :: between ++ [move])
      e.state = .pinchZoom ∧ e.context.pinch = ⟨p₁.distance p₂, p₁.distance p₂, true⟩ ∧
        zoomed (sentIn h.step q (down :: between ++ [move])) = [] := by
  intro start q
  have hb : q.handlers = .standard := h.handlers_after start calls
  refine ⟨fun p hne => Host.outlives_iff_brokenOff rfl rfl hne, ?_⟩
  intro down move between s p₁ p₂ hidle hnone hdown hmissing hreq ha hreports
  obtain ⟨hstate, hpinch, hdownZoom⟩ := Host.begins_of_down hb hidle hdown
  have hbegun : ((h.step q down).next.context.pinch.baseline == 0) = true := by
    rw [hpinch, hnone]
    exact Sample.zero_beq
  obtain ⟨hlasts, hbase, hbetweenZoom⟩ :=
    Host.unbased_of_missing ((h.handlers_step q down).trans hb) hstate hbegun hmissing
  obtain ⟨hend, hmeasured, hmoveZoom⟩ :=
    Host.measures_first ((h.handlers_after q (down :: between)).trans hb) hlasts hbase hreq ha
      hreports
  rw [after_append, sentIn_append, sentIn_singleton, sentIn_cons, zoomed_append, zoomed_append,
    hdownZoom, hbetweenZoom, after_cons, hmoveZoom]
  exact ⟨hend, hmeasured, rfl⟩

/-- One pinch is broken off and left, another ends and leaves nothing to the next one, which begins
with a report of two contacts without positions. -/
theorem pinch_forgotten_unless_brokenOff_or_ended :
    let pair := fun (action : Action) (x : Float) (time : Time) =>
      (Sample.single action ⟨0, 0⟩ time).withPointers [⟨0, 0⟩, ⟨x, 0⟩]
    let start := new {} (Queue.startingAt 0)
    let broken := [TimedCall.handleAt (pair .pointerDown 100 0),
      .handleAt (.single .buttonPress ⟨0, 0⟩ 10), .handleAt (.single .buttonRelease ⟨0, 0⟩ 20)]
    let ended := [TimedCall.handleAt (pair .pointerDown 100 0), .handleAt (pair .move 80 10),
      .handleAt (.single .up ⟨0, 0⟩ 20)]
    let next := [TimedCall.handleAt (pair .down 20 30),
      .handleAt ((Sample.single .move ⟨0, 0⟩ 40).withPointerCount 2), .advanceTo 300,
      .handleAt (pair .move 20 310)]
    Host.queued.Since Host.queued.StaysOut (Host.queued.BreaksOff ⟨100, 0, false⟩) start broken ∧
      zoomed (sentIn Host.queued.step (after Host.queued.step start ended) next) = [] := by
  intro pair start broken ended next
  have hbroken := (pinch_forgotten_unless_brokenOff Host.queued {} (Queue.startingAt 0) broken).1
    ⟨100, 0, false⟩ (by decide +kernel)
  have hended := (pinch_forgotten_unless_brokenOff Host.queued {} (Queue.startingAt 0) ended).2
    (.handleAt (pair .down 20 30)) (.handleAt (pair .move 20 310))
    [.handleAt ((Sample.single .move ⟨0, 0⟩ 40).withPointerCount 2), .advanceTo 300]
    (pair .move 20 310) ⟨0, 0⟩ ⟨20, 0⟩ (by decide +kernel) (by decide +kernel)
    ⟨rfl, by decide +kernel⟩ (by decide +kernel) rfl rfl ⟨by decide, [], rfl⟩
  exact ⟨hbroken.1 (by decide +kernel), hended.2.2⟩

/-- A press breaks a pinch off at a distance of 100 and is released. Two contacts that come down at
a distance of 20 begin another pinch, and at their first movement, which leaves them where they are,
it zooms. -/
theorem brokenOff_pinch_zooms_later :
    let pair := fun (action : Action) (x : Float) (time : Time) =>
      (Sample.single action ⟨0, 0⟩ time).withPointers [⟨0, 0⟩, ⟨x, 0⟩]
    let r := after performTimed (new {} (Queue.startingAt 0))
      [.handleAt (pair .pointerDown 100 0),
        .handleAt ((Sample.single .buttonPress ⟨0, 0⟩ 10).withButtons Buttons.primary),
        .handleAt (.single .buttonRelease ⟨0, 0⟩ 20)]
    r.state = .idle ∧ r.context.pinch = ⟨100, 0, false⟩ ∧
      sentIn performTimed r [.handleAt (pair .down 20 30), .handleAt (pair .move 20 40)] =
        [.scrollWithCtrl 0 1] := by
  decide +kernel

/-- What zooms is always a movement in a pinch, against two positions of the sample that set the
baseline last. If it comes with two positions itself, their distance differs from that of the others
by more than the slop. If it does not, zero stands for its distance and is compared all the same. -/
theorem zooms_iff_leaves_baseline (h : Host σ γ) (config : Config) (timers : σ) (calls : List γ)
    (c : γ) (cmd : Command) :
    let start := new config timers
    let r := after h.step start calls
    cmd ∈ zoomed (h.step r c).sent ↔
      ∃ s s₀ p₀ q₀, h.request c = .sample s ∧ s.MovesTwo ∧ r.state = .pinchZoom ∧
        h.Since h.KeepsBaseline (h.Sets s₀) start calls ∧ s₀.Reports p₀ q₀ ∧
        ¬(p₀.distance q₀ == 0) = true ∧
        ((∃ p q, s.Reports p q ∧
            config.touchSlop < (p.distance q - p₀.distance q₀).abs ∧
            cmd = .zoomStep (p₀.distance q₀) (p.distance q)) ∨
          (s.pointers.length < 2 ∧ config.touchSlop < (0 - p₀.distance q₀).abs ∧
            cmd = .zoomStep (p₀.distance q₀) 0)) := by
  intro start r
  have hb : r.handlers = .standard := h.handlers_after start calls
  have hslop : r.config.touchSlop = config.touchSlop :=
    congrArg Config.touchSlop (h.config_after start calls)
  have hset {b : Float} (hne : ¬(b == 0) = true) : r.context.pinch.baseline = b ↔
      ∃ s, h.Since h.KeepsBaseline (h.Sets s) start calls ∧ s.contactDistance = b :=
    Host.baseline_iff_set rfl rfl hne
  rw [(h.pinchStep hb c).mem_now_iff, hslop]
  constructor
  · rintro ⟨s, hreq, hmoves, hstate, ⟨hne, hbeyond⟩, rfl⟩
    obtain ⟨s₀, hsince, hbase⟩ := (hset hne).1 rfl
    rw [← hbase] at hne hbeyond ⊢
    obtain ⟨p₀, q₀, hreports₀⟩ := Sample.reports_of_ne_zero hne
    rw [Sample.contactDistance_of_reports hreports₀] at hne hbeyond ⊢
    refine ⟨s, s₀, p₀, q₀, hreq, hmoves, hstate, hsince, hreports₀, hne, ?_⟩
    rcases Sample.reports_or_missing hmoves.2 with ⟨p, q, hreports⟩ | hmissing
    · rw [Sample.contactDistance_of_reports hreports] at hbeyond ⊢
      exact .inl ⟨p, q, hreports, hbeyond, rfl⟩
    · rw [Sample.contactDistance_of_missing hmissing] at hbeyond ⊢
      exact .inr ⟨hmissing, hbeyond, rfl⟩
  · rintro ⟨s, s₀, p₀, q₀, hreq, hmoves, hstate, hsince, hreports₀, hne, hcompared⟩
    have hbase : r.context.pinch.baseline = p₀.distance q₀ :=
      (hset hne).2 ⟨s₀, hsince, Sample.contactDistance_of_reports hreports₀⟩
    refine ⟨s, hreq, hmoves, hstate, ?_⟩
    rw [PinchProgress.Exceeds, hbase]
    rcases hcompared with ⟨p, q, hreports, hbeyond, rfl⟩ | ⟨hmissing, hbeyond, rfl⟩
    · rw [Sample.contactDistance_of_reports hreports]
      exact ⟨⟨hne, hbeyond⟩, rfl⟩
    · rw [Sample.contactDistance_of_missing hmissing]
      exact ⟨⟨hne, hbeyond⟩, rfl⟩

/-- Two contacts come down at a distance of 100, and a report of two contacts without positions
zooms as if they had met. -/
theorem missing_positions_zoom :
    let down := (Sample.single .pointerDown ⟨0, 0⟩ 0).withPointers [⟨0, 0⟩, ⟨100, 0⟩]
    let move := (Sample.single .move ⟨0, 0⟩ 10).withPointerCount 2
    move.pointers.length < 2 ∧
      sentIn performTimed (new {} (Queue.startingAt 0)) [.handleAt down, .handleAt move] =
        [.scrollWithCtrl 0 1] := by
  decide +kernel

end Recognizer

end Trackpad
