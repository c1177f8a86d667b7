import Trackpad.Proofs.Contact
import Trackpad.Proofs.Pinching

/-!
# Zoom — a pinch as a baseline that may be missing

The baseline of a pinch is a number, and zero stands for none. What is meant is an optional
baseline: the first distance that is measured becomes the baseline, and any other that differs from
it by more than the slop zooms by one step and becomes the baseline in its turn (`Zooming.advance`).
As long as no distance is zero, a pinch does just that, distance after distance (`zooms_as_folded`),
whatever else its samples are and whenever callbacks come. So jitter within the slop does not add
up: it neither zooms nor moves the baseline.
-/

namespace Trackpad

/-! ## The pinch that is meant -/

/-- The baseline, if there is one, and what was zoomed so far. -/
structure Zooming where
  baseline : Option Float
  sent : List Command := []

namespace Zooming

/-- A distance is measured. -/
def advance (slop : Float) (z : Zooming) (distance : Float) : Zooming :=
  match z.baseline with
  | none => { z with baseline := some distance }
  | some b =>
    if slop < (distance - b).abs then ⟨some distance, z.sent ++ [.zoomStep b distance]⟩ else z

/-- Distances are measured one after the other. -/
def fold (slop : Float) (z : Zooming) (distances : List Float) : Zooming :=
  distances.foldl (advance slop) z

theorem fold_concat (slop : Float) (z : Zooming) (distances : List Float) (distance : Float) :
    z.fold slop (distances ++ [distance]) = (z.fold slop distances).advance slop distance :=
  List.foldl_concat ..

/-- Distances within the slop of the baseline change nothing, however many there are. -/
theorem fold_of_jitter {slop b : Float} {z : Zooming} (hb : z.baseline = some b)
    {distances : List Float} (hjitter : ∀ d ∈ distances, ¬slop < (d - b).abs) :
    z.fold slop distances = z := by
  induction distances with
  | nil => rfl
  | cons d rest ih =>
    have hstay : z.advance slop d = z := by
      simp only [advance, hb]
      exact if_neg (hjitter d List.mem_cons_self)
    show (z.advance slop d).fold slop rest = z
    rw [hstay]
    exact ih fun d hd => hjitter d (List.mem_cons_of_mem _ hd)

end Zooming

/-! ## Zero for none -/

namespace PinchProgress

/-- The baseline, where zero stands for none. -/
def baseline? (p : PinchProgress) : Option Float :=
  if p.baseline == 0 then none else some p.baseline

theorem baseline?_eq_some_iff {p : PinchProgress} {b : Float} :
    p.baseline? = some b ↔ ¬(p.baseline == 0) = true ∧ p.baseline = b := by
  simp [baseline?]

/-- A distance other than zero is taken for what it is. -/
theorem advance_measure (p : PinchProgress) (slop : Float) {distance : Float}
    (hd : ¬(distance == 0) = true) (sent : List Command) :
    Zooming.advance slop ⟨p.baseline?, sent⟩ distance =
      ⟨(p.measure slop distance).baseline?, sent ++ p.zooms slop distance⟩ := by
  by_cases hnone : (p.baseline == 0) = true
  · simp [Zooming.advance, baseline?, measure, zooms, Exceeds, hnone, hd]
  · by_cases hbeyond : slop < (distance - p.baseline).abs
    · simp [Zooming.advance, baseline?, measure, zooms, Exceeds, hnone, hd, hbeyond]
    · simp [Zooming.advance, baseline?, measure, zooms, Exceeds, hnone, hbeyond]

/-- With it the pinch has a baseline: either the distance or the one before. -/
theorem baseline_measure (p : PinchProgress) (slop : Float) {distance : Float}
    (hd : ¬(distance == 0) = true) :
    (p.measure slop distance).baseline? = some (p.measure slop distance).baseline := by
  refine baseline?_eq_some_iff.2 ⟨?_, rfl⟩
  unfold measure
  split
  · exact hd
  · split
    · exact hd
    · assumption

theorem last_measure (p : PinchProgress) (slop distance : Float) :
    (p.measure slop distance).last = distance := by
  unfold measure
  repeat' split
  all_goals rfl

end PinchProgress

/-! ## Samples that keep the pinch -/

/-- The pinch goes on, and the distance is not zero if the sample measures one. -/
def Sample.KeepsPinch (s : Sample) : Prop :=
  s.SparesPinch ∨ (s.MovesTwo ∧ ¬(s.contactDistance == 0) = true)

instance : DecidablePred Sample.KeepsPinch := fun s =>
  inferInstanceAs (Decidable (s.SparesPinch ∨ _))

/-- The distances that some samples measure. -/
def distances (samples : List Sample) : List Float :=
  (samples.filter fun s => s.MovesTwo).map Sample.contactDistance

theorem distances_concat_of_movesTwo {samples : List Sample} {s : Sample} (h : s.MovesTwo) :
    distances (samples ++ [s]) = distances samples ++ [s.contactDistance] := by
  simp [distances, h]

theorem distances_append_of_not_asks {samples : List Sample} {req : Request}
    (h : ¬req.Asks Sample.MovesTwo) :
    distances (samples ++ req.sample?.toList) = distances samples := by
  cases req with
  | sample s =>
    have hs : ¬s.MovesTwo := h
    simp [distances, Request.sample?, hs]
  | nothing | reset => simp [Request.sample?]

theorem distances_append_of_spares {samples : List Sample} {req : Request}
    (h : req.Allows Sample.SparesPinch) :
    distances (samples ++ req.sample?.toList) = distances samples := by
  refine distances_append_of_not_asks fun hmoves => ?_
  obtain ⟨s, hreq, hs⟩ := Request.asks_iff.1 hmoves
  exact (h.of_sample hreq).2.1 hs

/-! ## The refinement -/

namespace Recognizer

section

variable {σ : Type} [Scheduler σ]

/-- Since the pinch was as `p`, what was zoomed and the baseline are as they are meant to be after
the samples `past`. -/
structure Zooms (slop : Float) (p : PinchProgress) (past : List Sample) (sent : List Command)
    (r : Recognizer σ) : Prop where
  handlers : r.handlers = .standard
  touchSlop : r.config.touchSlop = slop
  state : r.state = .pinchZoom
  fold : ⟨r.context.pinch.baseline?, zoomed sent⟩ =
    Zooming.fold slop ⟨p.baseline?, []⟩ (distances past)
  baseline : r.context.pinch.baseline = r.context.pinch.baseline?.getD p.baseline
  last : r.context.pinch.last = (distances past).getLastD p.last

/-- One call carries it on. -/
theorem Zooms.step {γ : Type} {h : Host σ γ} {slop : Float} {p : PinchProgress}
    {past : List Sample} {sent : List Command} {r : Recognizer σ} (hr : r.Zooms slop p past sent)
    {c : γ} (hkeeps : (h.request c).Allows Sample.KeepsPinch) :
    (h.step r c).next.Zooms slop p (past ++ (h.request c).sample?.toList)
      (sent ++ (h.step r c).sent) := by
  have hlasting : (h.request c).Allows fun s => s.SparesPinch ∨ s.MovesTwo :=
    hkeeps.mono fun _ hs => hs.imp_right And.left
  have hhandlers := (h.handlers_step r c).trans hr.handlers
  have hslop := (congrArg Config.touchSlop (h.config_step r c)).trans hr.touchSlop
  have hpinch := h.pinchStep hr.handlers c
  obtain ⟨hstate, ⟨s, hreq, hmoves, hzoomed, hnext⟩ | ⟨hspares, hzoomed, hnext⟩⟩ :=
    hpinch.of_lasting hr.state hlasting
  · -- A distance is measured, and it is not zero.
    have hd : ¬(s.contactDistance == 0) = true := by
      rcases hkeeps.of_sample hreq with hspares | hmeasured
      · exact absurd hmoves hspares.2.1
      · exact hmeasured.2
    rw [hr.touchSlop] at hzoomed hnext
    have hdistances : distances (past ++ (h.request c).sample?.toList) =
        distances past ++ [s.contactDistance] := by
      rw [hreq]
      exact distances_concat_of_movesTwo hmoves
    refine ⟨hhandlers, hslop, hstate, ?_, ?_, ?_⟩
    · rw [hdistances, Zooming.fold_concat, ← hr.fold, PinchProgress.advance_measure _ _ hd,
        zoomed_append, hzoomed, hnext]
    · rw [hnext, PinchProgress.baseline_measure _ _ hd]
      rfl
    · rw [hdistances, List.getLastD_concat, hnext, PinchProgress.last_measure]
  · refine ⟨hhandlers, hslop, hstate, ?_, ?_, ?_⟩
    · rw [distances_append_of_spares hspares, zoomed_append, hzoomed, hnext, List.append_nil]
      exact hr.fold
    · rw [hnext]
      exact hr.baseline
    · rw [distances_append_of_spares hspares, hnext]
      exact hr.last

/-- In a pinch that lasts, and in which no distance is zero, the zero that stands for no baseline
makes no difference. What is zoomed is what an optional baseline zooms over the distances, the
baseline ends as that one does, and the last distance is kept. In particular distances within the
slop of the baseline neither zoom nor move it. -/
theorem zooms_as_folded {γ : Type} (h : Host σ γ) (r : Recognizer σ) (calls : List γ)
    (hb : r.handlers = .standard) (hs : r.state = .pinchZoom)
    (hkeeps : ∀ c ∈ calls, (h.request c).Allows Sample.KeepsPinch) :
    let slop := r.config.touchSlop
    let before := r.context.pinch
    let ds := distances (h.samples calls)
    let z := Zooming.fold slop ⟨before.baseline?, []⟩ ds
    let e := after h.step r calls
    e.state = .pinchZoom ∧
      zoomed (sentIn h.step r calls) = z.sent ∧
      e.context.pinch.baseline? = z.baseline ∧
      e.context.pinch.baseline = z.baseline.getD before.baseline ∧
      e.context.pinch.last = ds.getLastD before.last ∧
      ∀ b, before.baseline? = some b → (∀ d ∈ ds, ¬slop < (d - b).abs) →
        zoomed (sentIn h.step r calls) = [] ∧ e.context.pinch.baseline = b := by
  intro slop before ds z e
  have hstart : r.Zooms slop before [] [] := by
    refine ⟨hb, rfl, hs, rfl, ?_, rfl⟩
    simp only [before, PinchProgress.baseline?]
    split <;> rfl
  have hrun : e.Zooms slop before (h.samples calls) (sentIn h.step r calls) :=
    carries_run (P := fun past sent q => q.Zooms slop before past sent)
      (fun _ _ _ c hc hq => hq.step (hkeeps c hc)) hstart
  have hsent : zoomed (sentIn h.step r calls) = z.sent := congrArg Zooming.sent hrun.fold
  have hbaseline : e.context.pinch.baseline? = z.baseline := congrArg Zooming.baseline hrun.fold
  refine ⟨hrun.state, hsent, hbaseline, hbaseline ▸ hrun.baseline, hrun.last, ?_⟩
  intro b hsome hjitter
  have hz : z = ⟨before.baseline?, []⟩ := Zooming.fold_of_jitter hsome hjitter
  rw [hz] at hsent hbaseline
  exact ⟨hsent, (PinchProgress.baseline?_eq_some_iff.1 (hbaseline.trans hsome)).2⟩

end

/-- Two contacts come down while a tap waits, jitter about their first distance, and then spread and
close by more than the slop. -/
theorem zooms_as_folded_after_jitter :
    let pair := fun (action : Action) (x : Float) (time : Time) =>
      (Sample.single action ⟨0, 0⟩ time).withPointers [⟨0, 0⟩, ⟨x, 0⟩]
    let r := after Host.queued.step (new {} (Queue.startingAt 0))
      (TimedCall.tapping ⟨10, 10⟩ 0 20 ++ [.handleAt (pair .down 90 30)])
    let calls := [TimedCall.handleAt (pair .move 100 40), .handleAt (pair .move 107 50),
      .handleAt (.single .hoverMove ⟨5, 5⟩ 60), .advanceTo 300, .handleAt (pair .move 93 310),
      .handleAt (pair .move 120 320), .plain (.onTimer .delayedClick ⟨0⟩),
      .handleAt (pair .pointerUp 120 330), .handleAt (pair .move 100 340)]
    zoomed (sentIn Host.queued.step r calls) = [.scrollWithCtrl 0 (-1), .scrollWithCtrl 0 1] ∧
      (after Host.queued.step r calls).context.pinch.baseline = 100 ∧
      (after Host.queued.step r calls).context.pinch.last = 100 := by
  intro pair r calls
  obtain ⟨-, hsent, -, hbaseline, hlast, -⟩ :=
    zooms_as_folded Host.queued r calls (Host.queued.handlers_after _ _) (by decide +kernel)
      (by decide +kernel)
  exact ⟨hsent.trans (by decide +kernel), hbaseline.trans (by decide +kernel),
    hlast.trans (by decide +kernel)⟩

end Recognizer

end Trackpad
