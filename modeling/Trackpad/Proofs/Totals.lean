import Mathlib.Data.List.Induction
import Trackpad.Proofs.Host
import Trackpad.Proofs.Travel

/-!
# Totals — what a scroll adds up

Every command that scrolls is added to one of two totals when it is sent, and nothing else touches
the totals (`ScrollProgress.Adds`), except that a reset or a cancel of the platform forgets them.
Two fingers that come down do not. So the totals do not speak of the gesture in flight, but of all
that were made since something was dropped (`totals_since_drop`): they are those of the gesture only
if nothing was scrolled between the drop and the two fingers that began it.
-/

namespace Trackpad

/-! ## Sums -/

namespace Command

/-- How far a command scrolls sideways. -/
def sideways? : Command → Option Float
  | scrollWithShift dx _ => some dx
  | _ => none

/-- How far a command scrolls up and down. -/
def upright? : Command → Option Float
  | scroll _ dy => some dy
  | _ => none

theorem sideways?_of_still {c : Command} (h : c.isScroll = false) : c.sideways? = none := by
  cases c with
  | scrollWithShift _ _ => cases h
  | _ => rfl

theorem upright?_of_still {c : Command} (h : c.isScroll = false) : c.upright? = none := by
  cases c with
  | scroll _ _ => cases h
  | _ => rfl

end Command

theorem filterMap_scrolled {f : Command → Option Float}
    (hf : ∀ {c : Command}, c.isScroll = false → f c = none) (cs : List Command) :
    (scrolled cs).filterMap f = cs.filterMap f := by
  rw [scrolled, List.filterMap_filter]
  refine List.filterMap_congr fun c _ => ?_
  split
  · rfl
  · rename_i hc
    exact (hf (Bool.not_eq_true _ ▸ hc)).symm

theorem scrolled_of_not_isWheel {cs : List Command} (h : ∀ c ∈ cs, ¬c.IsWheel) :
    scrolled cs = [] :=
  List.filter_eq_nil_iff.2 fun c hc hscroll => h c hc (Command.isWheel_of_isScroll hscroll)

namespace ScrollProgress

/-- From `before` to `after` the commands that scroll are added to the totals, in order. -/
structure Adds (before : ScrollProgress) (cs : List Command) (after : ScrollProgress) : Prop where
  totalX : after.totalX = (cs.filterMap Command.sideways?).foldl (· + ·) before.totalX
  totalY : after.totalY = (cs.filterMap Command.upright?).foldl (· + ·) before.totalY
  started : after.started = true ↔ before.started = true ∨ scrolled cs ≠ []

variable {p q : ScrollProgress} {cs ds : List Command}

/-- Only the commands that scroll count. -/
theorem adds_congr (h : scrolled cs = scrolled ds) : p.Adds cs q ↔ p.Adds ds q := by
  have hsideways : cs.filterMap Command.sideways? = ds.filterMap Command.sideways? := by
    rw [← filterMap_scrolled Command.sideways?_of_still, h,
      filterMap_scrolled Command.sideways?_of_still]
  have hupright : cs.filterMap Command.upright? = ds.filterMap Command.upright? := by
    rw [← filterMap_scrolled Command.upright?_of_still, h,
      filterMap_scrolled Command.upright?_of_still]
  constructor
  · exact fun ⟨hx, hy, hs⟩ => ⟨hsideways ▸ hx, hupright ▸ hy, h ▸ hs⟩
  · exact fun ⟨hx, hy, hs⟩ => ⟨hsideways ▸ hx, hupright ▸ hy, h ▸ hs⟩

theorem adds_of_still (h : scrolled cs = []) (p : ScrollProgress) (anchor : Point) :
    p.Adds cs { p with anchor := anchor } := by
  rw [adds_congr (show scrolled cs = scrolled [] from h)]
  exact ⟨rfl, rfl, by simp [scrolled]⟩

theorem Adds.append {r : ScrollProgress} (h : p.Adds cs q) (h' : q.Adds ds r) :
    p.Adds (cs ++ ds) r where
  totalX := by rw [h'.totalX, h.totalX, List.filterMap_append, List.foldl_append]
  totalY := by rw [h'.totalY, h.totalY, List.filterMap_append, List.foldl_append]
  started := by
    rw [h'.started, h.started, scrolled_append, or_assoc]
    simp only [ne_eq, List.append_eq_nil_iff, not_and_or]

end ScrollProgress

/-! ## Samples -/

/-- From the turn `t` to the turn `u`, what is scrolled is added to the totals. -/
def Turn.Scrolls {σ : Type} (t u : Turn σ) : Prop :=
  ∃ now, scrolled u.sent = scrolled t.sent ++ scrolled now ∧
    t.context.scroll.Adds now u.context.scroll

section

variable {σ : Type} {t u : Turn σ} {s : Sample}

theorem Turn.scrolls_of_still (hsent : scrolled u.sent = scrolled t.sent)
    (hscroll : u.context.scroll = { t.context.scroll with anchor := u.context.scroll.anchor }) :
    t.Scrolls u := by
  refine ⟨[], hsent.trans (List.append_nil _).symm, ?_⟩
  rw [hscroll]
  exact ScrollProgress.adds_of_still rfl _ _

theorem Turn.scrollTo_scrolls (t : Turn σ) (s : Sample) : t.Scrolls (t.scrollTo s) := by
  simp only [Turn.scrollTo]
  split
  · exact ⟨[.scrollWithShift _ 0], by simp [scrolled_append],
      ⟨rfl, rfl, by simp [scrolled, Command.isScroll, Turn.update]⟩⟩
  · exact ⟨[.scroll 0 _], by simp [scrolled_append],
      ⟨rfl, rfl, by simp [scrolled, Command.isScroll, Turn.update]⟩⟩

/-- What does not scroll before a reaction makes no difference. -/
theorem Turn.Scrolls.of_still {t' : Turn σ} (h : t'.Scrolls u)
    (hsent : scrolled t'.sent = scrolled t.sent) (hscroll : t'.context.scroll = t.context.scroll) :
    t.Scrolls u := by
  obtain ⟨now, hnow, hadds⟩ := h
  exact ⟨now, hsent ▸ hnow, hscroll ▸ hadds⟩

variable [Scheduler σ]

/-- Of all that a handler makes of a sample, only the movements of two fingers scroll. -/
theorem Turn.Reacts.scrolls {state : State} {outcome : Bool × Turn σ}
    (h : t.Reacts s state outcome) : t.Scrolls outcome.2 := by
  cases h with
  | moved _ => exact (Turn.scrollTo_scrolls _ s).of_still (by simp) rfl
  | wheeled _ => exact t.scrollTo_scrolls s
  | pinched _ _ =>
    obtain ⟨p, hstill | ⟨step, hzoom⟩⟩ := t.pinchTo_eq s
    · rw [hstill]
      exact Turn.scrolls_of_still rfl rfl
    · rw [hzoom]
      exact Turn.scrolls_of_still (by simp [scrolled, Command.isScroll]) rfl
  | touched _ hbegins =>
    cases hbegins with
    | tap _ | two _ | pinch _ | nothing _ => exact Turn.scrolls_of_still (by simp) rfl
    | press _ => exact Turn.scrolls_of_still (by simp [scrolled, Command.isScroll]) rfl
  | ignored _ | jittered _ _ | kept _ | thinned _ _ => exact Turn.scrolls_of_still rfl rfl
  | approached _ | departed _ | tapped _ _ | slid _ _ | strayed _ _ | withdrawn _ | lifted _ _
  | taken _ | finished _ | parted _ _ | ended _ => exact Turn.scrolls_of_still (by simp) rfl
  | pressed _ | grabbed _ _ | pointed _ _ | dragged _ | dropped _ | clicked _ _ | released _
  | held _ => exact Turn.scrolls_of_still (by simp [scrolled, Command.isScroll]) rfl

theorem Turn.scrolls_dispatch (t : Turn σ) (s : Sample) :
    t.Scrolls (Registry.standard.dispatch s t).2 := by
  obtain ⟨label, hreacts⟩ := t.reacts_dispatch s
  exact hreacts.scrolls.of_still (by simp) rfl

/-- Whatever a sample leads to, unless it drops everything. -/
theorem Turn.scrolls_route (t : Turn σ) (hcancel : s.action ≠ .cancel) :
    t.Scrolls (t.route .standard s).2 := by
  have hroutes := t.routes s
  generalize (t.route .standard s).2 = u at hroutes ⊢
  cases hroutes with
  | ignored => exact Turn.scrolls_of_still rfl rfl
  | pinched _ _ => exact Turn.scrolls_of_still (by simp) rfl
  | pressed _ => exact Turn.scrolls_of_still (by simp [scrolled, Command.isScroll]) rfl
  | dropped ha => exact absurd ha hcancel
  | lifted _ => exact t.scrolls_dispatch s
  | handed _ => exact ((t.classify s).scrolls_dispatch s).of_still (by simp) rfl

end

/-! ## Calls -/

/-- Two fingers come down. -/
def Sample.TouchesTwo (s : Sample) : Prop := s.action = .down ∧ s.kind = .twoFinger

namespace Host

open Recognizer

variable {σ γ : Type} [Scheduler σ] {h : Host σ γ} {r : Recognizer σ} {c : γ} {calls : List γ}

/-- Unless it drops everything, a call adds to the totals what it scrolls. -/
theorem adds_step (hb : r.handlers = .standard) (hdrops : ¬(h.request c).Drops) :
    r.context.scroll.Adds (h.step r c).sent (h.step r c).next.context.scroll := by
  have hidles := h.idles r c
  have hlapse : r.context.scroll.Adds (Event.commands (h.lapse r c))
      (h.facing r c).context.scroll := by
    rw [hidles.scroll]
    exact ScrollProgress.adds_of_still (scrolled_of_not_isWheel hidles.not_isWheel) _ _
  rw [h.sent_step, h.next_step]
  refine hlapse.append ?_
  cases hreq : h.request c with
  | nothing => exact ScrollProgress.adds_of_still rfl _ _
  | sample s =>
    rw [hreq, Request.drops_sample] at hdrops
    obtain ⟨now, hnow, hadds⟩ := (h.facing r c).turn.scrolls_route hdrops
    rw [grant_sample (hidles.handlers.trans hb)]
    exact (ScrollProgress.adds_congr (show scrolled _ = scrolled now from hnow)).2 hadds
  | reset => exact absurd (.inl hreq) hdrops

/-- A call that drops everything leaves no totals. -/
theorem drops_step (hdrops : (h.request c).Drops) :
    (h.step r c).next.context.scroll = {} ∧ (h.step r c).next.state = .idle := by
  have hreset : (h.step r c).next = (h.facing r c).reset.next := by
    rw [h.next_step]
    cases hreq : h.request c with
    | nothing => simp [hreq, Request.Drops, Request.Asks] at hdrops
    | sample s =>
      rw [hreq, Request.drops_sample] at hdrops
      exact ((h.facing r c).handle_of_cancel hdrops).1
    | reset => rfl
  rw [hreset]
  exact ⟨rfl, congrArg Stance.state (h.facing r c).turn.stance_reset⟩

/-- Two fingers that come down at rest are the only way in. -/
theorem isOfTwo_step (hb : r.handlers = .standard) (htwo : (h.step r c).next.state.IsOfTwo) :
    r.state.IsOfTwo ∨ (r.state = .idle ∧ (h.request c).Asks Sample.TouchesTwo) := by
  have hidles := h.idles r c
  have hrests : (h.facing r c).state = .idle ↔ r.state = .idle :=
    hidles.state_iff (by decide) (by decide)
  have hwaits : (h.facing r c).state = .twoFingerTapPending ↔ r.state = .twoFingerTapPending :=
    hidles.state_iff (by decide) (by decide)
  have hscrolls : (h.facing r c).state = .twoFingerScroll ↔ r.state = .twoFingerScroll :=
    hidles.state_iff (by decide) (by decide)
  have hkeeps : (h.facing r c).state.IsOfTwo → r.state.IsOfTwo := by
    rw [State.isOfTwo_iff, State.isOfTwo_iff, hwaits, hscrolls]
    exact id
  rw [h.next_step] at htwo
  cases hreq : h.request c with
  | nothing =>
    rw [hreq] at htwo
    exact .inl (hkeeps htwo)
  | sample s =>
    rw [hreq, grant_sample (hidles.handlers.trans hb)] at htwo
    have hroute : ((h.facing r c).turn.route .standard s).2.state.IsOfTwo := htwo
    by_cases hw : (h.facing r c).state = .twoFingerTapPending
    · exact .inl (State.isOfTwo_iff.2 (.inl (hwaits.1 hw)))
    · rcases Turn.state_route (t := (h.facing r c).turn) hw hroute with hsame | ⟨hidle, hs⟩
      · rw [hsame] at hroute
        exact .inl (hkeeps hroute)
      · exact .inr ⟨hrests.1 hidle, hs⟩
  | reset =>
    have hstate : (h.facing r c).turn.reset.state = .idle :=
      congrArg Stance.state (h.facing r c).turn.stance_reset
    rw [hreq] at htwo
    exact absurd (show State.IsOfTwo .idle from hstate ▸ htwo) id

/-! ## Runs -/

theorem adds_run (hb : r.handlers = .standard) (hdrops : ∀ c ∈ calls, ¬(h.request c).Drops) :
    r.context.scroll.Adds (sentIn h.step r calls) (after h.step r calls).context.scroll := by
  have hstart : r.context.scroll.Adds [] r.context.scroll :=
    ScrollProgress.adds_of_still rfl _ _
  exact (sentIn_keeps (P := fun sent q => q.handlers = .standard ∧
      r.context.scroll.Adds sent q.context.scroll)
    (fun _ q c hc hq => ⟨(h.handlers_step q c).trans hq.1,
      hq.2.append (adds_step hq.1 (hdrops c hc))⟩)
    ⟨hb, hstart⟩).2

/-- A gesture of two fingers goes on since two fingers came down at rest. -/
theorem since_touch (hb : r.handlers = .standard) (hr : ¬r.state.IsOfTwo)
    (htwo : (after h.step r calls).state.IsOfTwo) :
    h.Since (fun q c => (h.step q c).next.state.IsOfTwo)
      (fun q c => q.state = .idle ∧ (h.request c).Asks Sample.TouchesTwo) r calls := by
  induction calls using List.reverseRecOn with
  | nil => exact absurd htwo hr
  | append_singleton calls c ih =>
    rw [after_append] at htwo
    rcases isOfTwo_step ((h.handlers_after r calls).trans hb) htwo with hbefore | htouch
    · exact since_concat.2 (.inr ⟨htwo, ih hbefore⟩)
    · exact since_concat.2 (.inl htouch)

/-- The calls `since` come after the last of `past`, which dropped everything. -/
structure Undropped (h : Host σ γ) (past since : List γ) : Prop where
  last : ∀ c ∈ past.getLast?, (h.request c).Drops
  since : ∀ c ∈ since, ¬(h.request c).Drops

theorem exists_undropped (h : Host σ γ) (calls : List γ) :
    ∃ past since, calls = past ++ since ∧ h.Undropped past since := by
  induction calls using List.reverseRecOn with
  | nil => exact ⟨[], [], rfl, by simp, by simp⟩
  | append_singleton calls c ih =>
    by_cases hdrops : (h.request c).Drops
    · exact ⟨calls ++ [c], [], (List.append_nil _).symm, by simp [hdrops], by simp⟩
    · obtain ⟨past, since, rfl, hlast, hsince⟩ := ih
      refine ⟨past, since ++ [c], List.append_assoc .., hlast, fun d hd => ?_⟩
      rcases List.mem_append.1 hd with hd | hd
      · exact hsince d hd
      · exact List.mem_singleton.1 hd ▸ hdrops

/-- After the last drop, as at the start, there is no gesture and there are no totals. -/
theorem Undropped.fresh {past since : List γ} (hu : h.Undropped past since)
    (hs : r.state = .idle) (hscroll : r.context.scroll = {}) :
    (after h.step r past).state = .idle ∧ (after h.step r past).context.scroll = {} := by
  rcases List.eq_nil_or_concat past with rfl | ⟨before, c, rfl⟩
  · exact ⟨hs, hscroll⟩
  · rw [List.concat_eq_append] at hu ⊢
    have hdrops : (h.request c).Drops := hu.last c (by simp)
    rw [after_append]
    exact (drops_step hdrops).symm

end Host

/-! ## Results -/

namespace Recognizer

variable {σ γ : Type} [Scheduler σ]

/-- The totals are the sums of what was scrolled since everything was last dropped. A gesture of two
fingers begins later than that, with two fingers that come down at rest. If nothing was scrolled in
between, the totals are those of the gesture, and otherwise it counts as started all along. -/
theorem totals_since_drop (h : Host σ γ) (config : Config) (timers : σ) (calls : List γ) :
    let start := new config timers
    let q := after h.step start calls
    ∃ past since, calls = past ++ since ∧ h.Undropped past since ∧
      let r := after h.step start past
      ScrollProgress.Adds {} (sentIn h.step r since) q.context.scroll ∧
      (q.state = .twoFingerTapPending ∨ q.state = .twoFingerScroll →
        ∃ earlier touch during, since = earlier ++ touch :: during ∧
          (after h.step r earlier).state = .idle ∧ (h.request touch).Asks Sample.TouchesTwo ∧
          h.Along (fun p c => (h.step p c).next.state.IsOfTwo)
            (h.step (after h.step r earlier) touch).next during ∧
          (scrolled (sentIn h.step r earlier) = [] →
            ScrollProgress.Adds {} (sentIn h.step (after h.step r earlier) (touch :: during))
              q.context.scroll) ∧
          (scrolled (sentIn h.step r earlier) ≠ [] → q.context.scroll.started = true)) := by
  intro start q
  obtain ⟨past, since, rfl, hu⟩ := h.exists_undropped calls
  refine ⟨past, since, rfl, hu, ?_⟩
  intro r
  obtain ⟨hidle, hnone⟩ := hu.fresh (r := start) rfl rfl
  have hb : r.handlers = .standard := h.handlers_after start past
  have hq : q = after h.step r since := after_append ..
  have hadds := Host.adds_run hb hu.since
  rw [hnone] at hadds
  rw [hq]
  refine ⟨hadds, fun htwo => ?_⟩
  have hrests : ¬r.state.IsOfTwo := by
    rw [show r.state = .idle from hidle]
    exact id
  obtain ⟨earlier, touch, during, rfl, ⟨hatRest, htouch⟩, halong⟩ :=
    Host.since_touch hb hrests (State.isOfTwo_iff.2 htwo)
  refine ⟨earlier, touch, during, rfl, hatRest, htouch, halong, fun hstill => ?_, fun hmoved => ?_⟩
  · refine (ScrollProgress.adds_congr ?_).1 hadds
    rw [sentIn_append, scrolled_append, hstill, List.nil_append]
  · refine hadds.started.2 (.inr fun hnothing => hmoved ?_)
    rw [sentIn_append, scrolled_append] at hnothing
    exact (List.append_eq_nil_iff.1 hnothing).1

/-- After a scroll that was cancelled two fingers come down and move twice. -/
theorem totals_since_drop_by_cancel :
    let down := fun (y : Float) (time : Time) =>
      (Sample.single .down ⟨10, y⟩ time).withFlags .twoFinger
    let calls := [TimedCall.handleAt (down 10 0), .handleAt (.single .move ⟨10, 30⟩ 10),
      .handleAt (.single .cancel ⟨10, 30⟩ 20), .handleAt (down 30 30),
      .handleAt (.single .move ⟨10, 40⟩ 40), .handleAt (.single .move ⟨30, 40⟩ 50)]
    (after Host.queued.step (new {} (Queue.startingAt 0)) calls).context.scroll =
        ⟨⟨30, 40⟩, -12, -6, true⟩ ∧
      ∃ past earlier touch during, calls = past ++ (earlier ++ touch :: during) ∧
        ScrollProgress.Adds {}
          (sentIn Host.queued.step (after Host.queued.step (new {} (Queue.startingAt 0)) past)
            (earlier ++ touch :: during))
          (after Host.queued.step (new {} (Queue.startingAt 0)) calls).context.scroll := by
  intro down calls
  have hstate : (after Host.queued.step (new {} (Queue.startingAt 0)) calls).state =
      .twoFingerScroll := by decide +kernel
  obtain ⟨past, since, hcalls, -, hadds, hgesture⟩ :=
    totals_since_drop Host.queued {} (Queue.startingAt 0) calls
  obtain ⟨earlier, touch, during, rfl, -⟩ := hgesture (.inr hstate)
  exact ⟨by decide +kernel, past, earlier, touch, during, hcalls, hadds⟩

/-- Two fingers scroll by 12 and are lifted. The next two scroll by 6, and the total is 18; it
counted as started already when they came down. -/
theorem totals_outlive_gesture :
    let down := fun (y : Float) (time : Time) =>
      (Sample.single .down ⟨10, y⟩ time).withFlags .twoFinger
    let r := after performTimed (new {} (Queue.startingAt 0))
      [.handleAt (down 10 0), .handleAt (.single .move ⟨10, 30⟩ 10),
        .handleAt (.single .up ⟨10, 30⟩ 20)]
    let gesture := [TimedCall.handleAt (down 30 30), .handleAt (.single .move ⟨10, 40⟩ 40)]
    let e := after performTimed r gesture
    sentIn performTimed r gesture = [.scroll 0 (-6)] ∧ e.state = .twoFingerScroll ∧
      e.context.scroll.totalY = -18 ∧
      (r.performTimed (.handleAt (down 30 30))).next.context.scroll.started = true := by
  decide +kernel

end Recognizer

end Trackpad
