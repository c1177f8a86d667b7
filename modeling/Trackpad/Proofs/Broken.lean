import Mathlib.Data.List.Induction
import Trackpad.Proofs.Held

/-!
# Broken — buttons that stay down, and buttons pressed twice

A drag holds the left button and a press of the pad the middle one, and each lets its button go when
it ends by its own handler or timeout. A reset, a cancel and the second contact of a pinch end both
without that, and so does a press of the pad with a drag (`Call.BreaksOff`). The button then stays
down until a later drag or press of the pad ends properly (`Recognizer.BrokenOff`). Nothing else
leaves a button down (`stands_or_brokenOff_of_held`).

The second half asks when a button is pressed that is down already. A press of the pad presses the
middle button in every state, so also when the pad is down.
-/

namespace Trackpad

variable {σ : Type} [Scheduler σ]

namespace Call

/-- The call ends what holds the button and does not let it go. -/
def BreaksOff (b : MouseButton) (c : Call) : Prop := c.Abandons ∨ (b = .left ∧ c.IsButtonPress)

end Call

namespace Recognizer

theorem sent_of_abandons {r : Recognizer σ} {c : Call} (h : c.Abandons) :
    (r.perform c).sent = [] := by
  cases c with
  | handle s =>
    rcases h with hcancel | ⟨hdown, htwo⟩
    · exact (r.handle_of_cancel hcancel).2
    · exact (r.handle_of_pinch hdown htwo).2
  | onTimer slot ticket => exact h.elim
  | reset => exact r.reset_does.2

theorem sent_of_isButtonPress {r : Recognizer σ} {c : Call} (h : c.IsButtonPress) :
    (r.perform c).sent = [.press .middle] := by
  obtain ⟨s, rfl, hpress⟩ := h
  exact (r.handle_of_buttonPress hpress).2

theorem release_notMem_of_breaksOff {r : Recognizer σ} {b : MouseButton} {c : Call}
    (h : c.BreaksOff b) : .release b ∉ (r.perform c).sent := by
  rcases h with habandons | ⟨-, hpress⟩
  · rw [sent_of_abandons habandons]
    exact List.not_mem_nil
  · rw [sent_of_isButtonPress hpress]
    simp

end Recognizer

/-! ## What leaves a button down -/

/-- After a call a button is down only if its state holds it, or if it was down before and the call
did not let it go, where it broke off what held it. -/
theorem Grasp.held_cases {c : Call} {state target : State} {past now : List Command}
    {b : MouseButton} (hg : Grasp c state now target) (h : Held b (past ++ now)) :
    target.button? = some b ∨
      (Held b past ∧ .release b ∉ now ∧ (state.button? = some b → c.BreaksOff b)) := by
  -- Commands that do not concern the button leave it as it was.
  have hkept (hnow : ∀ cmd ∈ now, cmd.effect? b = none) : Held b past ∧ .release b ∉ now := by
    refine ⟨(held_append_iff hnow).1 h, fun hrelease => ?_⟩
    have heffect := hnow _ hrelease
    simp [Command.effect?] at heffect
  cases hg with
  | quiet hsent hsame =>
    by_cases hb : target.button? = some b
    · exact .inl hb
    · obtain ⟨hpast, hno⟩ := hkept fun cmd hcmd => (hsent cmd hcmd).effect? b
      exact .inr ⟨hpast, hno, fun hstate => absurd (hsame.trans hstate) hb⟩
  | pressPad hpress =>
    by_cases hb : b = .middle
    · exact .inl (congrArg some hb.symm)
    · obtain ⟨hpast, hno⟩ := hkept (by simp [Command.effect?, Ne.symm hb])
      refine .inr ⟨hpast, hno, fun hstate => ?_⟩
      rcases hpress with hpress | rfl
      · -- The pad takes the place of a drag, which is all that could hold another button.
        cases b with
        | left => exact .inr ⟨rfl, hpress⟩
        | middle => exact absurd rfl hb
        | right => exact absurd hstate state.button?_ne_right
      · cases hstate
  | beginDrag p hstate =>
    by_cases hb : b = .left
    · exact .inl (congrArg some hb.symm)
    · obtain ⟨hpast, hno⟩ := hkept (by simp [Command.effect?, Ne.symm hb])
      subst hstate
      exact .inr ⟨hpast, hno, fun hbutton => by cases hbutton⟩
  | drag p hother =>
    by_cases hb : state.button? = some b
    · exact .inl hb
    · obtain ⟨hpast, hno⟩ := hkept (by simp [Command.effect?])
      exact .inr ⟨hpast, hno, fun hstate => absurd hstate hb⟩
  | @letGo _ other hother _ =>
    by_cases hb : b = other
    · exact absurd (hb ▸ h) (not_held_append_release other past)
    · obtain ⟨hpast, hno⟩ := hkept (by simp [Command.effect?, Ne.symm hb])
      exact .inr ⟨hpast, hno, fun hstate => absurd (Option.some.inj (hstate.symm.trans hother)) hb⟩
  | abandon hc _ =>
    obtain ⟨hpast, hno⟩ := hkept (List.forall_mem_nil _)
    exact .inr ⟨hpast, hno, fun _ => .inl hc⟩

namespace Recognizer

/-- One of the calls broke off what held the button, and the button was not let go since. -/
def BrokenOff (b : MouseButton) (r : Recognizer σ) (calls : List Call) : Prop :=
  ∃ before c later, calls = before ++ c :: later ∧
    (after perform r before).state.button? = some b ∧ c.BreaksOff b ∧
    .release b ∉ sentIn perform ((after perform r before).perform c).next later

theorem BrokenOff.append {b : MouseButton} {r : Recognizer σ} {calls : List Call} {c : Call}
    (h : r.BrokenOff b calls) (hc : .release b ∉ ((after perform r calls).perform c).sent) :
    r.BrokenOff b (calls ++ [c]) := by
  obtain ⟨before, d, later, rfl, hstate, hbreaks, hno⟩ := h
  refine ⟨before, d, later ++ [c], by simp, hstate, hbreaks, ?_⟩
  rw [after_append, after_cons] at hc
  rw [sentIn_append, sentIn_singleton, List.mem_append]
  exact not_or.2 ⟨hno, hc⟩

/-- A button is down only in its state, or if it was broken off. -/
theorem stands_or_brokenOff_of_held {b : MouseButton} {r : Recognizer σ} {calls : List Call}
    (hb : r.handlers = .standard) (h : Held b (sentIn perform r calls)) :
    (after perform r calls).state.button? = some b ∨ r.BrokenOff b calls := by
  -- The last call decides, so the run is taken apart from its end.
  induction calls using List.reverseRecOn with
  | nil => exact absurd h (not_held_nil b)
  | append_singleton calls c ih =>
    have hq : (after perform r calls).handlers = .standard := (r.handlers_after calls).trans hb
    rw [sentIn_append, sentIn_singleton] at h
    rw [after_append, after_cons]
    rcases (grasp_perform hq c).held_cases h with hstands | ⟨hpast, hno, hbreaks⟩
    · exact .inl hstands
    · rcases ih hpast with hstate | hbroken
      · exact .inr ⟨calls, c, [], rfl, hstate, hbreaks hstate, List.not_mem_nil⟩
      · exact .inr (hbroken.append hno)

/-- A button that was broken off is down. -/
theorem held_of_brokenOff {b : MouseButton} {config : Config} {timers : σ} {calls : List Call}
    (h : (new config timers).BrokenOff b calls) :
    Held b (sentIn perform (new config timers) calls) := by
  obtain ⟨before, c, later, rfl, hstate, hbreaks, hno⟩ := h
  have hheld := (Grip.run config timers before).held b hstate
  rw [sentIn_append, sentIn_cons]
  refine hheld.append fun hrelease => ?_
  rcases List.mem_append.1 hrelease with hnow | hlater
  · exact release_notMem_of_breaksOff hbreaks hnow
  · exact hno hlater

/-- **What leaves a button down.** Whatever samples, callbacks and resets come: between two calls
the left button is held exactly during a drag, or if a reset, a cancel, a second contact or a press
of the pad broke off a drag and nothing released the button since; the middle button is held exactly
while the pad is pressed, or if a reset, a cancel or a second contact broke that off and nothing
released the button since; and the right button is never held. -/
theorem held_iff_stands_or_brokenOff (config : Config) (timers : σ) (calls : List Call) :
    let begin := new config timers
    let sent := sentIn perform begin calls
    let state := (after perform begin calls).state
    (Held .left sent ↔ state = .dragActive ∨ begin.BrokenOff .left calls) ∧
    (Held .middle sent ↔ state = .physicalClick ∨ begin.BrokenOff .middle calls) ∧
    ¬Held .right sent := by
  intro begin sent state
  have hheld (b : MouseButton) :
      Held b sent ↔ state.button? = some b ∨ begin.BrokenOff b calls := by
    refine ⟨stands_or_brokenOff_of_held rfl, fun h => ?_⟩
    rcases h with hstands | hbroken
    · exact (Grip.run config timers calls).held b hstands
    · exact held_of_brokenOff hbroken
  refine ⟨(hheld .left).trans (or_congr_left State.button?_eq_left_iff),
    (hheld .middle).trans (or_congr_left State.button?_eq_middle_iff), ?_⟩
  -- No state stands for the right button, so none can be broken off either.
  rw [hheld]
  rintro (hstands | ⟨before, -, -, -, hstate, -⟩)
  · exact state.button?_ne_right hstands
  · exact State.button?_ne_right _ hstate

/-- The second contact of a pinch lands during a drag: the drag is over, and the left button stays
down. -/
theorem held_after_pinched_drag :
    let down := Sample.single .down ⟨10, 10⟩ 0
    let calls : List Call := [.handle down, .handle (.single .up ⟨10, 10⟩ 40),
      .handle (.single .hoverEnter ⟨10, 10⟩ 60), .handle (.single .hoverMove ⟨12, 10⟩ 80),
      .handle { down with action := .pointerDown, pointerCount := 2 }]
    (after perform (new {} (Queue.startingAt 0)) calls).state = .pinchZoom ∧
      Held .left (sentIn perform (new {} (Queue.startingAt 0)) calls) := by
  decide +kernel

end Recognizer

/-! ## What presses a button that is down -/

/-- One of the commands `now` presses a button that is down when it comes. -/
def PressesAgain (b : MouseButton) (past now : List Command) : Prop :=
  ∃ first rest, now = first ++ .press b :: rest ∧ Held b (past ++ first)

/-- A call presses at most one button, and first of all, so a button that it presses again was down
before the call. -/
theorem Grasp.pressesAgain_cases {c : Call} {state target : State} {past now : List Command}
    {b : MouseButton} (hg : Grasp c state now target) (h : PressesAgain b past now) :
    Held b past ∧ ((b = .middle ∧ (c.IsButtonPress ∨ state = .idle)) ∨
      (b = .left ∧ state = .hoverTracking)) := by
  obtain ⟨first, rest, hnow, hheld⟩ := h
  have hpress : .press b ∈ now := by simp [hnow]
  cases hg with
  | quiet hsent _ => exact (hsent _ hpress).elim
  | pressPad hpad =>
    obtain rfl : b = .middle := by simpa using hpress
    cases first with
    | nil => exact ⟨by simpa using hheld, .inl ⟨rfl, hpad⟩⟩
    | cons cmd first => simp at hnow
  | beginDrag p hstate =>
    obtain rfl : b = .left := by simpa using hpress
    cases first with
    | nil => exact ⟨by simpa using hheld, .inr ⟨rfl, hstate⟩⟩
    | cons cmd first => simp [List.singleton_eq_append_iff] at hnow
  | drag p _ => simp at hpress
  | letGo _ _ => simp at hpress
  | abandon _ _ => simp at hpress

namespace Call

/-- The call is a reset, or the sample of a cancel or of a contact that joins another. -/
def Interrupts : Call → Prop
  | reset => True
  | handle s => s.action = .cancel ∨ s.action = .pointerDown
  | onTimer .. => False

theorem Abandons.interrupts {c : Call} (h : c.Abandons) : c.Interrupts := by
  cases c with
  | handle s => exact h.imp_right And.left
  | onTimer slot ticket => exact h.elim
  | reset => trivial

end Call

namespace Recognizer

/-- Without interruptions, a press of the pad is all that breaks anything off, and only a drag. -/
theorem not_brokenOff_middle {r : Recognizer σ} {calls : List Call}
    (calm : ∀ d ∈ calls, ¬d.Interrupts) : ¬r.BrokenOff .middle calls := by
  rintro ⟨first, d, rest, rfl, -, habandons | ⟨hleft, -⟩, -⟩
  · exact calm d (by simp) habandons.interrupts
  · cases hleft

/-- **What presses a button that is down.** In a run without resets, cancels and contacts that join
another, a call presses the middle button while it is held exactly if it is a press of the pad that
comes while the pad is pressed. The right button is never pressed while it is held, nor is the left
one, unless a press of the pad has broken off a drag and nothing released the button since. -/
theorem pressesAgain_middle_iff (config : Config) (timers : σ) (before : List Call) (c : Call)
    (calm : ∀ d ∈ before ++ [c], ¬d.Interrupts) :
    let begin := new config timers
    let r := after perform begin before
    let past := sentIn perform begin before
    let now := (r.perform c).sent
    (PressesAgain .middle past now ↔ r.state = .physicalClick ∧ c.IsButtonPress) ∧
    (¬begin.BrokenOff .left before → ¬PressesAgain .left past now) ∧
    ¬PressesAgain .right past now := by
  intro begin r past now
  have hr : r.handlers = .standard := begin.handlers_after before
  have hgrip : Grip past r.state := Grip.run config timers before
  have hcases {b : MouseButton} (h : PressesAgain b past now) :=
    (grasp_perform hr c).pressesAgain_cases h
  have hstands {b : MouseButton} (hheld : Held b past) (hno : ¬begin.BrokenOff b before) :
      r.state.button? = some b :=
    (stands_or_brokenOff_of_held rfl hheld).resolve_right hno
  refine ⟨⟨fun h => ?_, fun ⟨hpad, hpress⟩ => ?_⟩, fun hno h => ?_, fun h => ?_⟩
  · obtain ⟨hheld, hpress | ⟨hleft, -⟩⟩ := hcases h
    · have hbefore : ∀ d ∈ before, ¬d.Interrupts := fun d hd =>
        calm d (List.mem_append_left _ hd)
      have hpad : r.state = .physicalClick :=
        State.button?_eq_middle_iff.1 (hstands hheld (not_brokenOff_middle hbefore))
      refine ⟨hpad, hpress.2.resolve_right fun hidle => ?_⟩
      cases hpad.symm.trans hidle
    · cases hleft
  · refine ⟨[], [], sent_of_isButtonPress hpress, ?_⟩
    rw [List.append_nil]
    exact hgrip.held _ (State.button?_eq_middle_iff.2 hpad)
  · obtain ⟨hheld, ⟨hmiddle, -⟩ | ⟨-, hhover⟩⟩ := hcases h
    · cases hmiddle
    · -- A drag begins with its button up, unless an earlier drag left it down.
      have hdrag : r.state = .dragActive := State.button?_eq_left_iff.1 (hstands hheld hno)
      cases hdrag.symm.trans hhover
  · obtain ⟨-, ⟨hmiddle, -⟩ | ⟨hleft, -⟩⟩ := hcases h
    · cases hmiddle
    · cases hleft

/-- A contact lands with the pad pressed, and then the pad reports its press. -/
theorem pressesAgain_middle_of_late_report :
    let down : Call := .handle { Sample.single .down ⟨10, 10⟩ 0 with buttons := .primary }
    let press : Call := .handle (.single .buttonPress ⟨10, 10⟩ 5)
    let begin := new {} (Queue.startingAt 0)
    PressesAgain .middle (sentIn perform begin [down])
      ((after perform begin [down]).perform press).sent := by
  intro down press begin
  have hall := pressesAgain_middle_iff {} (Queue.startingAt 0) [down] press
    (by simp [down, press, Call.Interrupts, Sample.single])
  exact hall.1.2 ⟨by decide +kernel, _, rfl, rfl⟩

/-- The pad reports two presses in a row. -/
theorem middle_pressed_twice :
    let press : Call := .handle (.single .buttonPress ⟨10, 10⟩ 0)
    (∀ c ∈ [press, press], ¬c.Interrupts) ∧
    sentIn perform (new {} (Queue.startingAt 0)) [press, press] =
      [.press .middle] ++ .press .middle :: [] ∧ Held .middle [.press .middle] := by
  intro press
  exact ⟨by simp [press, Call.Interrupts, Sample.single], by decide +kernel, by decide⟩

end Recognizer

end Trackpad
